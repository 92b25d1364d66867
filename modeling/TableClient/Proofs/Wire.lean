import TableClient.Proofs.Members
import TableClient.Proofs.Query.Counts
import TableClient.Wire
/-! What is written is read back as it was. One record is an object and a batch an array, so
neither can be taken for the other, and the three forms under the key `records` are one form: the
body of a write is read as a list answer and as the answer to a write, too. -/
namespace TableClient

theorem Json.distinctKeysAll_map {write : α → Json} {values : List α}
    (each : ∀ value ∈ values, (write value).DistinctKeys) :
    DistinctKeysAll (values.map write) := by
  induction values with
  | nil => trivial
  | cons value rest ih =>
    constructor
    · exact each value List.mem_cons_self
    · exact ih fun other member => each other (List.mem_cons_of_mem _ member)

namespace Json.Source

mutual

theorem value?_ofJson : (json : Json) → json.DistinctKeys → (ofJson json).value? = some json
  | .null, _ => rfl
  | .bool _, _ => rfl
  | .number _, _ => rfl
  | .string _, _ => rfl
  | .array items, distinct => by
    rw [ofJson, value?, values?_ofItems items distinct]
    rfl
  | .object members, ⟨distinct, each⟩ => by
    rw [ofJson, value?, memberValues?_ofMembers members each, Option.map_some,
      Members.ofPairs_of_distinct distinct]

theorem values?_ofItems : (items : List Json) → DistinctKeysAll items →
    values? (ofItems items) = some items
  | [], _ => rfl
  | item :: rest, ⟨distinct, each⟩ => by
    rw [ofItems, values?, value?_ofJson item distinct, values?_ofItems rest each]
    rfl

theorem memberValues?_ofMembers : (members : List (String × Json)) → DistinctKeysMembers members →
    memberValues? (ofMembers members) = some members
  | [], _ => rfl
  | (key, value) :: rest, ⟨distinct, each⟩ => by
    rw [ofMembers, memberValues?, value?_ofJson value distinct, memberValues?_ofMembers rest each]
    rfl

end

theorem map?_ofJson {members : Members Json} (distinct : (Json.object members).DistinctKeys) :
    (ofJson (.object members)).map? = some members := by
  obtain ⟨distinct, each⟩ := distinct
  rw [ofJson, map?, memberValues?_ofMembers members each, Option.map_some,
    Members.ofPairs_of_distinct distinct]

theorem nullable?_of_some {part : Source → Option α} {source : Source} {value : α}
    (null : part .null = none) (reads : part source = some value) :
    source.nullable? part = some (some value) := by
  cases source with
  | null => cases null.symm.trans reads
  | _ => exact congrArg (Option.map some) reads

/-- A list is read back if each of its items is. -/
theorem array?_ofJson {item : Source → Option α} {write : α → Json} {values : List α}
    (reads : ∀ value ∈ values, item (ofJson (write value)) = some value) :
    (ofJson (.array (values.map write))).array? item = some values := by
  rw [ofJson, array?]
  induction values with
  | nil => rfl
  | cons value rest ih =>
    have later := ih fun other member => reads other (List.mem_cons_of_mem _ member)
    rw [List.map_cons, ofItems, List.mapM_cons, reads value List.mem_cons_self, later]
    rfl

end Json.Source

open Json (Source)

namespace Record

/-- Neither the fields of a record nor an object inside them repeat a key: they are maps. -/
def DistinctKeys (record : Record) : Prop := (Json.object record.fields).DistinctKeys

theorem ofSource?_ofJson {record : Record} (distinct : record.DistinctKeys) :
    ofSource? (.ofJson record.toJson) = some record := by
  have fields := Source.map?_ofJson distinct
  obtain ⟨id, members⟩ := record
  -- The keys of the object are known, so each part is found by evaluation.
  cases id with
  | none =>
    change ofParts? none (some (Source.ofJson (.object members))) = _
    simp only [ofParts?, idPart?, fieldsPart?, fields]
    rfl
  | some id =>
    change ofParts? (some (.string id)) (some (Source.ofJson (.object members))) = _
    simp only [ofParts?, idPart?, fieldsPart?, fields]
    rfl

theorem distinctKeys_toJson {record : Record} (distinct : record.DistinctKeys) :
    record.toJson.DistinctKeys := by
  obtain ⟨id, members⟩ := record
  cases id with
  | none => exact ⟨by simp [Members.Distinct, Members.keys], distinct, trivial⟩
  | some id => exact ⟨by simp [Members.Distinct, Members.keys], trivial, distinct, trivial⟩

end Record

namespace OneOrMany

variable {α : Type} {item : Source → Option α} {write : α → Json}

/-- One item or a batch is read back as it is if an item is, and if none is written as an array. -/
theorem ofSource?_ofJson {values : OneOrMany α}
    (reads : ∀ value ∈ values.toList, item (.ofJson (write value)) = some value)
    (distinct : ∀ value ∈ values.toList, (write value).DistinctKeys)
    (objects : ∀ value ∈ values.toList, ∃ members, write value = .object members) :
    ofSource? item (.ofJson (values.toJson write)) = some values := by
  cases values with
  | one value =>
    have readable := Source.value?_ofJson _ (distinct value List.mem_cons_self)
    obtain ⟨members, same⟩ := objects value List.mem_cons_self
    -- A batch is tried first, and an object is none.
    have single : manyOfSource? item (.ofJson (write value)) = none := by
      rw [same]
      rfl
    rw [ofSource?, toJson, Source.isReadable, readable, single, oneOfSource?,
      reads value List.mem_cons_self]
    rfl
  | many values =>
    have readable :=
      Source.value?_ofJson (.array (values.map write)) (Json.distinctKeysAll_map distinct)
    have batch : manyOfSource? item (.ofJson (.array (values.map write))) = some (.many values) :=
      congrArg (Option.map OneOrMany.many) (Source.array?_ofJson reads)
    rw [ofSource?, toJson, Source.isReadable, readable, batch]
    rfl

end OneOrMany

namespace Wire

variable {records : List Record}

theorem records?_ofJson (each : ∀ record ∈ records, record.DistinctKeys) :
    records? (.ofJson (.array (records.map Record.toJson))) = some records :=
  Source.array?_ofJson fun record member => Record.ofSource?_ofJson (each record member)

theorem written_ofJson {records : OneOrMany Record}
    (each : ∀ record ∈ records.toList, record.DistinctKeys) :
    OneOrMany.ofSource? Record.ofSource? (.ofJson (records.toJson Record.toJson)) = some records := by
  apply OneOrMany.ofSource?_ofJson
  · exact fun record member => Record.ofSource?_ofJson (each record member)
  · exact fun record member => Record.distinctKeys_toJson (each record member)
  · exact fun record _ => ⟨_, rfl⟩

theorem listOfSource?_ofJson (each : ∀ record ∈ records, record.DistinctKeys) :
    listOfSource? (.ofJson (recordsToJson records)) = some records := by
  change recordsPart? (some (Source.ofJson (.array (records.map Record.toJson)))) = _
  rw [recordsPart?]
  change (Option.map some (records? _)).map _ = _
  rw [records?_ofJson each]
  rfl

theorem payloadOfSource?_ofJson (each : ∀ record ∈ records, record.DistinctKeys) :
    payloadOfSource? (.ofJson (recordsToJson records)) = some records :=
  records?_ofJson each

theorem writtenOfSource?_ofJson (each : ∀ record ∈ records, record.DistinctKeys) :
    writtenOfSource? (.ofJson (recordsToJson records)) = some (.many records) := by
  have batch : ∀ record ∈ (OneOrMany.many records).toList, record.DistinctKeys := each
  exact written_ofJson batch

end Wire

theorem Direction.ofSource?_ofJson (direction : Direction) :
    Direction.ofSource? (.string direction.text) = some direction := by
  cases direction <;> rfl

theorem SortKey.ofSource?_ofJson (key : SortKey) :
    SortKey.ofSource? (.ofJson key.toJson) = some key := by
  change SortKey.ofParts? (.string key.field) (.string key.direction.text) = _
  rw [ofParts?, Source.string?, Direction.ofSource?_ofJson]
  rfl

namespace Selection

/-- A part that may be missing is read back if a present one is, and null is none. -/
theorem part?_ofJson {part : Source → Option α} {write : α → Json}
    (reads : ∀ value, part (.ofJson (write value)) = some value) (null : part .null = none)
    (value : Option α) : part? part (some (.ofJson (optionToJson write value))) = some value := by
  cases value with
  | none => rfl
  | some value => exact Source.nullable?_of_some null (reads value)

theorem ofSource?_ofJson (selection : Selection) :
    ofSource? (.ofJson selection.toJson) = some selection := by
  obtain ⟨formula, sort, fields, maxRecords⟩ := selection
  change ofParts? (some (Source.ofJson (optionToJson .string formula)))
    (some (Source.ofJson (optionToJson (fun keys => .array (keys.map SortKey.toJson)) sort)))
    (some (Source.ofJson (optionToJson (fun names => .array (names.map .string)) fields)))
    (some (Source.ofJson (optionToJson .ofCount maxRecords))) = _
  rw [ofParts?, part?_ofJson (fun _ => rfl) rfl formula,
    part?_ofJson (fun keys => Source.array?_ofJson fun key _ => key.ofSource?_ofJson) rfl sort,
    part?_ofJson (fun names => Source.array?_ofJson fun _ _ => rfl) rfl fields,
    part?_ofJson Number.toCount?_ofCount rfl maxRecords]
  rfl

end Selection

/-- What is written is read back: a record, one or a batch of records in either shape, a list of
records under its key, and a selection. The body of a write is the same when it is read as the
answer to a list request, and the batch of its records when it is read as the answer to a write. -/
theorem Wire.written_reads_back :
    (∀ record : Record, record.DistinctKeys →
      Record.ofSource? (.ofJson record.toJson) = some record) ∧
    (∀ records : OneOrMany Record, (∀ record ∈ records.toList, record.DistinctKeys) →
      OneOrMany.ofSource? Record.ofSource? (.ofJson (records.toJson Record.toJson)) = some records) ∧
    (∀ data : OneOrMany FlatRecord, (∀ item ∈ data.toList, (Json.object item).DistinctKeys) →
      FlatRecord.oneOrManyOfSource? (.ofJson (data.toJson .object)) = some data) ∧
    (∀ records : List Record, (∀ record ∈ records, record.DistinctKeys) →
      listOfSource? (.ofJson (recordsToJson records)) = some records ∧
      payloadOfSource? (.ofJson (recordsToJson records)) = some records ∧
      writtenOfSource? (.ofJson (recordsToJson records)) = some (.many records)) ∧
    ∀ selection : Selection, Selection.ofSource? (.ofJson selection.toJson) = some selection := by
  refine ⟨fun _ => Record.ofSource?_ofJson, fun _ => written_ofJson, ?_, ?_,
    Selection.ofSource?_ofJson⟩
  · intro data distinct
    apply OneOrMany.ofSource?_ofJson
    · exact fun item member => Source.map?_ofJson (distinct item member)
    · exact distinct
    · exact fun item _ => ⟨item, rfl⟩
  · intro records distinct
    exact ⟨listOfSource?_ofJson distinct, payloadOfSource?_ofJson distinct,
      writtenOfSource?_ofJson distinct⟩

theorem Wire.written_reads_back_nested :
    let fields : Fields :=
      [("id", .array []), ("n", .object [("n", .null), ("m", .array [.number (.integer 0)])])]
    let record : Record := ⟨some "a", fields⟩
    let body := Json.object
      [("records", .array [.object [("id", .string "a"), ("fields", .object fields)]])]
    record.DistinctKeys ∧ recordsToJson [record] = body ∧
      writtenOfSource? (.ofJson body) = some (.many [record]) ∧
      FlatRecord.oneOrManyOfSource? (.ofJson (.object fields)) = some (.one fields) := by
  intro fields record body
  have distinct : (Json.object fields).DistinctKeys := by
    simp [fields, Json.DistinctKeys, Json.DistinctKeysAll, Json.DistinctKeysMembers,
      Members.Distinct, Members.keys]
  have stored : ∀ other ∈ [record], other.DistinctKeys := fun _ member =>
    List.mem_singleton.mp member ▸ distinct
  have given : ∀ item ∈ (OneOrMany.one fields).toList, (Json.object item).DistinctKeys :=
    fun _ member => List.mem_singleton.mp member ▸ distinct
  obtain ⟨-, -, flat, listed, -⟩ := written_reads_back
  exact ⟨distinct, rfl, (listed [record] stored).2.2, flat (.one fields) given⟩

end TableClient
