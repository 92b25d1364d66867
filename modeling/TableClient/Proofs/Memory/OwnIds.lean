import TableClient.Proofs.Members
import TableClient.Proofs.Memory.Runs
/-! Ids among the fields of a table. An update and a batch of patches write the id they look
for into the fields of the record they find, so a field `id` that came in this way is the
record's own. If no other data brings one, the flat shape of a record shows its own id. -/
namespace TableClient.Memory

def Own (id : String) (fields : Fields) : Prop :=
  Members.Distinct fields ∧ ∀ value, (idKey, value) ∈ fields → value = .string id

/-- The calls whose new data has no member `id`: what is created, and what is written over
the one record that a patch names. -/
def IdFree : Call → Prop
  | .create data => ∀ item ∈ data.toList, idKey ∉ Members.keys item.members
  | .patch name (.one item) => nonEmptyId? name ≠ none → idKey ∉ Members.keys item.members
  | _ => True

variable {id : String} {fields written : Fields}

theorem own_of_absent (distinct : Members.Distinct fields) (absent : idKey ∉ Members.keys fields)
    (id : String) : Own id fields := by
  constructor
  · exact distinct
  · intro value member
    exact absurd (List.mem_map_of_mem (f := Prod.fst) member) absent

/-- A record found by the field `id` of what is written takes that field as its own id. -/
theorem own_of_target {data : FlatRecord} (distinct : Members.Distinct data)
    (target : target? (Record.ofFlat data) = .ok id) : Own id data := by
  constructor
  · exact distinct
  · intro value member
    have found := Members.get?_of_mem distinct member
    cases value with
    | string text =>
      simp [target?, Record.ofFlat, found, Json.string?] at target
      rw [target]
    | _ => simp [target?, Record.ofFlat, found, Json.string?] at target

theorem own_insertAll (own : Own id fields)
    (agree : ∀ value, (idKey, value) ∈ written → value = .string id) :
    Own id (Members.insertAll fields written) := by
  constructor
  · exact Members.distinct_insertAll written own.1
  · intro value member
    rcases Members.mem_insertAll member with old | new
    · exact own.2 value old
    · exact agree value new

/-- No position is called like the id. -/
theorem not_mem_positional {start : Nat} {items : List FlatRecord} {value : Json} :
    (idKey, value) ∉ positional start items := by
  induction items generalizing start with
  | nil => exact List.not_mem_nil
  | cons item rest ih =>
    intro member
    rcases List.mem_cons.mp member with first | later
    -- Positions are decimal, and the key starts with a letter.
    · have digit : 'i' ∈ (Text.decimal start).toList := by
        rw [← (Prod.mk.inj first).1]
        decide
      have decimal : 'i' ∈ Nat.toDigits 10 start := by simpa [Text.decimal] using digit
      exact absurd (Nat.isDigit_of_mem_toDigits (by decide) (by decide) decimal) (by decide)
    · exact ih later

theorem fit_own {record : Record}
    (agree : ∀ id, target? record = .ok id →
      ∀ value, (idKey, value) ∈ record.fields → value = .string id) :
    Fit Own false record := by
  intro id target stored own
  exact own_insertAll own (agree id target)

theorem fit_patchRecords (name : Option String) (data : OneOrMany Data)
    (free : IdFree (.patch name data)) :
    ∀ record ∈ patchRecords name (data.map Data.members), Fit Own false record := by
  intro record member
  cases named : nonEmptyId? name with
  | some own =>
    cases data with
    | one item =>
      simp only [OneOrMany.map, patchRecords, named] at member
      obtain rfl := List.mem_singleton.mp member
      have absent : idKey ∉ Members.keys item.members := free (by simp [named])
      apply fit_own
      intro id _ value inside
      exact absurd (List.mem_map_of_mem (f := Prod.fst) inside) absent
    | many items =>
      simp only [OneOrMany.map, patchRecords, named] at member
      obtain rfl := List.mem_singleton.mp member
      apply fit_own
      intro id _ value inside
      exact absurd inside not_mem_positional
  | none =>
    cases data with
    | one item =>
      simp only [OneOrMany.map, patchRecords, named] at member
      obtain rfl := List.mem_singleton.mp member
      apply fit_own
      intro id _ value inside
      exact absurd inside List.not_mem_nil
    | many items =>
      simp only [OneOrMany.map, patchRecords, named, List.map_map] at member
      obtain ⟨item, _, rfl⟩ := List.mem_map.mp member
      apply fit_own
      intro id target
      exact (own_of_target item.distinct target).2

theorem acceptsCall_own {call : Call} (free : IdFree call) : AcceptsCall Own call := by
  intro request sends
  cases sends with
  | find | get | removeOne | removeAll => trivial
  | create inside =>
    intro record member id
    obtain rfl := List.mem_singleton.mp member
    exact own_of_absent (Data.distinct _) (free _ inside) id
  | patch => exact fit_patchRecords _ _ free
  | update =>
    intro record member id target _ _
    obtain rfl := List.mem_singleton.mp member
    exact own_of_target (Data.distinct_updateData _ _) target

/-- The flat shape of such a record starts with its id. -/
theorem head?_flat {record : Record} (named : record.id = some id) (own : Own id record.fields) :
    record.flat.head? = some (idKey, .string id) := by
  obtain ⟨rest, flat⟩ := Members.insertAll_cons_eq [] idKey (Json.string id) own.2
  unfold Record.flat
  rw [named]
  exact congrArg List.head? flat

variable {seeds : List Record} {steps : List Step} {newId : Nat → String} {hasLatency : Bool}

/-- Records with ids and without a field `id`, before anything is written. -/
def Seeded (seeds : List Record) : Prop :=
  ∀ record ∈ seeds, (∃ id, record.id = some id) ∧ Members.Distinct record.fields ∧
    idKey ∉ Members.keys record.fields

theorem allSound_own (newId : Nat → String) (hasLatency : Bool) (seeded : Seeded seeds)
    (free : ∀ call, .call call ∈ steps → IdFree call) :
    AllSound Own (run newId (ofRecords seeds hasLatency) steps) := by
  apply allSound_run
  · rintro _ member call rfl
    exact acceptsCall_own (free call member)
  · intro record member
    obtain ⟨⟨id, named⟩, distinct, absent⟩ := seeded record member
    exact ⟨id, named, own_of_absent distinct absent id⟩

theorem ok_of_toOption {result : Except ε α} (found : result.toOption = some value) :
    result = .ok value := by
  cases result with
  | error error => cases found
  | ok other => exact congrArg Except.ok (Option.some.inj found)

/-- From records without a field `id`, and if none is created or written over a named record,
every field `id` that the table ever holds is the id of its record, and every flat record
starts with the id of the record in the table that it shows. Those of a patch have the ids
that the records it sends are for. -/
theorem ids_own (seeded : Seeded seeds) (free : ∀ call, .call call ∈ steps → IdFree call) :
    (∀ record ∈ (run newId (ofRecords seeds hasLatency) steps).records,
      ∃ id, record.id = some id ∧ ∀ value, (idKey, value) ∈ record.fields → value = .string id) ∧
    ∀ call answer next, IdFree call →
      Service.run (call.perform (backend newId)) (run newId (ofRecords seeds hasLatency) steps) =
        (.ok answer, next) →
      ∀ flat ∈ call.shown answer, ∃ record id, flat = record.flat ∧ record.id = some id ∧
        flat.head? = some (idKey, .string id) ∧ some id ∈ next.records.map Record.id ∧
        ((∀ name data, call ≠ .patch name data) → record ∈ next.records) ∧
        ∀ name data, call = .patch name data →
          ∃ source ∈ patchRecords name (data.map Data.members), target? source = .ok id := by
  have sound := allSound_own newId hasLatency seeded free
  constructor
  · intro record member
    obtain ⟨id, named, own⟩ := sound record member
    exact ⟨id, named, own.2⟩
  · intro call answer next last ends flat member
    obtain ⟨record, rfl, origin⟩ := origin_of_ok newId (acceptsCall_own last) sound ends flat member
    obtain ⟨id, named, own⟩ := sound_of_origin origin
    have head := head?_flat named own
    have known := id_mem_of_origin origin
    refine ⟨record, id, rfl, named, head, named ▸ known, mem_of_origin origin, ?_⟩
    rintro name data rfl
    obtain ⟨-, -, source, sent, target⟩ := origin
    rw [named] at target
    exact ⟨source, sent, ok_of_toOption target⟩

theorem ids_own_shared_fields :
    let newId : Nat → String := fun count => "rec" ++ Text.decimal count
    let steps : List Step := [.call (.create (.one ⟨[("name", .string "a")], by decide⟩)),
      .call (.update (some "rec0") ⟨[("n", .null), ("id", .string "other")], by decide⟩),
      .call (.patch none (.many [⟨[("id", .string "rec0"), ("m", .bool true)], by decide⟩,
        ⟨[("m", .bool false)], by decide⟩]))]
    let shown := Service.run (Call.perform (backend newId) (.get "rec0"))
      (run newId (ofRecords [] false) steps)
    Seeded [] ∧ (∀ call, .call call ∈ steps → IdFree call) ∧
      shown.1 = .ok [("id", .string "rec0"), ("n", .null), ("m", .bool true)] ∧
      ∃ record ∈ shown.2.records, record.flat.head? = some (idKey, .string "rec0") ∧
        ∃ id, record.id = some id ∧ record.flat.head? = some (idKey, .string id) := by
  intro newId steps shown
  have seeded : Seeded [] := fun record member => absurd member List.not_mem_nil
  have free : ∀ call, .call call ∈ steps → IdFree call := by
    intro call member
    simp only [steps, List.mem_cons, Step.call.injEq, List.not_mem_nil, or_false] at member
    rcases member with rfl | rfl | rfl
    · intro item inside
      obtain rfl := List.mem_singleton.mp inside
      decide
    · trivial
    · trivial
  have answers : shown.1 = .ok [("id", .string "rec0"), ("n", .null), ("m", .bool true)] := by rfl
  obtain ⟨record, id, same, named, head, _, whole, _⟩ := (ids_own seeded free).2 (.get "rec0") _ shown.2
    trivial (Prod.ext answers rfl) _ List.mem_cons_self
  exact ⟨seeded, free, answers, record, whole (by simp), same ▸ rfl, id, named, same ▸ head⟩

end TableClient.Memory
