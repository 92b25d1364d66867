import Mathlib.Data.List.Nodup
import TableClient.Proofs.Memory.FailedWrites
import TableClient.Proofs.Memory.Log
import TableClient.Proofs.Query.Counts
import TableClient.Proofs.Records
/-! What is read behind a write. A write for an id changes the first record that has it, which is
the one that a get of the id finds, and leaves what is found under any other id. Behind an update
the record is its data, with the id in front; behind a patch it is what was read before, with the
data over it. Both come out of several writes of members over members, of which it does not matter
which are made first. -/
namespace TableClient

/-- The fields that a batch for one id comes to are the items under their numbers. -/
theorem positional_eq (start : Nat) (items : List FlatRecord) :
    positional start items =
      (items.zipIdx start).map fun (item, index) => (Text.decimal index, Json.object item) := by
  induction items generalizing start with
  | nil => rfl
  | cons item rest ih => exact congrArg ((Text.decimal start, Json.object item) :: ·) (ih (start + 1))

theorem keys_positional (start : Nat) (items : List FlatRecord) :
    (positional start items).keys = (List.range' start items.length).map Text.decimal := by
  induction items generalizing start with
  | nil => rfl
  | cons item rest ih => exact congrArg (Text.decimal start :: ·) (ih (start + 1))

theorem distinct_positional (items : List FlatRecord) : (positional 0 items).Distinct := by
  rw [Members.Distinct, keys_positional]
  exact List.Nodup.map Text.decimal_injective List.nodup_range'

theorem OneOrMany.toList_map (f : α → β) (items : OneOrMany α) :
    (items.map f).toList = items.toList.map f := by
  cases items <;> rfl

namespace Record

variable {record : Record} {id : String} {data : Fields}

theorem distinct_flat (record : Record) : record.flat.Distinct := by
  unfold flat
  split
  · exact Members.distinct_insertAll _ (List.nodup_singleton _)
  · exact Members.distinct_insertAll _ List.nodup_nil

/-- Data written over the fields of a record is written over its flat shape. -/
theorem flat_insertAll (distinct : Members.Distinct record.fields) (data : Fields) :
    ({ record with fields := Members.insertAll record.fields data } : Record).flat =
      Members.insertAll record.flat data := by
  obtain ⟨id, fields⟩ := record
  cases id with
  | none => exact Members.insertAll_insertAll distinct _ data
  | some id => exact Members.insertAll_insertAll distinct _ data

theorem flat_insert_id (distinct : Members.Distinct data) (id : String) :
    (⟨some id, Members.insert data idKey (.string id)⟩ : Record).flat =
      (idKey, .string id) :: data.filter fun (key, _) => key ≠ idKey := by
  rw [flat_of_named rfl (Members.distinct_insert _ _ distinct), otherFields, Members.filter_insert,
    Members.get?_insert_self, Option.getD_some]

end Record

namespace Memory

def shown (newId : Nat → String) (memory : Memory) (id : String) : Except ServiceError FlatRecord :=
  (Service.run (Service.get (backend newId) id) memory).1

/-- The answer to a write for an id is one record, and behind it a get of the id shows that record,
and a get of any other id shows what it has shown before. -/
structure ReadsBack (newId : Nat → String) (memory : Memory) (id : String) (record : FlatRecord)
    (answer : Except ServiceError (List FlatRecord)) (next : Memory) : Prop where
  answered : answer = .ok [record]
  own : shown newId next id = .ok record
  others : ∀ other, other ≠ id → shown newId next other = shown newId memory other

variable {newId : Nat → String} {memory : Memory} {records next : List Record} {id : String}
  {kind : WriteKind} {changed stored : Record}

theorem call_calm (newId : Nat → String) (calm : memory.failures = []) (request : Request) :
    call newId request memory = answer newId (memory.start request).finish request := by
  have unset : (memory.start request).finish.failure? request.kind = none := by
    change (memory.failures.find? _).map _ = none
    rw [calm]
    rfl
  unfold call complete
  dsimp only
  rw [unset]

theorem shown_eq (newId : Nat → String) (calm : memory.failures = []) (id : String) :
    shown newId memory id =
      match find? memory.records id with
      | some record => .ok record.flat
      | none => .error (.backend (.notFound id)) := by
  have table : (memory.start (.fetch id)).finish.records = memory.records := rfl
  unfold shown Service.get
  rw [Service.run_bind_pure, Service.send, Service.run_perform, backend_call, call_calm newId calm,
    answer, table]
  cases find? memory.records id with
  | none => rfl
  | some record => rfl

theorem find?_middle {front back : List Record} (passed : ∀ record ∈ front, record.id ≠ some id)
    (named : stored.id = some id) : find? (front ++ stored :: back) id = some stored := by
  have nothing : find? front id = none := by
    simpa [find?] using passed
  unfold find? at *
  rw [List.find?_append, nothing, Option.none_or, List.find?_cons_of_pos (by simpa using named)]

/-- The record that is found under an id is the one that is changed, and any other stays. -/
theorem change_of_find? (write : Fields → Fields) (found : find? records id = some stored) :
    let changed : Record := { stored with fields := write stored.fields }
    ∃ next, change write id records = some (changed, next) ∧ find? next id = some changed ∧
      ∀ other, other ≠ id → find? next other = find? records other := by
  have named : stored.id = some id := by simpa using List.find?_some found
  have present : some id ∈ records.map Record.id :=
    named ▸ List.mem_map_of_mem (List.mem_of_find?_eq_some found)
  obtain ⟨⟨changed, next⟩, changes⟩ :=
    Option.isSome_iff_exists.mp ((change_isSome_iff write).mpr present)
  obtain ⟨front, held, back, rfl, own, passed, rfl, rfl⟩ := change_ok changes
  obtain rfl : held = stored := Option.some.inj ((find?_middle passed own).symm.trans found)
  refine ⟨_, changes, find?_middle passed own, ?_⟩
  intro other different
  have unnamed : held.id ≠ some other := fun same => different (Option.some.inj (same.symm.trans own))
  unfold find?
  rw [List.find?_append, List.find?_append, List.find?_cons_of_neg (by simpa using unnamed),
    List.find?_cons_of_neg (by simpa using unnamed)]

/-- A patch or a put of one record for an id that is found. -/
theorem call_write_one (newId : Nat → String) (calm : memory.failures = []) (rewrites : kind ≠ .post)
    {sent : Record} (target : target? sent = .ok id) (found : find? memory.records id = some stored) :
    let changed : Record :=
      { stored with fields := writeFields (kind = .put) sent.fields stored.fields }
    ∃ next, call newId (.write kind [sent]) memory = (.ok (memory.shape [changed]), next) ∧
      shown newId next id = .ok changed.flat ∧
      ∀ other, other ≠ id → shown newId next other = shown newId memory other := by
  intro changed
  obtain ⟨next, changes, own, others⟩ :=
    change_of_find? (writeFields (kind = .put) sent.fields) found
  have unset : memory.failure? (.write kind) = none := by rw [failure?, calm]; rfl
  have writes : writeAll (kind = .put) memory.records [sent] = (.ok [changed], next) := by
    rw [writeAll, target]
    dsimp only
    rw [changes]
    rfl
  have ended := call_writeAll newId rewrites [sent] unset
  rw [writes] at ended
  have still : (call newId (.write kind [sent]) memory).2.failures = [] :=
    (failures_call newId _ memory).trans calm
  rw [ended] at still
  refine ⟨_, ended, ?_, ?_⟩
  · rw [shown_eq newId still]
    dsimp only
    rw [own]
  · intro other different
    rw [shown_eq newId still, shown_eq newId calm]
    dsimp only
    rw [others other different]

/-- One record written is shown alone, in either form of the answer. -/
theorem toList_shape_one (memory : Memory) (record : Record) :
    (memory.shape [record]).toList = [record] := by
  rw [shape]
  split <;> rfl

theorem target?_updateData (named : id ≠ "") (data : FlatRecord) :
    target? (Record.ofFlat (updateData (some id) data)) = .ok id := by
  rw [updateData, nonEmptyId?_some named, Record.ofFlat, target?]
  dsimp only
  rw [Members.get?_insert_self]
  rfl

theorem update_reads_back (newId : Nat → String) (calm : memory.failures = []) (named : id ≠ "")
    (found : find? memory.records id = some stored) (data : FlatRecord) :
    let updated := Service.run (Service.update (backend newId) (some id) data) memory
    ReadsBack newId memory id ({ stored with fields := updateData (some id) data } : Record).flat
      (updated.1.map ([·])) updated.2 := by
  intro updated
  have rewrites : WriteKind.put ≠ .post := by decide
  obtain ⟨next, ended, own, others⟩ :=
    call_write_one newId calm rewrites (target?_updateData named data) found
  have made : updated = (.ok ({ stored with fields := updateData (some id) data } : Record).flat, next) := by
    unfold updated Service.update
    rw [Service.run_bind, Service.send, Service.run_perform, backend_call, ended]
    dsimp only
    unfold Service.first
    rw [toList_shape_one]
    rfl
  rw [made]
  exact ⟨rfl, own, others⟩

theorem patch_reads_back (newId : Nat → String) (calm : memory.failures = [])
    (found : find? memory.records id = some stored) {data : OneOrMany FlatRecord} {fields : Fields}
    (sends : patchRecords (some id) data = [⟨some id, fields⟩]) :
    let patched := Service.run (Service.patch (backend newId) (some id) data) memory
    ReadsBack newId memory id
      ({ stored with fields := Members.insertAll stored.fields fields } : Record).flat
      (patched.1.map OneOrMany.toList) patched.2 := by
  intro patched
  have rewrites : WriteKind.patch ≠ .post := by decide
  have target : target? ⟨some id, fields⟩ = .ok id := rfl
  obtain ⟨next, ended, own, others⟩ := call_write_one newId calm rewrites target found
  have made : patched = (.ok ((memory.shape [{ stored with
      fields := Members.insertAll stored.fields fields }]).map Record.flat), next) := by
    unfold patched Service.patch
    rw [Service.run_bind_pure, Service.send, Service.run_perform, backend_call, sends, ended]
    rfl
  have shows : ((memory.shape [{ stored with
      fields := Members.insertAll stored.fields fields }]).map Record.flat).toList =
      [({ stored with fields := Members.insertAll stored.fields fields } : Record).flat] := by
    rw [OneOrMany.toList_map, toList_shape_one, List.map_singleton]
  rw [made]
  exact ⟨congrArg Except.ok shows, own, others⟩

/-- What is written is what is read. Behind an update an id shows the data, with the id in front and
nothing of the fields there were. Behind a patch it shows what it has shown before with the data
over it, and behind a patch of a batch with the items over it, under their numbers, so that none of
them is lost. The answer shows the same, and under every other id nothing has changed. -/
theorem writes_read_back (newId : Nat → String) (calm : memory.failures = []) (named : id ≠ "")
    (held : some id ∈ memory.records.map Record.id)
    (maps : ∀ record ∈ memory.records, Members.Distinct record.fields) :
    ∃ previous, shown newId memory id = .ok previous ∧
      (∀ data : Data,
        let updated := Service.run (Service.update (backend newId) (some id) data.members) memory
        ReadsBack newId memory id
          ((idKey, .string id) :: data.members.filter fun (key, _) => key ≠ idKey)
          (updated.1.map ([·])) updated.2) ∧
      (∀ data : Data,
        let patched :=
          Service.run (Service.patch (backend newId) (some id) (.one data.members)) memory
        ReadsBack newId memory id (Members.overlay previous data.members)
          (patched.1.map OneOrMany.toList) patched.2) ∧
      ∀ items : List FlatRecord,
        let patched := Service.run (Service.patch (backend newId) (some id) (.many items)) memory
        let numbered := items.zipIdx.map fun (item, index) => (Text.decimal index, Json.object item)
        ReadsBack newId memory id (Members.overlay previous numbered)
          (patched.1.map OneOrMany.toList) patched.2 ∧
        ∀ index (inside : index < items.length),
          Members.get? (Members.overlay previous numbered) (Text.decimal index) =
            some (.object items[index]) := by
  obtain ⟨stored, found⟩ : ∃ stored, find? memory.records id = some stored := by
    obtain ⟨record, inside, same⟩ := List.mem_map.mp held
    exact Option.isSome_iff_exists.mp (List.find?_isSome.mpr ⟨record, inside, by simpa using same⟩)
  have own : stored.id = some id := by simpa using List.find?_some found
  have distinct : Members.Distinct stored.fields := maps stored (List.mem_of_find?_eq_some found)
  have written (fields : Fields) (distinct' : Members.Distinct fields) :
      ({ stored with fields := Members.insertAll stored.fields fields } : Record).flat =
        Members.overlay stored.flat fields := by
    rw [Record.flat_insertAll distinct, Members.insertAll_eq_overlay stored.distinct_flat distinct']
  refine ⟨stored.flat, by rw [shown_eq newId calm, found], ?_, ?_, ?_⟩
  · intro data updated
    have replaced : ({ stored with fields := updateData (some id) data.members } : Record).flat =
        (idKey, .string id) :: data.members.filter fun (key, _) => key ≠ idKey := by
      rw [updateData, nonEmptyId?_some named, own]
      exact Record.flat_insert_id data.distinct id
    exact replaced ▸ update_reads_back newId calm named found data.members
  · intro data patched
    have sends : patchRecords (some id) (.one data.members) = [⟨some id, data.members⟩] := by
      unfold patchRecords
      rw [nonEmptyId?_some named]
    exact written data.members data.distinct ▸ patch_reads_back newId calm found sends
  · intro items patched numbered
    have fields : positional 0 items = numbered := positional_eq 0 items
    have sends : patchRecords (some id) (.many items) = [⟨some id, numbered⟩] := by
      unfold patchRecords
      rw [nonEmptyId?_some named, ← fields]
    have distinct' : Members.Distinct numbered := fields ▸ distinct_positional items
    refine ⟨written numbered distinct' ▸ patch_reads_back newId calm found sends, ?_⟩
    intro index inside
    have counted : (items[index], index) ∈ items.zipIdx :=
      List.mk_mem_zipIdx_iff_getElem?.mpr (List.getElem?_eq_getElem inside)
    have member : (Text.decimal index, Json.object items[index]) ∈ numbered :=
      List.mem_map.mpr ⟨_, counted, rfl⟩
    rw [← Members.insertAll_eq_overlay stored.distinct_flat distinct',
      Members.get?_insertAll _ distinct', Members.get?_of_mem distinct' member, Option.some_or]

/-- Data with an id of its own, which an update overrides and a patch puts in front. -/
theorem writes_read_back_own_id :
    let newId : Nat → String := fun count => "rec" ++ Text.decimal count
    let memory := ofRecords
      [⟨some "a", [("n", .null), ("m", .null)]⟩, ⟨none, []⟩, ⟨some "b", [("n", .null)]⟩] true
    let data : Data := ⟨[("k", .bool true), ("id", .string "x"), ("m", .bool false)], by decide⟩
    let updated := Service.run (Service.update (backend newId) (some "a") data.members) memory
    let patched := Service.run (Service.patch (backend newId) (some "a") (.one data.members)) memory
    memory.failures = [] ∧ "a" ≠ "" ∧ some "a" ∈ memory.records.map Record.id ∧
      (∀ record ∈ memory.records, Members.Distinct record.fields) ∧
      shown newId updated.2 "a" =
        .ok [("id", .string "a"), ("k", .bool true), ("m", .bool false)] ∧
      shown newId patched.2 "a" =
        .ok [("id", .string "x"), ("n", .null), ("m", .bool false), ("k", .bool true)] ∧
      shown newId patched.2 "b" = shown newId memory "b" := by
  intro newId memory data updated patched
  have held : some "a" ∈ memory.records.map Record.id := by decide
  have maps : ∀ record ∈ memory.records, Members.Distinct record.fields := by decide
  obtain ⟨previous, read, updates, patches, -⟩ :=
    writes_read_back newId (rfl : memory.failures = []) (by decide) held maps
  obtain rfl : [("id", .string "a"), ("n", .null), ("m", .null)] = previous := Except.ok.inj read
  refine ⟨rfl, by decide, held, maps, ?_, ?_, ?_⟩
  · exact (updates data).own
  · exact (patches data).own
  · exact (patches data).others "b" (by decide)

end Memory
end TableClient
