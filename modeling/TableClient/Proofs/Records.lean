import Mathlib.Data.List.Forall2
import Mathlib.Data.List.Nodup
import TableClient.Proofs.Members
import TableClient.Record
/-! What the flat shape of a record keeps. It starts with the id that the record shows, and behind
that stand the fields that are no id, in their order. So of a record with an id the shape keeps all
but which of two ids was its own. Data that came flat comes back as it was. -/
namespace TableClient.Record

/-- The id that a record shows: a field of that name, or else its own. -/
def effectiveId (record : Record) : Option Json :=
  (Members.get? record.fields idKey).or (record.id.map .string)

def otherFields (record : Record) : Fields := record.fields.filter fun (key, _) => key ≠ idKey

structure Named (record : Record) : Prop where
  id : ∃ name, record.id = some name
  distinct : Members.Distinct record.fields

/-- Records that differ at most in whether the id they show is a field. -/
structure SameShown (record other : Record) : Prop where
  fields : record.otherFields = other.otherFields
  id : record.effectiveId = other.effectiveId

variable {record other : Record} {data : FlatRecord} {records others : List Record}

theorem flat_ofFlat (distinct : data.Distinct) : (ofFlat data).flat = data :=
  Members.ofPairs_of_distinct distinct

/-- A record with an id is flat with the id in front. -/
theorem flat_of_named {name : String} (named : record.id = some name)
    (distinct : Members.Distinct record.fields) :
    record.flat = (idKey, (Members.get? record.fields idKey).getD (.string name)) ::
      record.otherFields := by
  have single : Members.Distinct [(idKey, Json.string name)] := List.nodup_singleton _
  unfold flat otherFields
  rw [named]
  dsimp only
  rw [Members.insertAll_eq_overlay single distinct]
  simp [Members.overlay, Members.keys]

theorem effectiveId_of_named {name : String} (named : record.id = some name) :
    record.effectiveId = some ((Members.get? record.fields idKey).getD (.string name)) := by
  rw [effectiveId, named]
  cases Members.get? record.fields idKey <;> rfl

theorem flat_eq_iff (named : Named record) (named' : Named other) :
    record.flat = other.flat ↔ SameShown record other := by
  obtain ⟨⟨name, own⟩, distinct⟩ := named
  obtain ⟨⟨name', own'⟩, distinct'⟩ := named'
  rw [flat_of_named own distinct, flat_of_named own' distinct', List.cons.injEq, Prod.mk.injEq]
  constructor
  · rintro ⟨⟨-, ids⟩, fields⟩
    refine ⟨fields, ?_⟩
    rw [effectiveId_of_named own, effectiveId_of_named own', ids]
  · rintro ⟨fields, ids⟩
    rw [effectiveId_of_named own, effectiveId_of_named own'] at ids
    exact ⟨⟨rfl, Option.some.inj ids⟩, fields⟩

theorem map_flat_eq_iff (named : ∀ record ∈ records, Named record)
    (named' : ∀ other ∈ others, Named other) :
    records.map flat = others.map flat ↔ List.Forall₂ SameShown records others := by
  induction records generalizing others with
  | nil => simp [eq_comm]
  | cons record rest ih =>
    cases others with
    | nil => simp
    | cons other rest' =>
      have first := flat_eq_iff (named record List.mem_cons_self) (named' other List.mem_cons_self)
      have later := ih (fun record inside => named record (List.mem_cons_of_mem _ inside))
        fun other inside => named' other (List.mem_cons_of_mem _ inside)
      rw [List.map_cons, List.map_cons, List.cons.injEq, List.forall₂_cons, first, later]

/-- Data is flat again as it was, with its order. Two records with ids have the same flat shape, with
its order, exactly if their fields other than `id` are the same in the same order and they show the
same id. Batches are mapped item by item, so both hold of them at every place. -/
theorem flat_keeps :
    (∀ data : FlatRecord, data.Distinct → (ofFlat data).flat = data) ∧
    (∀ record other : Record, Named record → Named other →
      (record.flat = other.flat ↔ SameShown record other)) ∧
    (∀ items : List FlatRecord,
      (∀ index : Nat, (items.map ofFlat)[index]? = items[index]?.map ofFlat) ∧
      ((∀ data ∈ items, data.Distinct) → (items.map ofFlat).map flat = items)) ∧
    ∀ records others : List Record,
      (∀ index : Nat, (records.map flat)[index]? = records[index]?.map flat) ∧
      ((∀ record ∈ records, Named record) → (∀ other ∈ others, Named other) →
        (records.map flat = others.map flat ↔ List.Forall₂ SameShown records others)) := by
  refine ⟨fun data => flat_ofFlat, fun record other => flat_eq_iff,
    fun items => ⟨fun index => List.getElem?_map, fun distinct => ?_⟩,
    fun records others => ⟨fun index => List.getElem?_map, map_flat_eq_iff⟩⟩
  have each : (items.map ofFlat).map flat = items.map fun data => data := by
    rw [List.map_map]
    exact List.map_congr_left fun data inside => flat_ofFlat (distinct data inside)
  rw [each, List.map_id']

/-- An id that is a field at the end of one record and the own id of the other, and fields that
stand in another order. -/
theorem flat_keeps_shadowed :
    let shadowed : Record := ⟨some "a", [("x", .null), ("id", .string "b"), ("y", .null)]⟩
    let own : Record := ⟨some "b", [("x", .null), ("y", .null)]⟩
    let turned : Record := ⟨some "b", [("y", .null), ("x", .null)]⟩
    Named shadowed ∧ Named own ∧ Named turned ∧
      shadowed.flat = own.flat ∧ own.flat ≠ turned.flat ∧
      [shadowed, turned].map flat = [own, turned].map flat ∧
      (ofFlat [("x", .null), ("id", .string "b")]).flat = [("x", .null), ("id", .string "b")] ∧
      ([[("x", .null), ("id", .string "b")], []].map ofFlat).map flat =
        [[("x", .null), ("id", .string "b")], []] := by
  intro shadowed own turned
  have first : Named shadowed := ⟨⟨"a", rfl⟩, by decide⟩
  have second : Named own := ⟨⟨"b", rfl⟩, by decide⟩
  have third : Named turned := ⟨⟨"b", rfl⟩, by decide⟩
  obtain ⟨back, shown, items, batches⟩ := flat_keeps
  refine ⟨first, second, third, ?_, ?_, ?_, ?_, ?_⟩
  · exact (shown shadowed own first second).mpr ⟨rfl, rfl⟩
  · intro same
    have fields := ((shown own turned second third).mp same).1
    simp [own, turned, otherFields, idKey] at fields
  · refine ((batches [shadowed, turned] [own, turned]).2 ?_ ?_).mpr ?_
    · simp [first, third]
    · simp [second, third]
    · exact .cons ⟨rfl, rfl⟩ (.cons ⟨rfl, rfl⟩ .nil)
  · exact back _ (by decide)
  · exact (items _).2 (by decide)

end TableClient.Record
