import Mathlib.Data.List.Nodup
import TableClient.Proofs.Memory.Removal
/-! Deletes of one operation that are in flight together. Each starts and later takes effect, in
any order among the others. While none of them fails, the table is short of exactly the records
whose deletes have taken effect, so the order cannot be told from what is left, and the answers
are taken in the order of the deletes. -/
namespace TableClient.Memory

inductive Slot
  | waiting (name : String)
  | running (name : String)
  | answered (name : String) (answer : Json)

namespace Slot

def name : Slot → String
  | .waiting name => name
  | .running name => name
  | .answered name _ => name

def gone? : Slot → Option String
  | .answered name _ => some name
  | .waiting _ | .running _ => none

end Slot

/-- Any delete that waits may start next, and any that runs may take effect. -/
inductive Moves (newId : Nat → String) : List Slot → Memory → List Slot → Memory → Prop
  | starts (front back : List Slot) : Moves newId (front ++ .waiting name :: back) memory
      (front ++ .running name :: back) (memory.start (.delete name))
  | ends (front back : List Slot) {told : Json} :
      memory.complete newId (.delete name) = (.ok told, next) →
      Moves newId (front ++ .running name :: back) memory (front ++ .answered name told :: back) next

def answeredSlots (done : List (String × Json)) : List Slot :=
  done.map fun (name, told) => .answered name told

/-- What can come of deletes that run at once: all their answers, each at its place, or the first
failure, which leaves the others where they are. -/
inductive Joins (newId : Nat → String) :
    List Slot → Memory → Except BackendError (List Json) × Memory → Prop
  | all (done : List (String × Json)) :
      Joins newId (answeredSlots done) memory (.ok (done.map Prod.snd), memory)
  | fails (front back : List Slot) : memory.complete newId (.delete name) = (.error error, next) →
      Joins newId (front ++ .running name :: back) memory (.error error, next)
  | moves : Moves newId slots memory slots' memory' → Joins newId slots' memory' outcome →
      Joins newId slots memory outcome

/-- A backend that answers from the table and runs the deletes of one operation at once, in an
order of its own. -/
structure Concurrent (newId : Nat → String) (backend : Backend Memory) : Prop where
  call : backend.call = call newId
  joins : ∀ names memory, Joins newId (names.map .waiting) memory (backend.deleteAll names memory)

variable {newId : Nat → String} {memory next : Memory} {slots : List Slot} {names : List String}
  {records : List Record} {name : String} {outcome : Except BackendError (List Json) × Memory}

theorem joins_startAll (front : List Slot) (names : List String)
    (later : Joins newId (front ++ names.map .running) (memory.startAll names) outcome) :
    Joins newId (front ++ names.map .waiting) memory outcome := by
  induction names generalizing front memory with
  | nil => exact later
  | cons name rest ih =>
    apply Joins.moves (.starts _ _)
    rw [List.map_cons, List.append_cons] at later
    rw [List.append_cons]
    exact ih _ later

/-- Deletes made one after the other join in their order, if each of them can take effect from
where it stands. -/
theorem joins_deleteInTurn (newId : Nat → String)
    (call : (request : Request) → Memory → Except BackendError request.Answer × Memory)
    (slot : String → Slot)
    (fails : ∀ front name back memory error next,
      call (.delete name) memory = (.error error, next) →
      Joins newId (front ++ slot name :: back) memory (.error error, next))
    (goes : ∀ front name back memory told next outcome,
      call (.delete name) memory = (.ok told, next) →
      Joins newId (front ++ .answered name told :: back) next outcome →
      Joins newId (front ++ slot name :: back) memory outcome)
    (done : List (String × Json)) (names : List String) (memory : Memory) :
    Joins newId (answeredSlots done ++ names.map slot) memory
      ((Backend.deleteInTurn call names memory).1.map (done.map Prod.snd ++ ·),
        (Backend.deleteInTurn call names memory).2) := by
  induction names generalizing done memory with
  | nil =>
    have joined : Joins newId (answeredSlots done) memory _ := .all done
    simpa [Backend.deleteInTurn, Except.map] using joined
  | cons name rest ih =>
    rcases Backend.deleteInTurn_cons call name rest memory with
      ⟨error, next, outcome, stops⟩ | ⟨told, next, outcome, runs⟩
    · rw [stops]
      exact fails _ name _ memory error next outcome
    · apply goes _ name _ memory told next _ outcome
      have later := ih (done ++ [(name, told)]) next
      rw [runs]
      cases result : (Backend.deleteInTurn call rest next).1 with
      | error error => simpa [result, answeredSlots, Except.map] using later
      | ok answers => simpa [result, answeredSlots, Except.map] using later

/-- The table itself runs its deletes at once, with latency and without. -/
theorem concurrent_backend (newId : Nat → String) : Concurrent newId (backend newId) := by
  constructor
  · rfl
  · intro names memory
    have whole (outcome : Except BackendError (List Json) × Memory) :
        (outcome.1.map (List.map Prod.snd ([] : List (String × Json)) ++ ·), outcome.2) = outcome := by
      obtain ⟨result, last⟩ := outcome
      cases result <;> rfl
    rw [backend_deleteAll, deleteAll]
    split
    · apply joins_startAll []
      have joined := joins_deleteInTurn newId (fun request memory => memory.complete newId request)
        .running (fun front _ back _ _ _ outcome => .fails front back outcome)
        (fun front _ back _ _ _ _ outcome later => .moves (.ends front back outcome) later) [] names
        (memory.startAll names)
      rwa [whole] at joined
    · have joined := joins_deleteInTurn newId (call newId) .waiting
        (fun front _ back _ _ _ outcome => .moves (.starts front back) (.fails front back outcome))
        (fun front _ back _ _ _ _ outcome later =>
          .moves (.starts front back) (.moves (.ends front back outcome) later)) [] names
        memory
      rwa [whole] at joined

/-- Whatever can come of some deletes comes of them over some backend that runs deletes at once. -/
theorem concurrent_of_joins (joins : Joins newId (names.map .waiting) memory outcome) :
    ∃ backend, Concurrent newId backend ∧ backend.deleteAll names memory = outcome := by
  classical
  refine ⟨⟨call newId, fun others other =>
    if others = names ∧ other = memory then outcome else deleteAll newId others other⟩, ?_, ?_⟩
  · constructor
    · rfl
    · intro others other
      dsimp only
      split
      · rename_i same
        obtain ⟨rfl, rfl⟩ := same
        exact joins
      · exact (concurrent_backend newId).joins others other
  · exact if_pos ⟨rfl, rfl⟩

def without (names : List String) (records : List Record) : List Record :=
  records.filter fun record => record.id ∉ names.map some

def gone (slots : List Slot) : List String := slots.filterMap Slot.gone?

@[simp] theorem gone_append (front back : List Slot) :
    gone (front ++ back) = gone front ++ gone back := List.filterMap_append

@[simp] theorem gone_waiting (name : String) (rest : List Slot) :
    gone (.waiting name :: rest) = gone rest := rfl

@[simp] theorem gone_running (name : String) (rest : List Slot) :
    gone (.running name :: rest) = gone rest := rfl

@[simp] theorem gone_answered (name : String) (told : Json) (rest : List Slot) :
    gone (.answered name told :: rest) = name :: gone rest := rfl

theorem name_of_mem_gone (effective : name ∈ gone slots) : name ∈ slots.map Slot.name := by
  obtain ⟨slot, member, same⟩ := List.mem_filterMap.mp effective
  cases slot with
  | answered _ _ =>
    obtain rfl := Option.some.inj same
    exact List.mem_map_of_mem member
  | waiting _ | running _ => cases same

theorem without_append (front back : List String) (records : List Record) :
    without (front ++ back) records = without back (without front records) := by
  unfold without
  rw [List.filter_filter]
  apply List.filter_congr
  intro record _
  rw [Bool.and_comm, List.map_append]
  simp [not_or]

theorem without_congr {first second : List String} (same : ∀ name, name ∈ first ↔ name ∈ second)
    (records : List Record) : without first records = without second records := by
  unfold without
  apply List.filter_congr
  intro record _
  simp [same]

theorem complete_delete (newId : Nat → String) (name : String)
    (deletes : memory.failure? .delete = none) :
    memory.complete newId (.delete name) = memory.finish.delete name := by
  have none_set : memory.finish.failure? (Request.delete name).kind = none := deletes
  unfold complete
  dsimp only
  rw [none_set]
  rfl

/-- A delete takes out the records with its id, and fails if there are none. -/
theorem delete_eq (memory : Memory) (name : String) :
    memory.delete name =
      if some name ∈ memory.records.map Record.id then
        (.ok (deleteAnswer name), { memory with records := without [name] memory.records })
      else (.error (.notFound name), memory) := by
  have whole : (memory.records.filter fun record => record.id ≠ some name).length =
      memory.records.length ↔ some name ∉ memory.records.map Record.id := by
    rw [List.length_filter_eq_length_iff]
    simp
  unfold delete
  dsimp only
  by_cases held : some name ∈ memory.records.map Record.id
  · rw [if_pos held, if_neg (fun same => whole.mp same held)]
    simp [without]
  · rw [if_neg held, if_pos (whole.mpr held)]

theorem delete_ok {told : Json} (ends : memory.delete name = (.ok told, next)) :
    told = deleteAnswer name ∧ next.records = without [name] memory.records ∧
      next.failures = memory.failures := by
  rw [delete_eq] at ends
  split at ends
  · obtain ⟨same, rfl⟩ := Prod.mk.inj ends
    exact ⟨(Except.ok.inj same).symm, rfl, rfl⟩
  · cases ends

/-- A delete fails only if no record has the id. -/
theorem delete_error {error : BackendError} (fails : memory.delete name = (.error error, next)) :
    ∀ record ∈ memory.records, record.id ≠ some name := by
  rw [delete_eq] at fails
  split at fails
  · cases fails
  · rename_i absent
    exact fun record member named => absent (List.mem_map.mpr ⟨record, member, named⟩)

/-- Deletes in flight: the table is short of the records whose deletes have taken effect. -/
structure Midway (records : List Record) (names : List String) (slots : List Slot)
    (memory : Memory) : Prop where
  places : slots.map Slot.name = names
  answers : ∀ name told, .answered name told ∈ slots → told = deleteAnswer name
  kept : memory.records = without (gone slots) records
  deletes : names ≠ [] → memory.failure? .delete = none

/-- A running delete is none that is made to fail. -/
theorem Midway.complete {front back : List Slot}
    (midway : Midway records names (front ++ .running name :: back) memory) :
    memory.complete newId (.delete name) = memory.finish.delete name := by
  apply complete_delete newId name
  apply midway.deletes
  rw [← midway.places]
  simp

/-- A start changes nothing of this, and an effect takes one more record out of the table. -/
theorem Midway.moves {slots' : List Slot} {memory' : Memory}
    (midway : Midway records names slots memory) (moves : Moves newId slots memory slots' memory') :
    Midway records names slots' memory' := by
  have ⟨same, answers, kept, deletes⟩ := midway
  cases moves with
  | starts front back =>
    refine ⟨?_, ?_, ?_, deletes⟩
    · simpa [Slot.name] using same
    · intro name told member
      apply answers name told
      simpa using member
    · simpa [start] using kept
  | ends front back outcome =>
    rw [midway.complete] at outcome
    obtain ⟨rfl, left, failures⟩ := delete_ok outcome
    refine ⟨?_, ?_, ?_, ?_⟩
    · simpa [Slot.name] using same
    · intro other told member
      rcases List.mem_append.mp member with before | behind
      · exact answers other told (List.mem_append_left _ before)
      · rcases List.mem_cons.mp behind with now | behind
        · obtain ⟨rfl, rfl⟩ := Slot.answered.inj now
          rfl
        · exact answers other told (List.mem_append_right _ (List.mem_cons_of_mem _ behind))
    · have table : memory.finish.records = without (gone front ++ gone back) records := by
        simpa [finish] using kept
      rw [left, table, ← without_append]
      apply without_congr
      simp [or_comm]
    · rwa [failure?, failures]

/-- A running delete of a record that was there finds it still there. -/
theorem Midway.not_fails {front back : List Slot} {error : BackendError}
    (midway : Midway records names (front ++ .running name :: back) memory)
    (distinct : names.Nodup) (present : ∀ name ∈ names, some name ∈ records.map Record.id) :
    memory.complete newId (.delete name) ≠ (.error error, next) := by
  intro fails
  rw [midway.complete] at fails
  have inside : name ∈ names := by
    rw [← midway.places]
    simp [Slot.name]
  obtain ⟨record, stored, named⟩ := List.mem_map.mp (present name inside)
  have left : name ∉ gone (front ++ .running name :: back) := by
    have others := distinct
    rw [← midway.places, List.map_append, List.map_cons, List.nodup_middle, ← List.map_append]
      at others
    rw [gone_append, gone_running, ← gone_append]
    exact fun effective => (List.nodup_cons.mp others).1 (name_of_mem_gone effective)
  have found : record ∈ memory.records := by
    rw [midway.kept]
    exact List.mem_filter.mpr ⟨stored, by simpa [named] using left⟩
  exact delete_error fails record found named

/-- However they join, deletes of records that are there all succeed, with their answers in the
order of the deletes, and take out these records and no others. -/
theorem Midway.joins (midway : Midway records names slots memory)
    (joins : Joins newId slots memory outcome) (distinct : names.Nodup)
    (present : ∀ name ∈ names, some name ∈ records.map Record.id) :
    outcome.1 = .ok (names.map deleteAnswer) ∧ outcome.2.records = without names records := by
  induction joins with
  | all done =>
    obtain ⟨same, answers, kept, -⟩ := midway
    have fronts : done.map Prod.fst = names := by
      rw [← same, answeredSlots, List.map_map]
      rfl
    have all : gone (answeredSlots done) = names := by
      rw [← fronts, gone, answeredSlots, List.filterMap_map]
      exact congrFun (List.filterMap_eq_map (f := Prod.fst)) done
    have told : done.map Prod.snd = names.map deleteAnswer := by
      rw [← fronts, List.map_map]
      apply List.map_congr_left
      rintro ⟨name, told⟩ member
      exact answers name told (List.mem_map_of_mem member)
    exact ⟨congrArg Except.ok told, by rw [kept, all]⟩
  | fails _ _ outcome => exact absurd outcome (midway.not_fails distinct present)
  | moves first _ ih => exact ih (midway.moves first)

theorem Midway.of_waiting (deletes : names ≠ [] → memory.failure? .delete = none) :
    Midway memory.records names (names.map .waiting) memory := by
  refine ⟨?_, ?_, ?_, deletes⟩
  · rw [List.map_map]
    exact List.map_id' names
  · intro name told member
    simp at member
  · have quiet : gone (names.map .waiting) = [] := by
      rw [gone, List.filterMap_map]
      exact List.filterMap_none names
    simp [quiet, without]

/-- Deletes of different records that are all there, in any order. -/
theorem deleteAll_any_order {backend : Backend Memory} (concurrent : Concurrent newId backend)
    (memory : Memory) (distinct : names.Nodup)
    (present : ∀ name ∈ names, some name ∈ memory.records.map Record.id)
    (deletes : names ≠ [] → memory.failure? .delete = none) :
    ∃ last, backend.deleteAll names memory = (.ok (names.map deleteAnswer), last) ∧
      last.records = without names memory.records := by
  have midway := Midway.of_waiting deletes
  obtain ⟨answers, left⟩ := midway.joins (concurrent.joins names memory) distinct present
  exact ⟨(backend.deleteAll names memory).2, Prod.ext answers rfl, left⟩

theorem zipWith_deleteAnswer (names : List String) :
    List.zipWith Removal.ofAnswer names (names.map deleteAnswer) =
      names.map fun name => .deleted name true := by
  rw [List.zipWith_map_right, List.zipWith_self]
  rfl

/-- Records with ids of their own, which no field hides. -/
structure Identified (records : List Record) : Prop where
  named : ∀ record ∈ records, ∃ name, record.id = some name
  plain : ∀ record ∈ records, idKey ∉ Members.keys record.fields
  distinct : (records.map Record.id).Nodup

theorem shownId?_of_plain {record : Record} (plain : idKey ∉ Members.keys record.fields)
    (named : record.id = some name) : shownId? record = some name := by
  unfold shownId? Record.flat
  rw [named]
  dsimp only
  rw [Members.get?_insertAll_of_absent _ plain]
  rfl

/-- Identified records are deleted by their ids. -/
theorem listedIds_of_identified (identified : Identified records) {listed : List Record}
    (inside : ∀ record ∈ listed, record ∈ records) :
    ∃ names, Service.listedIds (listed.map Record.flat) = .ok names ∧
      listed.map Record.id = names.map some := by
  have shows : ∀ record ∈ listed, shownId? record = record.id := by
    intro record member
    obtain ⟨name, named⟩ := identified.named record (inside record member)
    rw [shownId?_of_plain (identified.plain record (inside record member)) named, named]
  rcases Service.listedIds_cases (listed.map Record.flat) with
    ⟨-, flat, shown, unnamed⟩ | ⟨names, reads, same⟩
  · obtain ⟨record, member, rfl⟩ := List.mem_map.mp shown
    obtain ⟨name, named⟩ := identified.named record (inside record member)
    have shown : shownId? record = none := unnamed
    rw [shows record member, named] at shown
    cases shown
  · refine ⟨names, reads, ?_⟩
    rw [← same, List.map_map]
    exact List.map_congr_left fun record member => (shows record member).symm

theorem listed_append (memory : Memory) (params : Params) :
    ∃ back, memory.records = memory.listed params ++ back := by
  unfold listed
  split
  · exact ⟨_, (List.take_append_drop _ _).symm⟩
  · exact ⟨[], (List.append_nil _).symm⟩

/-- What a query lists stands side by side in the table. -/
theorem matched_between (memory : Memory) (listing : Listing) :
    ∃ front back, memory.records = front ++ matched memory listing ++ back := by
  obtain ⟨back, split⟩ := listed_append memory listing.selection.params
  refine ⟨(memory.listed listing.selection.params).take listing.skip.toNat, back, ?_⟩
  rw [matched, List.take_append_drop, ← split]

theorem nodup_between {front between back : List Record}
    (distinct : ((front ++ between ++ back).map Record.id).Nodup)
    (same : between.map Record.id = names.map some) : names.Nodup := by
  rw [List.map_append, List.map_append, List.nodup_append, List.nodup_append, same] at distinct
  exact distinct.1.2.1.of_map some

theorem without_of_absent (absent : ∀ record ∈ records, record.id ∉ names.map some) :
    without names records = records :=
  List.filter_eq_self.mpr fun record member => decide_eq_true (absent record member)

/-- Records between others are taken out by their ids. -/
theorem without_between {front between back : List Record}
    (distinct : ((front ++ between ++ back).map Record.id).Nodup)
    (same : between.map Record.id = names.map some) :
    without names (front ++ between ++ back) = front ++ back := by
  rw [List.map_append, List.map_append, List.nodup_append, List.nodup_append, same] at distinct
  obtain ⟨⟨-, -, before⟩, -, behind⟩ := distinct
  have fronts : without names front = front := by
    apply without_of_absent
    exact fun record member inside => before _ (List.mem_map_of_mem member) _ inside rfl
  have backs : without names back = back := by
    apply without_of_absent
    exact fun record member inside =>
      behind _ (List.mem_append_right _ inside) _ (List.mem_map_of_mem member) rfl
  have none_left : without names between = [] := by
    apply List.filter_eq_nil_iff.mpr
    intro record member kept
    have listed : record.id ∈ names.map some := same ▸ List.mem_map_of_mem member
    exact of_decide_eq_true kept listed
  unfold without at fronts backs none_left ⊢
  rw [List.filter_append, List.filter_append, fronts, none_left, backs, List.append_nil]

/-- A removal over an identified table, with its deletes in flight together and in any order: if
no delete is made to fail, it takes out the records that it has listed and leaves all others as
they are and where they are, and it confirms the deletes in the order of the list. -/
theorem removal_any_order {backend : Backend Memory} (concurrent : Concurrent newId backend)
    {query : Query} {listing : Listing} (asked : Listing.ofQuery query = .ok listing)
    (identified : Identified memory.records) (lists : memory.failure? .query = none)
    (deletes : matched memory listing ≠ [] → memory.failure? .delete = none) :
    let removal := Service.run (Service.remove backend none query) memory
    ∃ (front back : List Record) (names : List String),
      memory.records = front ++ matched memory listing ++ back ∧
      (matched memory listing).map Record.id = names.map some ∧
      removal.1 = .ok (.many (names.map fun name => .deleted name true)) ∧
      removal.2.records = front ++ back := by
  intro removal
  have removes : removal = _ := Service.run_remove backend query memory
  have runs := run_removeAll concurrent.call asked memory
  dsimp only at runs removes
  have inside : ∀ record ∈ matched memory listing, record ∈ memory.records :=
    fun record member => mem_of_mem_matched member
  obtain ⟨names, reads, same⟩ := listedIds_of_identified identified inside
  rw [lists, reads] at runs
  dsimp only at runs
  obtain ⟨front, back, whole⟩ := matched_between memory listing
  have distinct := identified.distinct
  rw [whole] at distinct
  have present : ∀ name ∈ names, some name ∈ memory.records.map Record.id := by
    intro name member
    have listed : some name ∈ (matched memory listing).map Record.id := by
      rw [same]
      exact List.mem_map_of_mem member
    obtain ⟨record, inside, named⟩ := List.mem_map.mp listed
    exact List.mem_map.mpr ⟨record, mem_of_mem_matched inside, named⟩
  have some_listed : names ≠ [] → matched memory listing ≠ [] := by
    intro some_named nothing
    rw [nothing] at same
    exact some_named (List.map_eq_nil_iff.mp same.symm)
  obtain ⟨last, outcome, left⟩ := deleteAll_any_order concurrent
    (memory.start (.query listing.selection.params)).finish (nodup_between distinct same) present
    fun some_named => deletes (some_listed some_named)
  rw [outcome] at runs
  dsimp only at runs
  rw [zipWith_deleteAnswer] at runs
  rw [runs] at removes
  refine ⟨front, back, names, whole, same, ?_, ?_⟩
  · rw [removes]
    rfl
  · rw [removes]
    change last.records = _
    rw [left]
    change without names memory.records = _
    rw [whole]
    exact without_between distinct same

theorem removal_any_order_interleaved :
    let newId : Nat → String := fun count => "rec" ++ Text.decimal count
    let memory := ofRecords
      (["a", "b", "c", "d", "e"].map fun name => ⟨some name, [("n", .null)]⟩) true
    let query : Query := [("$limit", .number (.integer 3)), ("$skip", .number (.integer 1))]
    let listing : Listing := ⟨⟨none, none, none, some 4⟩, 1⟩
    let listed := (memory.start (.query listing.selection.params)).finish
    ∃ backend, Concurrent newId backend ∧
      (backend.deleteAll ["b", "c", "d"] listed).2.maxInFlight = 2 ∧
      Listing.ofQuery query = .ok listing ∧ Identified memory.records ∧
      memory.failure? .query = none ∧
      (matched memory listing ≠ [] → memory.failure? .delete = none) ∧
      ∃ (front back : List Record) (names : List String),
        memory.records = front ++ matched memory listing ++ back ∧
        (matched memory listing).map Record.id = names.map some ∧
        (Service.run (Service.remove backend none query) memory).1 =
          .ok (.many (names.map fun name => .deleted name true)) ∧
        (Service.run (Service.remove backend none query) memory).2.records = front ++ back := by
  intro newId memory query listing listed
  -- The second delete ends before the third starts, and the first ends last.
  have joins : Joins newId (["b", "c", "d"].map .waiting) listed (_, _) :=
    .moves (.starts [] _) <| .moves (.starts [.running "b"] _) <|
    .moves (.ends [.running "b"] _ rfl) <|
    .moves (.starts [.running "b", .answered "c" (deleteAnswer "c")] []) <|
    .moves (.ends [.running "b", .answered "c" (deleteAnswer "c")] [] rfl) <|
    .moves (.ends [] _ rfl) <|
    .all (["b", "c", "d"].map fun name => (name, deleteAnswer name))
  obtain ⟨backend, concurrent, outcome⟩ := concurrent_of_joins joins
  have identified : Identified memory.records := by
    constructor
    · intro record member
      obtain ⟨name, -, rfl⟩ := List.mem_map.mp member
      exact ⟨name, rfl⟩
    · intro record member
      obtain ⟨name, -, rfl⟩ := List.mem_map.mp member
      exact (by decide : idKey ∉ ["n"])
    · decide
  have asked : Listing.ofQuery query = .ok listing := rfl
  have deletes : matched memory listing ≠ [] → memory.failure? .delete = none := fun _ => rfl
  refine ⟨backend, concurrent, ?_, asked, identified, rfl, deletes, ?_⟩
  · rw [outcome]
    rfl
  · exact removal_any_order concurrent asked identified rfl deletes

end TableClient.Memory
