import TableClient.Proofs.Members
import TableClient.Proofs.Memory.Log
import TableClient.Proofs.Memory.Runs
import TableClient.Proofs.Service.Listing
/-! What a removal without an id sends. It deletes by the ids that the flat records show, and
a field `id` is shown in place of the record's own id. So each delete names the record that
was listed exactly if that record has no field `id` that holds something else. -/
namespace TableClient.Memory

def shownId? (record : Record) : Option String :=
  (Members.get? record.flat idKey).bind Json.string?

def ShowsOwnId (record : Record) : Prop :=
  ∀ value, (idKey, value) ∈ record.fields → record.id.map Json.string = some value

def matched (memory : Memory) (listing : Listing) : List Record :=
  (memory.listed listing.selection.params).drop listing.skip.toNat

variable {record : Record} {memory : Memory} {id : String}

theorem mem_of_mem_matched {listing : Listing} (member : record ∈ matched memory listing) :
    record ∈ memory.records :=
  mem_of_mem_listed (List.mem_of_mem_drop member)

/-- A field `id` that holds another value is shown in place of the id. -/
theorem shownId?_eq_iff (distinct : Members.Distinct record.fields) (named : record.id = some id) :
    shownId? record = record.id ↔ ShowsOwnId record := by
  have shown : Members.get? record.flat idKey =
      (Members.get? record.fields idKey).or (some (.string id)) := by
    unfold Record.flat
    rw [named]
    exact Members.get?_insertAll _ distinct idKey
  unfold shownId? ShowsOwnId
  rw [shown, named]
  cases field : Members.get? record.fields idKey with
  | none =>
    apply iff_of_true rfl
    intro value member
    rw [Members.get?_of_mem distinct member] at field
    cases field
  | some held =>
    constructor
    · intro same value member
      obtain rfl : held = value :=
        Option.some.inj (field.symm.trans (Members.get?_of_mem distinct member))
      rw [Json.string?_eq_some.mp same, Option.map_some]
    · intro owns
      obtain rfl := Option.some.inj (owns held (Members.mem_of_get? field))
      rfl

/-- A removal lists records and deletes by the ids that they show, if all of them show one. How
the deletes of one operation run is left to the backend. -/
theorem run_removeAll {backend : Backend Memory} {newId : Nat → String}
    (calls : backend.call = call newId) {query : Query} {listing : Listing}
    (asked : Listing.ofQuery query = .ok listing) (memory : Memory) :
    let listed := (memory.start (.query listing.selection.params)).finish
    Service.run (Service.removeAll backend query) memory =
      match memory.failure? .query with
      | some error => (.error (.backend error), listed)
      | none =>
        match Service.listedIds ((matched memory listing).map Record.flat) with
        | .error error => (.error (.backend error), listed)
        | .ok ids =>
          match backend.deleteAll ids listed with
          | (.ok answers, last) => (.ok (List.zipWith Removal.ofAnswer ids answers), last)
          | (.error error, last) => (.error (.backend error), last) := by
  dsimp only
  rw [Service.removeAll_eq backend asked, Service.run_bind, Service.send, Service.run_perform, calls,
    call_query]
  cases memory.failure? .query with
  | some error => rfl
  | none =>
    dsimp only
    rw [← matched]
    cases Service.listedIds ((matched memory listing).map Record.flat) with
    | error error => rfl
    | ok ids =>
      dsimp only
      rw [Service.run_bind, Service.run_perform]
      cases backend.deleteAll ids (memory.start (.query listing.selection.params)).finish with
      | mk result last => cases result <;> rfl

/-- A removal that succeeds or fails in its deletes has sent them by the ids that the listed
records show; another has sent none. -/
theorem removal_cases (newId : Nat → String) {query : Query} {listing : Listing}
    (asked : Listing.ofQuery query = .ok listing) (memory : Memory) :
    let listed := (call newId (.query listing.selection.params) memory).2
    let removal := Service.run (Service.remove (backend newId) none query) memory
    (∃ error, removal = (.error error, listed)) ∨
    ∃ ids, (matched memory listing).map shownId? = ids.map some ∧
      removal.2 = (deleteAll newId ids listed).2 ∧
      ∀ removals, removal.1 = .ok removals → ∃ answers, (deleteAll newId ids listed).1 = .ok answers := by
  dsimp only
  rw [Service.run_remove, run_removeAll (backend_call newId) asked, call_query]
  cases memory.failure? .query with
  | some error => exact .inl ⟨.backend error, rfl⟩
  | none =>
    rcases Service.listedIds_cases ((matched memory listing).map Record.flat) with
      ⟨unreadable, _⟩ | ⟨ids, readable, shown⟩
    · rw [unreadable]
      exact .inl ⟨_, rfl⟩
    · rw [readable]
      refine .inr ⟨ids, by rw [← shown, List.map_map]; rfl, ?_⟩
      dsimp only [backend_deleteAll]
      cases deleteAll newId ids (memory.start (.query listing.selection.params)).finish with
      | mk result last =>
        cases result with
        | ok answers => exact ⟨rfl, fun _ _ => ⟨answers, rfl⟩⟩
        | error error => exact ⟨rfl, fun _ ends => nomatch ends⟩

/-- What a removal sends in any table: its query, and deletes by the ids that the listed records
show, all of them if it succeeds. -/
theorem removal_sends (newId : Nat → String) {query : Query} {listing : Listing}
    (asked : Listing.ofQuery query = .ok listing) (memory : Memory) :
    let request := Request.query listing.selection.params
    let removal := Service.run (Service.remove (backend newId) none query) memory
    ∃ ids, removal.2.log = memory.log ++ request :: ids.map .delete ∧
      ids.map some = ((matched memory listing).take ids.length).map shownId? ∧
      (ids = [] ∧ (∃ error, removal.1 = .error error) ∨
        Sends newId ((matched memory listing).filterMap shownId?) (call newId request memory).2 ids) ∧
      ∀ removals, removal.1 = .ok removals → ids.length = (matched memory listing).length := by
  intro request removal
  have logged := log_call newId request memory
  rcases removal_cases newId asked memory with ⟨error, fails⟩ | ⟨ids, shown, last, ends⟩
  · change removal = _ at fails
    refine ⟨[], ?_, rfl, .inl ⟨rfl, error, congrArg Prod.fst fails⟩, ?_⟩
    · rw [fails]
      exact logged
    · intro removals succeeds
      rw [fails] at succeeds
      cases succeeds
  · obtain ⟨sent, sends, deletes, whole⟩ :=
      sends_deleteAll newId ids (call newId request memory).2
    have told : sent.map some = ((matched memory listing).take sent.length).map shownId? := by
      rw [List.map_take, shown, ← List.map_take, ← List.prefix_iff_eq_take.mp sends.front]
    have texts : (matched memory listing).filterMap shownId? = ids := by
      have same := congrArg (List.filterMap fun name => name) shown
      simpa [List.filterMap_map, Function.comp_def] using same
    refine ⟨sent, ?_, told, .inr ?_, ?_⟩
    · change removal.2 = _ at last
      rw [last, deletes, logged]
      simp
    · rw [texts]
      exact sends
    · intro removals succeeds
      obtain ⟨answers, answered⟩ := ends removals succeeds
      rw [whole answers answered]
      simpa using (congrArg List.length shown).symm

theorem acceptsCall_distinct (call : Call) :
    AcceptsCall (fun _ fields => Members.Distinct fields) call := by
  intro request sends
  cases sends with
  | find | get | removeOne | removeAll => trivial
  | create =>
    intro record member id
    obtain rfl := List.mem_singleton.mp member
    exact Data.distinct _
  | patch =>
    intro record member id _ stored distinct
    exact Members.distinct_insertAll _ distinct
  | @update name data =>
    intro record member id _ _ _
    obtain rfl := List.mem_singleton.mp member
    exact Data.distinct_updateData name data

/-- In every table that starts empty all records have ids and no field twice. -/
theorem allSound_distinct (newId : Nat → String) (hasLatency : Bool) (steps : List Step) :
    AllSound (fun _ fields => Members.Distinct fields) (run newId (ofRecords [] hasLatency) steps) := by
  apply allSound_run
  · rintro step _ call rfl
    exact acceptsCall_distinct call
  · intro record member
    exact absurd member List.not_mem_nil

/-- The deletes name the records they are meant for exactly if each of these shows its own id. -/
theorem names_iff {records : List Record} {ids : List String}
    (sound : ∀ record ∈ records, Sound (fun _ fields => Members.Distinct fields) record)
    (shown : ids.map some = records.map shownId?) :
    ids.map some = records.map Record.id ↔ ∀ record ∈ records, ShowsOwnId record := by
  rw [shown, List.map_inj_left]
  apply forall₂_congr
  intro record member
  obtain ⟨id, named, distinct⟩ := sound record member
  exact shownId?_eq_iff distinct named

/-- Behind the query of a removal stand the deletes by the ids that the listed records show, all
of them if it succeeds. They name the ids of these records, one each and in their order,
exactly if no record that a delete is sent for holds anything but its own id in a field `id`. -/
theorem removal_names_listed_iff (newId : Nat → String) (hasLatency : Bool) (steps : List Step)
    (query : Query) :
    let memory := run newId (ofRecords [] hasLatency) steps
    let removal := Service.run (Service.remove (backend newId) none query) memory
    match Listing.ofQuery query with
    | .error error => removal = (.error (.query error), memory)
    | .ok listing =>
      let request := Request.query listing.selection.params
      ∃ ids, removal.2.log = memory.log ++ request :: ids.map .delete ∧
        ids.map some = ((matched memory listing).take ids.length).map shownId? ∧
        (ids = [] ∧ (∃ error, removal.1 = .error error) ∨
          Sends newId ((matched memory listing).filterMap shownId?) (call newId request memory).2 ids) ∧
        (∀ removals, removal.1 = .ok removals → ids.length = (matched memory listing).length) ∧
        (ids.map some = ((matched memory listing).take ids.length).map Record.id ↔
          ∀ record ∈ (matched memory listing).take ids.length, ShowsOwnId record) := by
  intro memory removal
  have sound : AllSound (fun _ fields => Members.Distinct fields) memory :=
    allSound_distinct newId hasLatency steps
  split
  · rename_i error refused
    have removes : removal = _ := Service.run_remove (backend newId) query memory
    rw [removes, Service.run_removeAll_refused refused]
    rfl
  · rename_i listing asked
    obtain ⟨ids, logged, told, sends, whole⟩ := removal_sends newId asked memory
    have front : ∀ record ∈ (matched memory listing).take ids.length,
        Sound (fun _ fields => Members.Distinct fields) record := by
      intro record member
      exact sound record (mem_of_mem_matched (List.mem_of_mem_take member))
    exact ⟨ids, logged, told, sends, whole, names_iff front told⟩

/-- A removal that lists one record deletes another, which its query has passed over. -/
theorem removal_deletes_unlisted :
    let newId : Nat → String := fun count => "rec" ++ Text.decimal count
    let steps : List Step := [.call (.create (.one ⟨[("x", .number (.integer 1))], by decide⟩)),
      .call (.create (.one ⟨[("id", .string "rec0")], by decide⟩))]
    let query : Query := [("$limit", .number (.integer 1)), ("$skip", .number (.integer 1))]
    let memory := run newId (ofRecords [] false) steps
    let removal := Service.run (Service.remove (backend newId) none query) memory
    let listing : Listing := ⟨⟨none, none, none, some 2⟩, 1⟩
    Listing.ofQuery query = .ok listing ∧
      (matched memory listing).map Record.id = [some "rec1"] ∧
      removal.2.log.drop memory.log.length =
        [.query [(Selection.ceilingKey, .ofCount 2)], .delete "rec0"] ∧
      memory.records.map Record.id = [some "rec0", some "rec1"] ∧
      removal.2.records.map Record.id = [some "rec1"] := by
  dsimp only
  refine ⟨?_, ?_, ?_, ?_, ?_⟩
  · rfl
  · rfl
  · rfl
  · rfl
  · rfl

end TableClient.Memory
