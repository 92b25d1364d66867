import TableClient.Proofs.Service.Triple
/-! Calls of the service as data, so that sequences of them can be spoken of. What a backend
keeps under each request that a call may send, it keeps under the call, and the records
that a call shows are the flat shapes of records in the backend's answers. -/
namespace TableClient

/-- An object as an application gives it. -/
structure Data where
  members : FlatRecord
  distinct : Members.Distinct members

theorem Data.distinct_updateData (name : Option String) (data : Data) :
    Members.Distinct (updateData name data.members) := by
  unfold updateData
  split
  · exact Members.distinct_insert _ _ data.distinct
  · exact data.distinct

inductive Call
  | find (query : Query)
  | get (id : String)
  | create (data : OneOrMany Data)
  | patch (id : Option String) (data : OneOrMany Data)
  | update (id : Option String) (data : Data)
  | remove (id : Option String) (query : Query)

def Request.answered : (request : Request) → request.Answer → List Record
  | .query _, records => records
  | .fetch _, record => [record]
  | .delete _, _ => []
  | .write _ _, records => records.toList

namespace Call

abbrev Answer : Call → Type
  | .find _ => List FlatRecord
  | .get _ => FlatRecord
  | .create _ => OneOrMany FlatRecord
  | .patch _ _ => OneOrMany FlatRecord
  | .update _ _ => FlatRecord
  | .remove _ _ => OneOrMany Removal

def shown : (call : Call) → call.Answer → List FlatRecord
  | .find _, records => records
  | .get _, record => [record]
  | .create _, records => records.toList
  | .patch _ _, records => records.toList
  | .update _ _, record => [record]
  | .remove _ _, _ => []

def perform (backend : Backend σ) : (call : Call) → Action σ call.Answer
  | .find query => Service.find backend query
  | .get id => Service.get backend id
  | .create data => Service.create backend (data.map Data.members)
  | .patch id data => Service.patch backend id (data.map Data.members)
  | .update id data => Service.update backend id data.members
  | .remove id query => Service.remove backend id query

/-- The requests that a call may send; those that delete what it has listed are not told
by the call. -/
inductive Sends : Call → Request → Prop
  | find : Sends (.find query) (.query params)
  | get : Sends (.get name) (.fetch name)
  | create : item ∈ data.toList → Sends (.create data) (.write .post [Record.ofFlat item.members])
  | patch : Sends (.patch name data) (.write .patch (patchRecords name (data.map Data.members)))
  | update : Sends (.update name data) (.write .put [Record.ofFlat (updateData name data.members)])
  | removeOne : nonEmptyId? given = some name → Sends (.remove given query) (.delete name)
  | removeAll : nonEmptyId? given = none → Sends (.remove given query) (.query params)

end Call

/-- Under a request a backend keeps an invariant and answers with records that are fit;
another record stays fit unless the request overwrites or deletes. -/
structure Backend.Keeps (backend : Backend σ) (invariant : σ → Prop)
    (fit : Record → σ → Prop) (request : Request) : Prop where
  state : ∀ state, invariant state → invariant (backend.call request state).2
  answered : ∀ state, invariant state → ∀ answer, (backend.call request state).1 = .ok answer →
    ∀ record ∈ request.answered answer, fit record (backend.call request state).2
  earlier : ∀ payload, request = .write .post payload → ∀ state record, invariant state →
    fit record state → fit record (backend.call request state).2

/-- The first of several deletes fails and is the last one sent, or is in front of the others. -/
theorem Backend.deleteInTurn_cons
    (call : (request : Request) → σ → Except BackendError request.Answer × σ) (id : String)
    (rest : List String) (state : σ) :
    (∃ error next, call (.delete id) state = (.error error, next) ∧
      deleteInTurn call (id :: rest) state = (.error error, next)) ∨
    ∃ answer next, call (.delete id) state = (.ok answer, next) ∧
      deleteInTurn call (id :: rest) state =
        ((deleteInTurn call rest next).1.map (answer :: ·), (deleteInTurn call rest next).2) := by
  rw [deleteInTurn]
  cases outcome : call (.delete id) state with
  | mk result next =>
    cases result with
    | error error => exact .inl ⟨error, next, rfl, rfl⟩
    | ok answer =>
      refine .inr ⟨answer, next, rfl, ?_⟩
      dsimp only
      cases deleteInTurn call rest next with
      | mk result last => cases result <;> rfl

/-- Deletes one after the other keep what each of them keeps. -/
theorem Backend.deleteInTurn_keeps (invariant : σ → Prop)
    {call : (request : Request) → σ → Except BackendError request.Answer × σ}
    (keeps : ∀ id state, invariant state → invariant (call (.delete id) state).2)
    (ids : List String) {state : σ} (start : invariant state) :
    invariant (deleteInTurn call ids state).2 := by
  induction ids generalizing state with
  | nil => exact start
  | cons id rest ih =>
    have first := keeps id state start
    rcases deleteInTurn_cons call id rest state with
      ⟨error, next, outcome, fails⟩ | ⟨answer, next, outcome, runs⟩
    · rw [outcome] at first
      rw [fails]
      exact first
    · rw [outcome] at first
      rw [runs]
      exact ih first

namespace Service

variable {backend : Backend σ} {invariant : σ → Prop} {fit : Record → σ → Prop}

def Shows (fit : Record → σ → Prop) (flats : List FlatRecord) (state : σ) : Prop :=
  ∀ flat ∈ flats, ∃ record, flat = record.flat ∧ fit record state

theorem shows_map (records : List Record) {state : σ} (each : ∀ record ∈ records, fit record state) :
    Shows fit (records.map Record.flat) state := by
  intro flat member
  obtain ⟨record, inside, rfl⟩ := List.mem_map.mp member
  exact ⟨record, rfl, each record inside⟩

theorem triple_send {request : Request} (keeps : backend.Keeps invariant fit request) :
    Triple invariant (send backend request)
      (fun answer state => invariant state ∧ ∀ record ∈ request.answered answer, fit record state)
      invariant := by
  apply Triple.perform
  · intro state start answer next outcome
    have kept := keeps.state state start
    have answered := keeps.answered state start answer
    rw [outcome] at kept answered
    exact ⟨kept, answered rfl⟩
  · intro state start error next outcome
    have kept := keeps.state state start
    rw [outcome] at kept
    exact kept

theorem triple_find (query : Query) (keeps : ∀ params, backend.Keeps invariant fit (.query params)) :
    Triple invariant (find backend query)
      (fun flats state => invariant state ∧ Shows fit flats state) invariant := by
  unfold find
  split
  · apply Triple.raise
    intro state start
    exact start
  · rename_i listing _
    apply Triple.bind (triple_send (keeps _))
    intro records
    apply Triple.pure
    rintro state ⟨kept, each⟩
    constructor
    · exact kept
    · intro flat member
      exact shows_map records each flat (List.mem_of_mem_drop member)

theorem triple_get (id : String) (keeps : backend.Keeps invariant fit (.fetch id)) :
    Triple invariant (get backend id)
      (fun flat state => invariant state ∧ Shows fit [flat] state) invariant := by
  apply Triple.bind (triple_send keeps)
  intro record
  apply Triple.pure
  rintro state ⟨kept, each⟩
  exact ⟨kept, shows_map [record] each⟩

theorem triple_first {kind : WriteKind} {payload : List Record} (records : OneOrMany Record)
    {required : σ → Prop} :
    Triple (fun state => required state ∧
        ∀ record ∈ (Request.write kind payload).answered records, fit record state)
      (first records) (fun record state => required state ∧ fit record state) required := by
  unfold first
  split
  · rename_i record rest answered
    apply Triple.pure
    rintro state ⟨kept, each⟩
    have member : record ∈ (Request.write kind payload).answered records := by
      rw [Request.answered, answered]
      exact List.mem_cons_self
    exact ⟨kept, each record member⟩
  · apply Triple.raise
    rintro state ⟨kept, -⟩
    exact kept

theorem triple_update (id : Option String) (data : FlatRecord)
    (keeps : backend.Keeps invariant fit (.write .put [Record.ofFlat (updateData id data)])) :
    Triple invariant (update backend id data)
      (fun flat state => invariant state ∧ Shows fit [flat] state) invariant := by
  apply Triple.bind (triple_send keeps)
  intro records
  apply Triple.bind (triple_first records)
  intro record
  apply Triple.pure
  rintro state ⟨kept, holds⟩
  exact ⟨kept, shows_map [record] (by simpa using holds)⟩

theorem triple_patch (id : Option String) (data : OneOrMany FlatRecord)
    (keeps : backend.Keeps invariant fit (.write .patch (patchRecords id data))) :
    Triple invariant (patch backend id data)
      (fun flats state => invariant state ∧ Shows fit flats.toList state) invariant := by
  apply Triple.bind (triple_send keeps)
  intro records
  apply Triple.pure
  rintro state ⟨kept, each⟩
  constructor
  · exact kept
  · cases records with
    | one record => exact shows_map [record] each
    | many records => exact shows_map records each

/-- What was shown before a record is created is still shown behind it. -/
theorem keeps_shown {payload : List Record} (earlier : List FlatRecord)
    (keeps : backend.Keeps invariant fit (.write .post payload)) :
    backend.Keeps (fun state => invariant state ∧ Shows fit earlier state) fit
      (.write .post payload) := by
  constructor
  · rintro state ⟨start, shown⟩
    constructor
    · exact keeps.state state start
    · intro flat member
      obtain ⟨record, same, holds⟩ := shown flat member
      exact ⟨record, same, keeps.earlier payload rfl state record start holds⟩
  · rintro state ⟨start, -⟩
    exact keeps.answered state start
  · rintro others same state record ⟨start, -⟩
    exact keeps.earlier others same state record start

theorem triple_createOne (earlier : List FlatRecord) (data : FlatRecord)
    (keeps : backend.Keeps invariant fit (.write .post [Record.ofFlat data])) :
    Triple (fun state => invariant state ∧ Shows fit earlier state) (createOne backend data)
      (fun flat state => invariant state ∧ Shows fit (earlier ++ [flat]) state) invariant := by
  -- The request is taken to keep what was shown as well, which a failure then forgets.
  have created : Triple (fun state => invariant state ∧ Shows fit earlier state)
      (createOne backend data)
      (fun flat state => invariant state ∧ Shows fit (earlier ++ [flat]) state)
      (fun state => invariant state ∧ Shows fit earlier state) := by
    apply Triple.bind (triple_send (keeps_shown earlier keeps))
    intro records
    apply Triple.bind (triple_first records)
    intro record
    apply Triple.pure
    rintro state ⟨⟨kept, shown⟩, holds⟩
    constructor
    · exact kept
    · intro flat member
      rcases List.mem_append.mp member with before | new
      · exact shown flat before
      · exact ⟨record, List.mem_singleton.mp new, holds⟩
  apply created.weaken
  · intro state start
    exact start
  · intro flat state ends
    exact ends
  · rintro state ⟨kept, -⟩
    exact kept

theorem triple_createAll (earlier items : List FlatRecord)
    (keeps : ∀ item ∈ items, backend.Keeps invariant fit (.write .post [Record.ofFlat item])) :
    Triple (fun state => invariant state ∧ Shows fit earlier state) (createAll backend items)
      (fun flats state => invariant state ∧ Shows fit (earlier ++ flats) state) invariant := by
  induction items generalizing earlier with
  | nil =>
    apply Triple.pure
    intro state start
    simpa using start
  | cons item rest ih =>
    apply Triple.bind (triple_createOne earlier item (keeps item List.mem_cons_self))
    intro created
    have later := ih (earlier ++ [created]) (by
      intro other member
      exact keeps other (List.mem_cons_of_mem _ member))
    apply Triple.bind later
    intro others
    apply Triple.pure
    simp

theorem triple_create (data : OneOrMany FlatRecord)
    (keeps : ∀ item ∈ data.toList, backend.Keeps invariant fit (.write .post [Record.ofFlat item])) :
    Triple invariant (create backend data)
      (fun flats state => invariant state ∧ Shows fit flats.toList state) invariant := by
  have created : Triple (fun state => invariant state ∧ Shows fit [] state) (create backend data)
      (fun flats state => invariant state ∧ Shows fit flats.toList state) invariant := by
    cases data with
    | one item =>
      apply Triple.bind (triple_createOne [] item (keeps item List.mem_cons_self))
      intro flat
      apply Triple.pure
      intro state ends
      exact ends
    | many items =>
      apply Triple.bind (triple_createAll [] items keeps)
      intro flats
      apply Triple.pure
      intro state ends
      exact ends
  apply created.weaken
  · intro state start
    exact ⟨start, fun _ member => absurd member List.not_mem_nil⟩
  · intro flats state ends
    exact ends
  · intro state kept
    exact kept

theorem triple_removeOne (id : String) (keeps : backend.Keeps invariant fit (.delete id)) :
    Triple invariant (removeOne backend id) (fun _ state => invariant state) invariant := by
  apply Triple.bind (triple_send keeps)
  intro answer
  apply Triple.pure
  rintro state ⟨kept, -⟩
  exact kept

theorem triple_removeAll (query : Query) (keeps : ∀ params, backend.Keeps invariant fit (.query params))
    (deletes : ∀ ids state, invariant state → invariant (backend.deleteAll ids state).2) :
    Triple invariant (removeAll backend query) (fun _ state => invariant state) invariant := by
  apply Triple.bind (triple_find query keeps)
  intro flats
  split
  · apply Triple.raise
    rintro state ⟨kept, -⟩
    exact kept
  · rename_i ids _
    have kept (state : σ) (start : invariant state ∧ Shows fit flats state) :
        invariant (backend.deleteAll ids state).2 := deletes ids state start.1
    have deleted : Triple (fun state => invariant state ∧ Shows fit flats state)
        (perform (backend.deleteAll ids)) (fun _ state => invariant state) invariant := by
      apply Triple.perform
      · intro state start answers next outcome
        have holds := kept state start
        rw [outcome] at holds
        exact holds
      · intro state start error next outcome
        have holds := kept state start
        rw [outcome] at holds
        exact holds
    apply Triple.bind deleted
    intro answers
    apply Triple.pure
    intro state ends
    exact ends

theorem triple_remove (id : Option String) (query : Query)
    (one : ∀ name, nonEmptyId? id = some name → backend.Keeps invariant fit (.delete name))
    (all : nonEmptyId? id = none → ∀ params, backend.Keeps invariant fit (.query params))
    (deletes : ∀ ids state, invariant state → invariant (backend.deleteAll ids state).2) :
    Triple invariant (remove backend id query) (fun _ state => invariant state) invariant := by
  unfold remove
  split
  · rename_i name given
    apply Triple.bind (triple_removeOne name (one name given))
    intro removal
    apply Triple.pure
    intro state ends
    exact ends
  · rename_i absent
    apply Triple.bind (triple_removeAll query (all absent) deletes)
    intro removals
    apply Triple.pure
    intro state ends
    exact ends

end Service

/-- A call keeps what its requests and its deletes keep, and shows fit records. -/
theorem Call.triple_perform {backend : Backend σ} {invariant : σ → Prop}
    {fit : Record → σ → Prop} (call : Call)
    (keeps : ∀ request, call.Sends request → backend.Keeps invariant fit request)
    (deletes : ∀ ids state, invariant state → invariant (backend.deleteAll ids state).2) :
    Service.Triple invariant (call.perform backend)
      (fun answer state => invariant state ∧ Service.Shows fit (call.shown answer) state)
      invariant := by
  match call with
  | .find query => exact Service.triple_find query fun _ => keeps _ .find
  | .get id => exact Service.triple_get id (keeps _ .get)
  | .create data =>
    apply Service.triple_create
    intro item member
    have given : ∃ source ∈ data.toList, item = source.members := by
      cases data with
      | one source => exact ⟨source, List.mem_cons_self, List.mem_singleton.mp member⟩
      | many sources =>
        obtain ⟨source, inside, same⟩ := List.mem_map.mp member
        exact ⟨source, inside, same.symm⟩
    obtain ⟨source, inside, rfl⟩ := given
    exact keeps _ (.create inside)
  | .patch id data => exact Service.triple_patch id _ (keeps _ .patch)
  | .update id data => exact Service.triple_update id _ (keeps _ .update)
  | .remove id query =>
    have removed := Service.triple_remove id query
      (fun _ given => keeps _ (.removeOne given)) (fun absent _ => keeps _ (.removeAll absent)) deletes
    apply removed.weaken
    · intro state start
      exact start
    · intro removals state ends
      exact ⟨ends, fun _ member => absurd member List.not_mem_nil⟩
    · intro state kept
      exact kept

end TableClient
