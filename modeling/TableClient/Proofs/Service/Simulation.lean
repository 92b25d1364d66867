import TableClient.Proofs.Service.Calls
/-! Two backends that answer alike in related states. Whatever the service does over the one
it does over the other: each call has the same result and leaves related states. -/
namespace TableClient

def Agree (alike : σ → τ → Prop) (left : α × σ) (right : α × τ) : Prop :=
  left.1 = right.1 ∧ alike left.2 right.2

theorem Agree.outcomes {alike : σ → τ → Prop} {left : α × σ} {right : α × τ}
    (agree : Agree alike left right) :
    ∃ result next other, left = (result, next) ∧ right = (result, other) ∧ alike next other := by
  obtain ⟨same, related⟩ := agree
  exact ⟨left.1, left.2, right.2, rfl, Prod.ext same.symm rfl, related⟩

namespace Backend

/-- Backends that answer each request alike, and the deletes of one operation too. -/
structure Simulates (left : Backend σ) (right : Backend τ) (alike : σ → τ → Prop) : Prop where
  call : ∀ request state other, alike state other →
    Agree alike (left.call request state) (right.call request other)
  deleteAll : ∀ ids state other, alike state other →
    Agree alike (left.deleteAll ids state) (right.deleteAll ids other)

theorem deleteInTurn_agree {alike : σ → τ → Prop}
    {left : (request : Request) → σ → Except BackendError request.Answer × σ}
    {right : (request : Request) → τ → Except BackendError request.Answer × τ}
    (calls : ∀ id state other, alike state other →
      Agree alike (left (.delete id) state) (right (.delete id) other))
    (ids : List String) {state : σ} {other : τ} (start : alike state other) :
    Agree alike (deleteInTurn left ids state) (deleteInTurn right ids other) := by
  induction ids generalizing state other with
  | nil => exact ⟨rfl, start⟩
  | cons id rest ih =>
    obtain ⟨result, next, next', outcome, outcome', related⟩ := (calls id state other start).outcomes
    rw [deleteInTurn, deleteInTurn, outcome, outcome']
    cases result with
    | error error => exact ⟨rfl, related⟩
    | ok answer =>
      obtain ⟨results, last, last', later, later', related⟩ := (ih related).outcomes
      dsimp only
      rw [later, later']
      cases results with
      | error error => exact ⟨rfl, related⟩
      | ok answers => exact ⟨rfl, related⟩

end Backend

namespace Service

/-- From related states two actions have the same result and end in related states. -/
def Matches (alike : σ → τ → Prop) (left : Action σ α) (right : Action τ α) : Prop :=
  ∀ state other, alike state other → Agree alike (run left state) (run right other)

namespace Matches

variable {alike : σ → τ → Prop}

theorem pure (value : α) : Matches alike (Pure.pure value) (Pure.pure value) :=
  fun _ _ start => ⟨rfl, start⟩

theorem raise (error : ServiceError) :
    Matches alike (Service.raise error : Action σ α) (Service.raise error) :=
  fun _ _ start => ⟨rfl, start⟩

theorem perform {left : σ → Except BackendError α × σ} {right : τ → Except BackendError α × τ}
    (answers : ∀ state other, alike state other → Agree alike (left state) (right other)) :
    Matches alike (Service.perform left) (Service.perform right) := by
  intro state other start
  obtain ⟨result, next, next', outcome, outcome', related⟩ := (answers state other start).outcomes
  rw [run_perform, run_perform, outcome, outcome']
  cases result with
  | ok value => exact ⟨rfl, related⟩
  | error error => exact ⟨rfl, related⟩

theorem bind {left : Action σ α} {right : Action τ α} {next : α → Action σ β}
    {next' : α → Action τ β} (first : Matches alike left right)
    (later : ∀ value, Matches alike (next value) (next' value)) :
    Matches alike (left >>= next) (right >>= next') := by
  intro state other start
  obtain ⟨result, middle, middle', outcome, outcome', related⟩ := (first state other start).outcomes
  rw [run_bind, run_bind, outcome, outcome']
  cases result with
  | ok value => exact later value middle middle' related
  | error error => exact ⟨rfl, related⟩

end Matches

variable {left : Backend σ} {right : Backend τ} {alike : σ → τ → Prop}

theorem matches_send (simulates : left.Simulates right alike) (request : Request) :
    Matches alike (send left request) (send right request) :=
  Matches.perform (simulates.call request)

theorem matches_find (simulates : left.Simulates right alike) (query : Query) :
    Matches alike (find left query) (find right query) := by
  unfold find
  split
  · exact Matches.raise _
  · apply Matches.bind (matches_send simulates _)
    intro records
    exact Matches.pure _

theorem matches_first (records : OneOrMany Record) :
    Matches alike (first records) (first records) := by
  unfold first
  split
  · exact Matches.pure _
  · exact Matches.raise _

/-- A write of which the first record is shown. -/
theorem matches_shown (simulates : left.Simulates right alike) (kind : WriteKind)
    (payload : List Record) :
    Matches alike (do return (← first (← send left (.write kind payload))).flat)
      (do return (← first (← send right (.write kind payload))).flat) := by
  apply Matches.bind (matches_send simulates _)
  intro records
  apply Matches.bind (matches_first records)
  intro record
  exact Matches.pure _

theorem matches_createAll (simulates : left.Simulates right alike) (items : List FlatRecord) :
    Matches alike (createAll left items) (createAll right items) := by
  induction items with
  | nil => exact Matches.pure _
  | cons data rest ih =>
    apply Matches.bind (matches_shown simulates .post [Record.ofFlat data])
    intro created
    apply Matches.bind ih
    intro others
    exact Matches.pure _

theorem matches_create (simulates : left.Simulates right alike) (data : OneOrMany FlatRecord) :
    Matches alike (create left data) (create right data) := by
  cases data with
  | one data =>
    apply Matches.bind (matches_shown simulates .post [Record.ofFlat data])
    intro created
    exact Matches.pure _
  | many items =>
    apply Matches.bind (matches_createAll simulates items)
    intro created
    exact Matches.pure _

theorem matches_removeAll (simulates : left.Simulates right alike) (query : Query) :
    Matches alike (removeAll left query) (removeAll right query) := by
  apply Matches.bind (matches_find simulates query)
  intro matched
  split
  · exact Matches.raise _
  · rename_i ids _
    apply Matches.bind (Matches.perform (simulates.deleteAll ids))
    intro answers
    exact Matches.pure _

theorem matches_remove (simulates : left.Simulates right alike) (id : Option String)
    (query : Query) : Matches alike (remove left id query) (remove right id query) := by
  unfold remove
  split
  · rename_i name _
    apply Matches.bind
    · apply Matches.bind (matches_send simulates (.delete name))
      intro answer
      exact Matches.pure _
    · intro removal
      exact Matches.pure _
  · apply Matches.bind (matches_removeAll simulates query)
    intro removals
    exact Matches.pure _

end Service

/-- Over backends that answer alike each call of the service has the same result. -/
theorem Call.matches_perform {left : Backend σ} {right : Backend τ} {alike : σ → τ → Prop}
    (simulates : left.Simulates right alike) (call : Call) :
    Service.Matches alike (call.perform left) (call.perform right) := by
  match call with
  | .find query => exact Service.matches_find simulates query
  | .get id =>
    apply Service.Matches.bind (Service.matches_send simulates (.fetch id))
    intro record
    exact Service.Matches.pure _
  | .create data => exact Service.matches_create simulates _
  | .patch id data =>
    apply Service.Matches.bind (Service.matches_send simulates _)
    intro records
    exact Service.Matches.pure _
  | .update id data => exact Service.matches_shown simulates .put _
  | .remove id query => exact Service.matches_remove simulates id query

end TableClient
