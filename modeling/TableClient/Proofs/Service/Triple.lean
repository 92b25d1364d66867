import TableClient.Service
/-! Assertions on actions. A failure ends an action and keeps the state it was in, so an
assertion says what holds behind a result and what holds behind a failure. -/
namespace TableClient.Service

theorem run_bind (action : Action σ α) (next : α → Action σ β) (state : σ) :
    run (action >>= next) state = match run action state with
      | (.ok value, middle) => run (next value) middle
      | (.error error, middle) => (.error error, middle) := by
  change (StateT.bind action (ExceptT.bindCont next)) state = _
  simp only [StateT.bind, run, StateT.run]
  cases action state with
  | mk result middle => cases result <;> rfl

/-- What is made of a result alone changes neither the state nor a failure. -/
theorem run_bind_pure (action : Action σ α) (f : α → β) (state : σ) :
    run (action >>= fun value => pure (f value)) state =
      ((run action state).1.map f, (run action state).2) := by
  rw [run_bind]
  cases run action state with
  | mk result middle => cases result <;> rfl

theorem run_perform (answer : σ → Except BackendError α × σ) (state : σ) :
    run (perform answer) state = match answer state with
      | (.ok value, next) => (.ok value, next)
      | (.error error, next) => (.error (.backend error), next) :=
  rfl

/-- From a state as required, an action with a result ends as ensured, and any other as
admitted. -/
structure Triple (required : σ → Prop) (action : Action σ α) (ensured : α → σ → Prop)
    (admitted : σ → Prop) : Prop where
  ends : ∀ state, required state → ∀ value next, run action state = (.ok value, next) →
    ensured value next
  fails : ∀ state, required state → ∀ error next, run action state = (.error error, next) →
    admitted next

namespace Triple

variable {required admitted : σ → Prop} {between : α → σ → Prop} {ensured : β → σ → Prop}

theorem pure {value : β} (holds : ∀ state, required state → ensured value state) :
    Triple required (Pure.pure value) ensured admitted := by
  constructor
  · intro state start result next ends
    obtain ⟨same, rfl⟩ := Prod.mk.inj ends
    obtain rfl := Except.ok.inj same
    exact holds state start
  · intro state start error next fails
    cases fails

theorem raise {error : ServiceError} (holds : ∀ state, required state → admitted state) :
    Triple required (Service.raise error) ensured admitted := by
  constructor
  · intro state start value next ends
    cases ends
  · intro state start error next fails
    obtain ⟨-, rfl⟩ := Prod.mk.inj fails
    exact holds state start

theorem bind {action : Action σ α} {next : α → Action σ β}
    (first : Triple required action between admitted)
    (later : ∀ value, Triple (between value) (next value) ensured admitted) :
    Triple required (action >>= next) ensured admitted := by
  constructor
  · intro state start value last ends
    rw [run_bind] at ends
    split at ends
    · rename_i front middle outcome
      have reached := first.ends state start front middle outcome
      exact (later front).ends middle reached value last ends
    · cases ends
  · intro state start error last fails
    rw [run_bind] at fails
    split at fails
    · rename_i front middle outcome
      have reached := first.ends state start front middle outcome
      exact (later front).fails middle reached error last fails
    · rename_i failure middle outcome
      obtain ⟨-, rfl⟩ := Prod.mk.inj fails
      exact first.fails state start failure middle outcome

theorem perform {answer : σ → Except BackendError β × σ}
    (ends : ∀ state, required state → ∀ value next, answer state = (.ok value, next) →
      ensured value next)
    (fails : ∀ state, required state → ∀ error next, answer state = (.error error, next) →
      admitted next) :
    Triple required (Service.perform answer) ensured admitted := by
  constructor
  · intro state start value last performed
    rw [run_perform] at performed
    split at performed
    · rename_i answered next outcome
      obtain ⟨same, rfl⟩ := Prod.mk.inj performed
      obtain rfl := Except.ok.inj same
      exact ends state start answered next outcome
    · cases performed
  · intro state start error last performed
    rw [run_perform] at performed
    split at performed
    · cases performed
    · rename_i failure next outcome
      obtain ⟨-, rfl⟩ := Prod.mk.inj performed
      exact fails state start failure next outcome

theorem weaken {required' admitted' : σ → Prop} {ensured' : β → σ → Prop} {action : Action σ β}
    (holds : Triple required action ensured admitted)
    (enters : ∀ state, required' state → required state)
    (leaves : ∀ value state, ensured value state → ensured' value state)
    (fails : ∀ state, admitted state → admitted' state) :
    Triple required' action ensured' admitted' := by
  constructor
  · intro state start value next ended
    apply leaves
    exact holds.ends state (enters state start) value next ended
  · intro state start error next failed
    apply fails
    exact holds.fails state (enters state start) error next failed

end Triple
end TableClient.Service
