import TableClient.Proofs.Service.Simulation
/-! Exchanges between the service and a backend whose calls are complete when they are made.
A backend that notes them answers as the one it stands for, so what an action has sent can be
told from the notes it leaves, and so can the answer at which it gave up. -/
namespace TableClient

structure Exchange where
  request : Request
  answer : Except BackendError request.Answer

namespace Exchange

def Succeeds (exchange : Exchange) : Prop := ∃ value, exchange.answer = .ok value

/-- The failure that the service makes of a failed request. -/
def Fails (exchange : Exchange) (error : ServiceError) : Prop :=
  ∃ failure, exchange.answer = .error failure ∧ error = .backend failure

theorem Succeeds.not_fails {exchange : Exchange} (succeeds : exchange.Succeeds)
    (error : ServiceError) : ¬ exchange.Fails error := by
  rintro ⟨failure, failed, -⟩
  obtain ⟨value, ended⟩ := succeeds
  rw [ended] at failed
  cases failed

end Exchange

namespace Backend

variable (answers : (request : Request) → σ → Except BackendError request.Answer × σ)

/-- Answers in the same way and notes the exchange behind those before it. -/
def noting (request : Request) (state : σ × List Exchange) :
    Except BackendError request.Answer × (σ × List Exchange) :=
  ((answers request state.1).1,
    (answers request state.1).2, state.2 ++ [⟨request, (answers request state.1).1⟩])

/-- Notes change neither an answer nor the state that is answered from. -/
theorem noting_simulates :
    (immediate (noting answers)).Simulates (immediate answers) fun noted state => noted.1 = state := by
  have calls : ∀ request noted state, noted.1 = state →
      Agree (fun noted state => noted.1 = state) (noting answers request noted)
        (answers request state) := by
    rintro request noted _ rfl
    exact ⟨rfl, rfl⟩
  constructor
  · exact calls
  · intro ids noted state same
    exact deleteInTurn_agree (fun id => calls (.delete id)) ids same

end Backend

namespace Service

variable {stops : Exchange → ServiceError → Prop}

def Passes (stops : Exchange → ServiceError → Prop) (sent : List Exchange) : Prop :=
  ∀ exchange ∈ sent, ∀ error, ¬ stops exchange error

theorem Passes.nil : Passes stops [] := fun _ member => absurd member List.not_mem_nil

theorem Passes.append {front back : List Exchange} (first : Passes stops front)
    (later : Passes stops back) : Passes stops (front ++ back) := by
  intro exchange member
  rcases List.mem_append.mp member with before | behind
  · exact first exchange before
  · exact later exchange behind

/-- Of exchanges of which only the last one stops an action, another that stops it is the same. -/
theorem Passes.last {sent front back : List Exchange} {last exchange : Exchange}
    {error : ServiceError} (passes : Passes stops sent)
    (split : sent ++ [last] = front ++ exchange :: back) (stopped : stops exchange error) :
    back = [] ∧ exchange = last := by
  rcases List.eq_nil_or_concat back with rfl | ⟨inner, other, rfl⟩
  · obtain ⟨-, same⟩ := List.append_inj' split rfl
    exact ⟨rfl, (List.cons.inj same).1.symm⟩
  · rw [List.concat_eq_append, ← List.cons_append, ← List.append_assoc] at split
    obtain ⟨rfl, -⟩ := List.append_inj' split rfl
    exact absurd stopped (passes exchange (by simp) error)

/-- An action that ends in failure exactly at an exchange that stops it, with the failure that
comes of this exchange. -/
structure Heeds (stops : Exchange → ServiceError → Prop) (action : Action (σ × List Exchange) α) :
    Prop where
  ends : ∀ state noted value next, run action (state, noted) = (.ok value, next) →
    ∃ sent, next.2 = noted ++ sent ∧ Passes stops sent
  fails : ∀ state noted error next, run action (state, noted) = (.error error, next) →
    ∃ sent last, next.2 = noted ++ (sent ++ [last]) ∧ Passes stops sent ∧ stops last error

/-- A request that is noted, and what is done about its answer. -/
theorem run_send_noting
    (answers : (request : Request) → σ → Except BackendError request.Answer × σ)
    (request : Request) (next : request.Answer → Action (σ × List Exchange) β) (state : σ)
    (noted : List Exchange) :
    run (send (.immediate (Backend.noting answers)) request >>= next) (state, noted) =
      match (answers request state).1 with
      | .ok answer => run (next answer) ((answers request state).2, noted ++ [⟨request, .ok answer⟩])
      | .error failure =>
        (.error (.backend failure), (answers request state).2, noted ++ [⟨request, .error failure⟩]) := by
  rw [run_bind, send, run_perform]
  dsimp only [Backend.immediate, Backend.noting]
  cases (answers request state).1 with
  | ok answer => rfl
  | error failure => rfl

namespace Heeds

theorem pure (value : α) : Heeds stops (Pure.pure value : Action (σ × List Exchange) α) := by
  constructor
  · intro state noted result next ends
    obtain ⟨-, rfl⟩ := Prod.mk.inj ends
    exact ⟨[], (List.append_nil noted).symm, Passes.nil⟩
  · intro state noted error next fails
    cases fails

theorem bind {action : Action (σ × List Exchange) α} {next : α → Action (σ × List Exchange) β}
    (first : Heeds stops action) (later : ∀ value, Heeds stops (next value)) :
    Heeds stops (action >>= next) := by
  constructor
  · intro state noted value last ends
    rw [run_bind] at ends
    split at ends
    · rename_i front middle outcome
      obtain ⟨sent, noted', passes⟩ := first.ends state noted front middle outcome
      obtain ⟨behind, noted'', passes'⟩ := (later front).ends middle.1 middle.2 value last ends
      exact ⟨sent ++ behind, by rw [noted'', noted', List.append_assoc], passes.append passes'⟩
    · cases ends
  · intro state noted error last fails
    rw [run_bind] at fails
    split at fails
    · rename_i front middle outcome
      obtain ⟨sent, noted', passes⟩ := first.ends state noted front middle outcome
      obtain ⟨behind, stop, noted'', passes', stopped⟩ :=
        (later front).fails middle.1 middle.2 error last fails
      refine ⟨sent ++ behind, stop, ?_, passes.append passes', stopped⟩
      rw [noted'', noted']
      simp only [List.append_assoc]
    · rename_i failure middle outcome
      obtain ⟨same, rfl⟩ := Prod.mk.inj fails
      obtain rfl := Except.error.inj same
      exact first.fails state noted failure middle outcome

/-- A request, and what is done about its answer: one that stops the action is at once its
failure, and behind any other the action goes on. -/
theorem send {answers : (request : Request) → σ → Except BackendError request.Answer × σ}
    {request : Request} {next : request.Answer → Action (σ × List Exchange) β}
    (failed : ∀ failure, stops ⟨request, .error failure⟩ (.backend failure))
    (answered : ∀ answer,
      (∃ error, stops ⟨request, .ok answer⟩ error ∧ next answer = raise error) ∨
      Passes stops [⟨request, .ok answer⟩] ∧ Heeds stops (next answer)) :
    Heeds stops (Service.send (.immediate (Backend.noting answers)) request >>= next) := by
  constructor
  · intro state noted value last ends
    rw [run_send_noting] at ends
    cases outcome : (answers request state).1 with
    | error failure =>
      rw [outcome] at ends
      cases ends
    | ok answer =>
      rw [outcome] at ends
      dsimp only at ends
      rcases answered answer with ⟨error, _, stopped⟩ | ⟨passes, goes⟩
      · rw [stopped] at ends
        cases ends
      · obtain ⟨sent, noted', passes'⟩ := goes.ends _ _ value last ends
        exact ⟨_, by rw [noted', List.append_assoc], passes.append passes'⟩
  · intro state noted error last fails
    rw [run_send_noting] at fails
    cases outcome : (answers request state).1 with
    | error failure =>
      rw [outcome] at fails
      obtain ⟨same, rfl⟩ := Prod.mk.inj fails
      obtain rfl := Except.error.inj same
      exact ⟨[], _, rfl, Passes.nil, failed failure⟩
    | ok answer =>
      rw [outcome] at fails
      dsimp only at fails
      rcases answered answer with ⟨failure, stop, stopped⟩ | ⟨passes, goes⟩
      · rw [stopped] at fails
        obtain ⟨same, rfl⟩ := Prod.mk.inj fails
        obtain rfl := Except.error.inj same
        exact ⟨[], _, rfl, Passes.nil, stop⟩
      · obtain ⟨sent, stop, noted', passes', stopped⟩ := goes.fails _ _ error last fails
        refine ⟨_, stop, ?_, passes.append passes', stopped⟩
        rw [noted']
        simp only [List.append_assoc]

end Heeds

end Service
end TableClient
