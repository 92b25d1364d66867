import TableClient.Backend.Memory
import TableClient.Proofs.Service.Calls
/-! What requests leave in the log of a table. Every request is logged once, when it starts,
whatever comes of it. -/
namespace TableClient.Memory

/-- Deletes sent one after the other, none behind one that fails. -/
inductive Attempts (newId : Nat → String) : List String → Memory → List String → Prop
  | nothing : Attempts newId [] memory []
  | failed : (call newId (.delete name) memory).1 = .error error →
      Attempts newId (name :: rest) memory [name]
  | deleted : (call newId (.delete name) memory).1 = .ok answered →
      Attempts newId rest (call newId (.delete name) memory).2 sent →
      Attempts newId (name :: rest) memory (name :: sent)

/-- The deletes of one operation: with latency all of them, else those up to a failure. -/
inductive Sends (newId : Nat → String) (ids : List String) (memory : Memory) : List String → Prop
  | atOnce : memory.hasLatency = true → Sends newId ids memory ids
  | inTurn : memory.hasLatency = false → Attempts newId ids memory sent → Sends newId ids memory sent

variable {newId : Nat → String} {memory : Memory} {ids sent : List String}

/-- Nothing but the records and their count changes when a request is answered. -/
theorem answer_changes (newId : Nat → String) (memory : Memory) (request : Request) :
    ∃ records created, (answer newId memory request).2 = { memory with records, created } := by
  match request with
  | .query _ | .write .post _ | .write .patch _ | .write .put _ => exact ⟨_, _, rfl⟩
  | .fetch id =>
    simp only [answer]
    split
    · exact ⟨_, _, rfl⟩
    · exact ⟨_, _, rfl⟩
  | .delete id =>
    simp only [answer, delete]
    split
    · exact ⟨_, _, rfl⟩
    · exact ⟨_, _, rfl⟩

theorem complete_changes (newId : Nat → String) (memory : Memory) (request : Request) :
    ∃ records created,
      (memory.complete newId request).2 = { memory.finish with records, created } := by
  unfold complete
  dsimp only
  split
  · exact ⟨_, _, rfl⟩
  · exact answer_changes newId memory.finish request

/-- Ending a request logs nothing. -/
theorem log_complete (newId : Nat → String) (memory : Memory) (request : Request) :
    (memory.complete newId request).2.log = memory.log := by
  obtain ⟨records, created, changed⟩ := complete_changes newId memory request
  rw [changed]
  rfl

theorem hasLatency_call (newId : Nat → String) (request : Request) (memory : Memory) :
    (call newId request memory).2.hasLatency = memory.hasLatency := by
  obtain ⟨records, created, changed⟩ := complete_changes newId (memory.start request) request
  rw [call, changed]
  rfl

theorem failures_call (newId : Nat → String) (request : Request) (memory : Memory) :
    (call newId request memory).2.failures = memory.failures := by
  obtain ⟨records, created, changed⟩ := complete_changes newId (memory.start request) request
  rw [call, changed]
  rfl

/-- A request that has ended is in flight no more; while it was, the maximum has counted it. -/
theorem inFlight_call (newId : Nat → String) (request : Request) (memory : Memory) :
    (call newId request memory).2.inFlight = memory.inFlight ∧
      (call newId request memory).2.maxInFlight =
        max memory.maxInFlight (memory.inFlight + 1) := by
  obtain ⟨records, created, changed⟩ := complete_changes newId (memory.start request) request
  rw [call, changed]
  exact ⟨rfl, rfl⟩

theorem log_call (newId : Nat → String) (request : Request) (memory : Memory) :
    (call newId request memory).2.log = memory.log ++ [request] :=
  log_complete newId (memory.start request) request

/-- Started deletes are logged and in flight, and the maximum may have risen. -/
theorem startAll_changes (memory : Memory) (ids : List String) :
    ∃ peak, memory.startAll ids = { memory with
      log := memory.log ++ ids.map Request.delete
      inFlight := memory.inFlight + ids.length
      maxInFlight := peak } := by
  induction ids generalizing memory with
  | nil => exact ⟨memory.maxInFlight, by simp [startAll]⟩
  | cons id rest ih =>
    obtain ⟨peak, later⟩ := ih (memory.start (.delete id))
    refine ⟨peak, ?_⟩
    have first : memory.startAll (id :: rest) = (memory.start (.delete id)).startAll rest := rfl
    rw [first, later]
    simp [start, Nat.add_assoc, Nat.add_comm 1]

theorem log_startAll (memory : Memory) (ids : List String) :
    (memory.startAll ids).log = memory.log ++ ids.map Request.delete := by
  obtain ⟨peak, started⟩ := startAll_changes memory ids
  rw [started]

theorem log_completeAll (newId : Nat → String) (ids : List String) (memory : Memory) :
    (completeAll newId ids memory).2.log = memory.log := by
  unfold completeAll
  refine Backend.deleteInTurn_keeps (fun later : Memory => later.log = memory.log) ?_ ids rfl
  intro id later same
  exact (log_complete newId later (.delete id)).trans same

theorem Attempts.front (attempts : Attempts newId ids memory sent) : sent <+: ids := by
  induction attempts with
  | nothing => exact List.nil_prefix
  | failed _ => exact List.cons_prefix_cons.mpr ⟨rfl, List.nil_prefix⟩
  | deleted _ _ ih => exact List.cons_prefix_cons.mpr ⟨rfl, ih⟩

theorem attempts_deleteInTurn (newId : Nat → String) (ids : List String) (memory : Memory) :
    ∃ sent, Attempts newId ids memory sent ∧
      (Backend.deleteInTurn (call newId) ids memory).2.log = memory.log ++ sent.map .delete ∧
      ∀ answers, (Backend.deleteInTurn (call newId) ids memory).1 = .ok answers → sent = ids := by
  induction ids generalizing memory with
  | nil => exact ⟨[], .nothing, (List.append_nil _).symm, fun _ _ => rfl⟩
  | cons id rest ih =>
    have logged := log_call newId (.delete id) memory
    rcases Backend.deleteInTurn_cons (call newId) id rest memory with
      ⟨error, next, outcome, fails⟩ | ⟨answered, next, outcome, runs⟩
    · rw [outcome] at logged
      rw [fails]
      exact ⟨[id], .failed (congrArg Prod.fst outcome), logged, fun _ ends => nomatch ends⟩
    · obtain ⟨sent, attempts, later, whole⟩ := ih next
      rw [outcome] at logged
      rw [runs]
      refine ⟨id :: sent, .deleted (congrArg Prod.fst outcome) (outcome ▸ attempts), ?_, ?_⟩
      · change (Backend.deleteInTurn (call newId) rest next).2.log = _
        rw [later, logged]
        simp
      · intro answers ends
        cases result : (Backend.deleteInTurn (call newId) rest next).1 with
        | error error =>
          rw [result] at ends
          cases ends
        | ok others => rw [whole others result]

theorem sends_deleteAll (newId : Nat → String) (ids : List String) (memory : Memory) :
    ∃ sent, Sends newId ids memory sent ∧
      (deleteAll newId ids memory).2.log = memory.log ++ sent.map .delete ∧
      ∀ answers, (deleteAll newId ids memory).1 = .ok answers → sent = ids := by
  unfold deleteAll
  split
  · rename_i latent
    refine ⟨ids, .atOnce latent, ?_, fun _ _ => rfl⟩
    rw [log_completeAll, log_startAll]
  · rename_i prompt
    obtain ⟨sent, attempts, logged, whole⟩ := attempts_deleteInTurn newId ids memory
    exact ⟨sent, .inTurn (by simpa using prompt) attempts, logged, whole⟩

theorem Sends.front (sends : Sends newId ids memory sent) : sent <+: ids := by
  cases sends with
  | atOnce => exact List.prefix_rfl
  | inTurn _ attempts => exact attempts.front

end TableClient.Memory
