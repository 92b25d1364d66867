import TableClient.Proofs.Memory.Removal
import TableClient.Proofs.Service.FailFast
/-! The same removal with latency and without. With latency all its deletes start before the first
of them ends, and those behind a failure are given up; without, each ends before the next one
starts. The log tells the two apart, by the deletes that were given up, and nothing else does. -/
namespace TableClient.Memory

/-- Tables alike in all that requests are answered from. -/
structure SameTable (left right : Memory) : Prop where
  records : left.records = right.records
  failures : left.failures = right.failures
  answersOne : left.answersOne = right.answersOne
  created : left.created = right.created

variable {newId : Nat → String} {prompt latent : Memory} {ids : List String}

theorem failure?_agree (same : SameTable prompt latent) (kind : RequestKind) :
    latent.failure? kind = prompt.failure? kind := by
  rw [failure?, failure?, same.failures]

theorem shape_agree (same : SameTable prompt latent) : prompt.shape = latent.shape := by
  funext written
  cases written with
  | nil => rfl
  | cons record rest => rw [shape, shape, same.answersOne]

theorem answer_agree (same : SameTable prompt latent) (request : Request) :
    Agree SameTable (answer newId prompt request) (answer newId latent request) := by
  match request with
  | .query params =>
    refine ⟨?_, same⟩
    simp only [answer, listed, same.records]
  | .fetch id =>
    simp only [answer]
    rw [same.records]
    split
    · exact ⟨rfl, same⟩
    · exact ⟨rfl, same⟩
  | .delete id =>
    simp only [answer, delete]
    rw [same.records]
    split
    · exact ⟨rfl, same⟩
    · exact ⟨rfl, { same with records := rfl }⟩
  | .write .post payload =>
    simp only [answer, post]
    rw [same.records, same.created, shape_agree same]
    exact ⟨rfl, rfl, same.failures, same.answersOne, rfl⟩
  | .write .patch payload | .write .put payload =>
    simp only [answer, overwrite]
    rw [same.records, shape_agree same]
    exact ⟨rfl, rfl, same.failures, same.answersOne, same.created⟩

theorem complete_agree (same : SameTable prompt latent) (request : Request) :
    Agree SameTable (prompt.complete newId request) (latent.complete newId request) := by
  have ended : SameTable prompt.finish latent.finish := ⟨same.1, same.2, same.3, same.4⟩
  unfold complete
  dsimp only
  rw [failure?_agree ended]
  split
  · exact ⟨rfl, ended⟩
  · exact answer_agree ended request

theorem sameTable_startAll (memory : Memory) (ids : List String) :
    SameTable memory (memory.startAll ids) := by
  obtain ⟨peak, started⟩ := startAll_changes memory ids
  rw [started]
  exact ⟨rfl, rfl, rfl, rfl⟩

theorem SameTable.symm (same : SameTable prompt latent) : SameTable latent prompt :=
  ⟨same.1.symm, same.2.symm, same.3.symm, same.4.symm⟩

theorem SameTable.trans {third : Memory} (first : SameTable prompt latent)
    (second : SameTable latent third) : SameTable prompt third :=
  ⟨first.1.trans second.1, first.2.trans second.2, first.3.trans second.3, first.4.trans second.4⟩

/-- Deletes have the same outcome with latency and without. Those logged without are the first of
those logged with latency, and all of them if they succeed. -/
theorem deleteAll_agree (newId : Nat → String) (ids : List String) (same : SameTable prompt latent)
    (off : prompt.hasLatency = false) (on : latent.hasLatency = true)
    (logged : prompt.log = latent.log) :
    Agree SameTable (deleteAll newId ids prompt) (deleteAll newId ids latent) ∧
      (deleteAll newId ids prompt).2.log <+: (deleteAll newId ids latent).2.log ∧
      ∀ answers, (deleteAll newId ids prompt).1 = .ok answers →
        (deleteAll newId ids prompt).2.log = (deleteAll newId ids latent).2.log := by
  have turns : deleteAll newId ids prompt = Backend.deleteInTurn (call newId) ids prompt := by
    rw [deleteAll, if_neg (by simp [off])]
  have started : deleteAll newId ids latent = completeAll newId ids (latent.startAll ids) := by
    rw [deleteAll, if_pos on]
  obtain ⟨sent, attempts, behind, whole⟩ := attempts_deleteInTurn newId ids prompt
  have all : (deleteAll newId ids latent).2.log = prompt.log ++ ids.map .delete := by
    rw [started, log_completeAll, log_startAll, logged]
  refine ⟨?_, ?_, ?_⟩
  · rw [turns, started]
    apply Backend.deleteInTurn_agree _ ids (same.trans (sameTable_startAll latent ids))
    intro id state other related
    have begun : SameTable (state.start (.delete id)) other :=
      ⟨related.1, related.2, related.3, related.4⟩
    exact complete_agree begun (.delete id)
  · rw [all, turns, behind]
    exact (List.prefix_append_right_inj _).mpr (attempts.front.map _)
  · intro answers ends
    rw [turns] at ends
    rw [all, turns, behind, whole answers ends]

/-- Notes on a table without latency change nothing about it. -/
theorem noting_simulates_prompt (newId : Nat → String) :
    (Backend.immediate (Backend.noting (call newId))).Simulates (backend newId)
      fun noted memory => noted.1 = memory ∧ memory.hasLatency = false := by
  have calls : ∀ request noted memory, noted.1 = memory ∧ memory.hasLatency = false →
      Agree (fun noted memory => noted.1 = memory ∧ memory.hasLatency = false)
        (Backend.noting (call newId) request noted) (call newId request memory) := by
    rintro request noted _ ⟨rfl, off⟩
    exact ⟨rfl, rfl, (hasLatency_call newId request noted.1).trans off⟩
  constructor
  · exact calls
  · rintro ids noted memory ⟨same, off⟩
    rw [backend_deleteAll, deleteAll, if_neg (by simp [off])]
    exact Backend.deleteInTurn_agree (fun id => calls (.delete id)) ids ⟨same, off⟩

/-- Removals that list the same, with latency and without. The logs differ only where the listed
records can be deleted by their ids and one of the deletes fails. -/
theorem removeAll_agree (newId : Nat → String) {query : Query} {listing : Listing}
    (asked : Listing.ofQuery query = .ok listing) (same : SameTable prompt latent)
    (off : prompt.hasLatency = false) (on : latent.hasLatency = true)
    (logged : prompt.log = latent.log) :
    let first := Service.run (Service.removeAll (backend newId) query) prompt
    let second := Service.run (Service.removeAll (backend newId) query) latent
    Agree SameTable first second ∧ first.2.log <+: second.2.log ∧
      (first.2.log = second.2.log ∨ ∃ ids error, prompt.failure? .query = none ∧
        Service.listedIds ((matched prompt listing).map Record.flat) = .ok ids ∧
        first.1 = .error error) := by
  dsimp only
  have listed : SameTable (prompt.start (.query listing.selection.params)).finish
      (latent.start (.query listing.selection.params)).finish := ⟨same.1, same.2, same.3, same.4⟩
  have queried : (prompt.start (.query listing.selection.params)).finish.log =
      (latent.start (.query listing.selection.params)).finish.log :=
    congrArg (· ++ [Request.query listing.selection.params]) logged
  have matched_same : matched latent listing = matched prompt listing := by
    rw [matched, matched, Memory.listed, Memory.listed, same.records]
  rw [run_removeAll (backend_call newId) asked, run_removeAll (backend_call newId) asked,
    failure?_agree same, matched_same]
  cases prompt.failure? .query with
  | some error => exact ⟨⟨rfl, listed⟩, queried ▸ List.prefix_rfl, .inl queried⟩
  | none =>
    cases Service.listedIds ((matched prompt listing).map Record.flat) with
    | error error => exact ⟨⟨rfl, listed⟩, queried ▸ List.prefix_rfl, .inl queried⟩
    | ok ids =>
      obtain ⟨agree, front, whole⟩ := deleteAll_agree newId ids listed off on queried
      obtain ⟨result, next, other, outcome, outcome', related⟩ := agree.outcomes
      dsimp only [backend_deleteAll]
      rw [outcome, outcome'] at front whole ⊢
      cases result with
      | ok answers => exact ⟨⟨rfl, related⟩, front, .inl (whole answers rfl)⟩
      | error error => exact ⟨⟨rfl, related⟩, front, .inr ⟨ids, _, rfl, rfl, rfl⟩⟩

/-- A removal over any table, with latency and without: it has the same result or the same failure
and leaves the same table. What is logged without latency is a front of what is logged with it,
and the whole of it if none of the requests sent fails. -/
theorem removal_latency (newId : Nat → String) (memory : Memory) (query : Query) :
    let prompt := { memory with hasLatency := false }
    let latent := { memory with hasLatency := true }
    let first := Service.run (Service.remove (backend newId) none query) prompt
    let second := Service.run (Service.remove (backend newId) none query) latent
    let noted := Service.run
      (Service.remove (.immediate (Backend.noting (call newId))) none query) (prompt, [])
    first.1 = second.1 ∧ SameTable first.2 second.2 ∧ first.2.log <+: second.2.log ∧
      (noted.1, noted.2.1) = first ∧
      ((∀ exchange ∈ noted.2.2, exchange.Succeeds) → first.2.log = second.2.log) := by
  intro prompt latent first second noted
  have same : SameTable prompt latent := ⟨rfl, rfl, rfl, rfl⟩
  have plain : Agree _ noted first :=
    Service.matches_remove (noting_simulates_prompt newId) none query (prompt, []) prompt ⟨rfl, rfl⟩
  have notes : (noted.1, noted.2.1) = first := Prod.ext plain.1 plain.2.1
  have left : first = _ := Service.run_remove (backend newId) query prompt
  have right : second = _ := Service.run_remove (backend newId) query latent
  cases asked : Listing.ofQuery query with
  | error refusal =>
    rw [Service.run_removeAll_refused asked] at left right
    rw [left, right]
    exact ⟨rfl, same, List.prefix_rfl, notes.trans left, fun _ => rfl⟩
  | ok listing =>
    obtain ⟨⟨result, table⟩, front, whole⟩ := removeAll_agree newId asked same rfl rfl rfl
    rw [left, right]
    refine ⟨congrArg (Except.map _) result, table, front, notes.trans left, ?_⟩
    intro succeed
    rcases whole with logged | ⟨ids, error, answers, reads, fails⟩
    · exact logged
    · -- A removal that fails though no request does has listed a record that it cannot name.
      have failed : noted.1 = .error error := by
        rw [plain.1, left]
        exact congrArg (Except.map _) fails
      obtain ⟨records, answered, -, record, inside, unnamed⟩ :=
        Service.unnamed_of_succeeds asked (Prod.ext failed rfl) succeed
      rw [call_query, answers] at answered
      obtain rfl := Except.ok.inj answered
      exact absurd unnamed (Service.named_of_listedIds reads record inside)

end TableClient.Memory
