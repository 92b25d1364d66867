import TableClient.Proofs.Memory.Runs
import TableClient.Proofs.Service.Shapes
import TableClient.Proofs.Service.Simulation
/-! One table that answers writes with their first record alone, beside one that answers them with
all records. Each step of a run leaves the two the same in everything else, so what is shown of
them differs in the answers to patches only. -/
namespace TableClient.Memory

/-- The first table answers writes with one record, the second with all records, and there is no
other difference. -/
structure Shaped (single batch : Memory) : Prop where
  table : single = batch.respondOne true
  whole : batch.answersOne = false

variable {newId : Nat → String} {single batch memory : Memory}

theorem shape_respondOne (whole : memory.answersOne = false) (written : List Record) :
    (memory.respondOne true).shape written = (memory.shape written).firstAlone := by
  cases written with
  | nil => rfl
  | cons record rest => simp [shape, respondOne, whole, OneOrMany.firstAlone]

theorem answer_shaped (shaped : Shaped single batch) (request : Request) :
    Agree Shaped (answer newId single request)
      (Backend.firstAlone (fun request memory => answer newId memory request) request batch) := by
  obtain ⟨rfl, whole⟩ := shaped
  match request with
  | .query params => exact ⟨rfl, rfl, whole⟩
  | .fetch id =>
    simp only [Backend.firstAlone, answer, respondOne]
    split
    · exact ⟨rfl, rfl, whole⟩
    · exact ⟨rfl, rfl, whole⟩
  | .delete id =>
    by_cases absent :
        (batch.records.filter fun record => record.id ≠ some id).length = batch.records.length
    · simp only [Backend.firstAlone, answer, delete, respondOne, absent, if_true]
      exact ⟨rfl, rfl, whole⟩
    · simp only [Backend.firstAlone, answer, delete, respondOne, absent, if_false]
      exact ⟨rfl, rfl, whole⟩
  | .write .post payload =>
    have same := shape_respondOne whole (newRecords newId batch.created payload)
    exact ⟨congrArg Except.ok same, rfl, whole⟩
  | .write .patch payload | .write .put payload =>
    simp only [Backend.firstAlone, answer, overwrite]
    refine ⟨?_, rfl, whole⟩
    dsimp only [respondOne]
    cases (writeAll _ batch.records payload).1 with
    | error error => rfl
    | ok written => exact congrArg Except.ok (shape_respondOne whole written)

theorem complete_shaped (shaped : Shaped single batch) (request : Request) :
    Agree Shaped (single.complete newId request)
      (Backend.firstAlone (fun request memory => complete newId memory request) request batch) := by
  have ended : Shaped single.finish batch.finish := by
    obtain ⟨rfl, whole⟩ := shaped
    exact ⟨rfl, whole⟩
  have alike : single.finish.failure? = batch.finish.failure? := by
    rw [ended.table]
    rfl
  cases request with
  | query _ | fetch _ | delete _ | write _ _ =>
    dsimp only [Backend.firstAlone, complete]
    rw [alike]
    split
    · exact ⟨rfl, ended⟩
    · exact answer_shaped ended _

theorem shaped_startAll (shaped : Shaped single batch) (ids : List String) :
    Shaped (single.startAll ids) (batch.startAll ids) := by
  induction ids generalizing single batch with
  | nil => exact shaped
  | cons id rest ih =>
    obtain ⟨rfl, whole⟩ := shaped
    exact ih ⟨rfl, whole⟩

/-- Of two such tables the first answers as the second would with first records alone. -/
theorem simulates_answeringFirst (newId : Nat → String) :
    (backend newId).Simulates (backend newId).answeringFirst Shaped := by
  have calls : ∀ request single batch, Shaped single batch →
      Agree Shaped (call newId request single) (Backend.firstAlone (call newId) request batch) := by
    rintro request single batch ⟨rfl, whole⟩
    have started : Shaped ((batch.respondOne true).start request) (batch.start request) :=
      ⟨rfl, whole⟩
    cases request with
    | query _ | fetch _ | delete _ | write _ _ => exact complete_shaped started _
  constructor
  · exact calls
  · intro ids single batch shaped
    change Agree Shaped (deleteAll newId ids single) (deleteAll newId ids batch)
    have latency : single.hasLatency = batch.hasLatency := by
      rw [shaped.table]
      rfl
    unfold deleteAll
    rw [latency]
    split
    · apply Backend.deleteInTurn_agree _ ids (shaped_startAll shaped ids)
      intro id single batch alike
      exact complete_shaped alike (.delete id)
    · apply Backend.deleteInTurn_agree _ ids shaped
      intro id single batch alike
      exact calls (.delete id) single batch alike

/-- A call that is no patch has the same outcome in both tables. -/
theorem call_shaped (shaped : Shaped single batch) {call : Call}
    (whole : ∀ id data, call ≠ .patch id data) :
    Agree Shaped (Service.run (call.perform (backend newId)) single)
      (Service.run (call.perform (backend newId)) batch) := by
  have agree := call.matches_perform (simulates_answeringFirst newId) single batch shaped
  rwa [Call.perform_answeringFirst (backend newId) whole] at agree

/-- A patch shows what is written, as its first record alone in the one table. -/
theorem patch_shaped (shaped : Shaped single batch) (id : Option String) (data : OneOrMany Data) :
    let ended := Service.run ((Call.patch id data).perform (backend newId)) batch
    Agree Shaped (Service.run ((Call.patch id data).perform (backend newId)) single)
      (ended.1.map OneOrMany.firstAlone, ended.2) := by
  have agree :=
    (Call.patch id data).matches_perform (simulates_answeringFirst newId) single batch shaped
  rw [Call.perform, Call.perform, Service.patch_answeringFirst, Service.run_map] at agree
  exact agree

theorem next_shaped (shaped : Shaped single batch) {step : Step}
    (fixed : ∀ answersOne, step ≠ .respondOne answersOne) :
    Shaped (step.next newId single) (step.next newId batch) := by
  cases step with
  | call call =>
    cases call with
    | patch id data => exact (patch_shaped shaped id data).2
    | find _ | get _ | create _ | update _ _ | remove _ _ =>
      exact (call_shaped shaped (by nofun)).2
  | respondOne answersOne => exact absurd rfl (fixed answersOne)
  | fail _ _ | clearFailures =>
    obtain ⟨rfl, whole⟩ := shaped
    exact ⟨rfl, whole⟩

theorem run_shaped (shaped : Shaped single batch) {steps : List Step}
    (fixed : ∀ answersOne, Step.respondOne answersOne ∉ steps) :
    Shaped (run newId single steps) (run newId batch steps) := by
  induction steps generalizing single batch with
  | nil => exact shaped
  | cons step rest ih =>
    have first : Shaped (step.next newId single) (step.next newId batch) :=
      next_shaped shaped fun answersOne same => fixed answersOne (same ▸ List.mem_cons_self)
    exact ih first fun answersOne later => fixed answersOne (List.mem_cons_of_mem _ later)

/-- How writes are answered is seen in patches only. Take the same steps from the same table, once
with every write answered with its first record alone and once with every write answered with all
of them. Behind any number of steps the tables differ in nothing else, so the same requests were
made. The next call then has the same result in both or fails with the same error, but that where
one patch shows a batch of records the other shows its first record alone. -/
theorem run_shape_blind (newId : Nat → String) (memory : Memory) {steps : List Step}
    (fixed : ∀ answersOne, Step.respondOne answersOne ∉ steps) :
    let single := run newId (memory.respondOne true) steps
    let batch := run newId (memory.respondOne false) steps
    single = { batch with answersOne := true } ∧
    (∀ call : Call, (∀ id data, call ≠ .patch id data) →
      (Service.run (call.perform (backend newId)) single).1 =
        (Service.run (call.perform (backend newId)) batch).1) ∧
    ∀ id data, (Service.run ((Call.patch id data).perform (backend newId)) single).1 =
      (Service.run ((Call.patch id data).perform (backend newId)) batch).1.map
        OneOrMany.firstAlone := by
  intro single batch
  have start : Shaped (memory.respondOne true) (memory.respondOne false) := ⟨rfl, rfl⟩
  have shaped : Shaped single batch := run_shaped start fixed
  refine ⟨shaped.table, ?_, ?_⟩
  · intro call whole
    exact (call_shaped shaped whole).1
  · intro id data
    exact (patch_shaped shaped id data).1

theorem run_shape_blind_pair :
    let newId : Nat → String := fun count => "rec" ++ Text.decimal count
    let memory := ofRecords [⟨some "a", []⟩, ⟨some "b", [("n", .null)]⟩] true
    let steps : List Step := [.call (.create (.one ⟨[("n", .null)], by decide⟩)),
      .fail .delete (.status 503 "down"), .call (.remove none []), .clearFailures]
    let data : OneOrMany Data := .many [⟨[("id", .string "rec0")], by decide⟩,
      ⟨[("id", .string "b"), ("m", .null)], by decide⟩]
    let single := run newId (memory.respondOne true) steps
    let batch := run newId (memory.respondOne false) steps
    (∀ answersOne, Step.respondOne answersOne ∉ steps) ∧ single.records = batch.records ∧
      (Service.run ((Call.patch none data).perform (backend newId)) batch).1 =
        .ok (.many [[("id", .string "rec0"), ("n", .null)],
          [("id", .string "b"), ("n", .null), ("m", .null)]]) ∧
      (Service.run ((Call.patch none data).perform (backend newId)) single).1 =
        .ok (.one [("id", .string "rec0"), ("n", .null)]) := by
  intro newId memory steps data single batch
  have fixed : ∀ answersOne, Step.respondOne answersOne ∉ steps := by simp [steps]
  have table : single = { batch with answersOne := true } := (run_shape_blind newId memory fixed).1
  have patched := (run_shape_blind newId memory fixed).2.2 none data
  have whole : (Service.run ((Call.patch none data).perform (backend newId)) batch).1 =
      .ok (.many [[("id", .string "rec0"), ("n", .null)],
        [("id", .string "b"), ("n", .null), ("m", .null)]]) := by
    unfold batch data steps memory newId
    rfl
  refine ⟨fixed, ?_, whole, patched.trans (congrArg _ whole)⟩
  rw [table]

end TableClient.Memory
