import TableClient.Proofs.Memory.Table
/-! Runs of a table: calls of the service one after the other, whatever comes of them, with
failures set and taken back between them. What each step keeps, a run keeps. -/
namespace TableClient.Memory

inductive Step
  | call (call : Call)
  | fail (kind : RequestKind) (error : BackendError)
  | clearFailures
  | respondOne (answersOne : Bool)

def Step.next (newId : Nat → String) (memory : Memory) : Step → Memory
  | .call made => (Service.run (made.perform (backend newId)) memory).2
  | .fail kind error => memory.fail kind error
  | .clearFailures => memory.clearFailures
  | .respondOne answersOne => memory.respondOne answersOne

def run (newId : Nat → String) (memory : Memory) (steps : List Step) : Memory :=
  steps.foldl (Step.next newId) memory

def AcceptsCall (good : String → Fields → Prop) (call : Call) : Prop :=
  ∀ request, call.Sends request → Accepts good request

def AcceptsStep (good : String → Fields → Prop) (step : Step) : Prop :=
  ∀ call, step = .call call → AcceptsCall good call

/-- The record that a call shows is one of the table. A batch of patches may write a record twice
and show what it was in between, so of a patch only the id is. -/
def Origin (good : String → Fields → Prop) : Call → Record → List Record → Prop
  | .patch name data => Targeted good (patchRecords name (data.map Data.members))
  | _ => Stored good

variable {newId : Nat → String} {good : String → Fields → Prop} {memory : Memory}
  {records : List Record} {record : Record} {call : Call}

theorem sound_of_origin (origin : Origin good call record records) : Sound good record := by
  cases call with
  | patch | _ => exact origin.1

theorem id_mem_of_origin (origin : Origin good call record records) :
    record.id ∈ records.map Record.id := by
  cases call with
  | patch => exact origin.2.1
  | _ => exact List.mem_map_of_mem origin.2

theorem mem_of_origin (origin : Origin good call record records)
    (whole : ∀ name data, call ≠ .patch name data) : record ∈ records := by
  cases call with
  | patch name data => exact absurd rfl (whole name data)
  | _ => exact origin.2

theorem keeps_call (accepts : AcceptsCall good call) {request : Request}
    (sends : call.Sends request) :
    (backend newId).Keeps (AllSound good)
      (fun record memory => Origin good call record memory.records) request := by
  have accepted := accepts request sends
  cases sends with
  | find => exact keeps_query _
  | get => exact keeps_fetch _
  | create => exact keeps_post accepted
  | patch => exact keeps_patch accepted
  | update => exact keeps_put accepted
  | removeOne => exact keeps_delete _
  | removeAll => exact keeps_query _

/-- A call keeps a table sound, and what it shows is sound. -/
theorem triple_call (newId : Nat → String) (call : Call) (accepts : AcceptsCall good call) :
    Service.Triple (AllSound good) (call.perform (backend newId))
      (fun answer memory => AllSound good memory ∧
        Service.Shows (fun record memory => Origin good call record memory.records)
          (call.shown answer) memory)
      (AllSound good) :=
  call.triple_perform (fun _ sends => keeps_call accepts sends) (allSound_deleteAll newId)

/-- The records behind what a call shows. -/
theorem origin_of_ok (newId : Nat → String) {answer : call.Answer} {next : Memory}
    (accepts : AcceptsCall good call) (sound : AllSound good memory)
    (ends : Service.run (call.perform (backend newId)) memory = (.ok answer, next)) :
    ∀ flat ∈ call.shown answer, ∃ record, flat = record.flat ∧
      Origin good call record next.records := by
  have holds := triple_call newId call accepts
  exact (holds.ends memory sound answer next ends).2

theorem allSound_next (newId : Nat → String) {step : Step} (accepts : AcceptsStep good step)
    (sound : AllSound good memory) : AllSound good (step.next newId memory) := by
  cases step with
  | call call =>
    have holds := triple_call newId call (accepts call rfl)
    rw [Step.next]
    cases outcome : Service.run (call.perform (backend newId)) memory with
    | mk result next =>
      cases result with
      | ok answer => exact (holds.ends memory sound answer next outcome).1
      | error error => exact holds.fails memory sound error next outcome
  | fail _ _ => exact sound
  | clearFailures => exact sound
  | respondOne _ => exact sound

theorem allSound_run (newId : Nat → String) {steps : List Step}
    (accepts : ∀ step ∈ steps, AcceptsStep good step) (sound : AllSound good memory) :
    AllSound good (run newId memory steps) := by
  induction steps generalizing memory with
  | nil => exact sound
  | cons step rest ih =>
    have first := allSound_next newId (accepts step List.mem_cons_self) sound
    apply ih
    · intro other member
      exact accepts other (List.mem_cons_of_mem _ member)
    · exact first

end TableClient.Memory
