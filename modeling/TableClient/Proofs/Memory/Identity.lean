import Mathlib.Data.List.Nodup
import TableClient.Proofs.Memory.InFlight
import TableClient.Proofs.Query.Counts
/-! Which records a table holds over a run of requests. Each has an id of its own at every time: a
post brings new ids, a write changes records where they stand, and a delete takes out the one
record that it names. A request that meets a failure is logged like any other and leaves the
table as it is; all else it may change is the record of how many were ever in flight. -/
namespace TableClient.Memory

/-- Every record has an id that no other has, and the ids of records to come are not in use. -/
structure Keyed (newId : Nat → String) (memory : Memory) : Prop where
  named : ∀ record ∈ memory.records, ∃ id, record.id = some id
  distinct : (memory.records.map Record.id).Nodup
  unused : ∀ count, memory.created ≤ count → some (newId count) ∉ memory.records.map Record.id

inductive Event
  | request (request : Request)
  | fail (kind : RequestKind) (error : BackendError)
  | clearFailures
  | respondOne (answersOne : Bool)

def Event.next (newId : Nat → String) (memory : Memory) : Event → Memory
  | .request sent => (call newId sent memory).2
  | .fail kind error => memory.fail kind error
  | .clearFailures => memory.clearFailures
  | .respondOne answersOne => memory.respondOne answersOne

def after (newId : Nat → String) (memory : Memory) (events : List Event) : Memory :=
  events.foldl (Event.next newId) memory

def Targets (source stored : Record) : Prop := ∃ id, target? source = .ok id ∧ stored.id = some id

/-- The records keep their ids and places, and those that nothing sent is meant for are kept. -/
structure Rewritten (payload before behind : List Record) : Prop where
  ids : behind.map Record.id = before.map Record.id
  untargeted : ∀ (index : Nat) stored, before[index]? = some stored →
    (∀ source ∈ payload, ¬ Targets source stored) → behind[index]? = some stored

/-- What a request does to the records, by what it answers. -/
def Effect (before behind : List Record) :
    (request : Request) → Except BackendError request.Answer → Prop
  | .query _, _ | .fetch _, _ => behind = before
  | .delete id, .ok _ => ∃ front record back, before = front ++ record :: back ∧
      record.id = some id ∧ (∀ other ∈ front ++ back, other.id ≠ some id) ∧ behind = front ++ back
  | .write .post payload, .ok _ => ∃ added, behind = before ++ added ∧
      added.map Record.fields = payload.map Record.fields
  | .delete _, .error _ | .write .post _, .error _ => behind = before
  | .write .patch payload, _ | .write .put payload, _ => Rewritten payload before behind

variable {newId : Nat → String} {memory next : Memory} {records payload : List Record}
  {replaces : Bool} {request : Request} {events : List Event}

theorem Rewritten.refl (payload records : List Record) : Rewritten payload records records :=
  ⟨rfl, fun _ _ stored _ => stored⟩

theorem Rewritten.trans {middle behind : List Record}
    (first : Rewritten payload records middle) (second : Rewritten payload middle behind) :
    Rewritten payload records behind := by
  constructor
  · exact second.ids.trans first.ids
  · intro index stored found untargeted
    exact second.untargeted index stored (first.untargeted index stored found untargeted) untargeted

theorem Rewritten.mono {others behind : List Record} (written : Rewritten payload records behind)
    (fewer : ∀ source ∈ payload, source ∈ others) : Rewritten others records behind := by
  constructor
  · exact written.ids
  · intro index stored found untargeted
    exact written.untargeted index stored found fun source sent => untargeted source (fewer source sent)

/-- A change is made at the place of a record that the one sent is meant for. -/
theorem rewritten_change {source written : Record} {id : String} {write : Fields → Fields}
    {behind : List Record} (target : target? source = .ok id)
    (changes : change write id records = some (written, behind)) :
    Rewritten [source] records behind := by
  constructor
  · exact ids_change changes
  · intro index stored found untargeted
    obtain ⟨front, changed, back, rfl, named, -, rfl, rfl⟩ := change_ok changes
    have elsewhere : index ≠ front.length := by
      rintro rfl
      rw [List.getElem?_append_right (Nat.le_refl _), Nat.sub_self] at found
      obtain rfl := Option.some.inj found
      exact untargeted source List.mem_cons_self ⟨id, target, named⟩
    rcases Nat.lt_or_gt_of_ne elsewhere with before | behind
    · rw [List.getElem?_append_left before] at found ⊢
      exact found
    · rw [List.getElem?_append_right (Nat.le_of_lt behind)] at found ⊢
      obtain ⟨place, same⟩ := Nat.exists_eq_succ_of_ne_zero (Nat.sub_ne_zero_of_lt behind)
      rw [same] at found ⊢
      exact found

/-- Writes rewrite the table, whether or not one of them fails. -/
theorem rewritten_writeAll (replaces : Bool) (records payload : List Record) :
    Rewritten payload records (writeAll replaces records payload).2 := by
  induction payload generalizing records with
  | nil => exact Rewritten.refl [] records
  | cons source rest ih =>
    rcases writeAll_cons replaces records source rest with
      ⟨_, _, fails⟩ | ⟨id, written, next, target, changes, runs⟩
    · rw [fails]
      exact Rewritten.refl _ records
    · have first : Rewritten (source :: rest) records next := by
        apply (rewritten_change target changes).mono
        intro other sent
        exact List.mem_singleton.mp sent ▸ List.mem_cons_self
      have later : Rewritten (source :: rest) next (writeAll replaces next rest).2 :=
        (ih next).mono fun other sent => List.mem_cons_of_mem _ sent
      rw [runs]
      exact first.trans later

theorem fields_newRecords (newId : Nat → String) (count : Nat) (payload : List Record) :
    (newRecords newId count payload).map Record.fields = payload.map Record.fields := by
  induction payload generalizing count with
  | nil => rfl
  | cons source rest ih => exact congrArg (source.fields :: ·) (ih (count + 1))

theorem ids_newRecords (newId : Nat → String) (count : Nat) (payload : List Record) :
    (newRecords newId count payload).map Record.id =
      (List.range' count payload.length).map fun index => some (newId index) := by
  induction payload generalizing count with
  | nil => rfl
  | cons source rest ih => exact congrArg (some (newId count) :: ·) (ih (count + 1))

/-- A delete succeeds only if some record has the id. -/
theorem delete_present {id : String} {told : Json} (deletes : memory.delete id = (.ok told, next)) :
    ∃ record ∈ memory.records, record.id = some id := by
  rw [delete_eq] at deletes
  split at deletes
  · rename_i held
    exact List.mem_map.mp held
  · cases deletes

theorem effect_delete (keyed : Keyed newId memory) {id : String} :
    Effect memory.records (memory.delete id).2.records (.delete id) (memory.delete id).1 := by
  cases outcome : memory.delete id with
  | mk result next =>
    cases result with
    | error error =>
      unfold delete at outcome
      dsimp only at outcome
      split at outcome
      · obtain ⟨-, rfl⟩ := Prod.mk.inj outcome
        rfl
      · cases outcome
    | ok told =>
      obtain ⟨-, left, -⟩ := delete_ok outcome
      obtain ⟨record, member, named⟩ := delete_present outcome
      obtain ⟨front, back, whole⟩ := List.append_of_mem member
      have distinct := keyed.distinct
      rw [whole] at distinct left
      refine ⟨front, record, back, whole, named, ?_, ?_⟩
      · rw [List.map_append, List.map_cons, List.nodup_middle, ← List.map_append] at distinct
        intro other inside same
        apply (List.nodup_cons.mp distinct).1
        rw [named, ← same]
        exact List.mem_map_of_mem inside
      · rw [List.append_cons] at distinct left
        rw [left]
        exact without_between distinct (by simp [named])

/-- A request that changes no record has an effect that its failure may have. -/
theorem effect_error (records : List Record) (request : Request) (error : BackendError) :
    Effect records records request (.error error) := by
  match request with
  | .query _ | .fetch _ | .delete _ | .write .post _ => rfl
  | .write .patch payload | .write .put payload => exact Rewritten.refl payload records

theorem effect_answer (keyed : Keyed newId memory) (request : Request) :
    Effect memory.records (answer newId memory request).2.records request
      (answer newId memory request).1 := by
  match request with
  | .query _ => rfl
  | .fetch id =>
    simp only [answer]
    split
    · rfl
    · rfl
  | .delete id => exact effect_delete keyed
  | .write .post payload => exact ⟨_, rfl, fields_newRecords newId memory.created payload⟩
  | .write .patch payload => exact rewritten_writeAll false memory.records payload
  | .write .put payload => exact rewritten_writeAll true memory.records payload

theorem effect_call (keyed : Keyed newId memory) (request : Request) :
    Effect memory.records (call newId request memory).2.records request
      (call newId request memory).1 := by
  have started : Keyed newId (memory.start request).finish := ⟨keyed.1, keyed.2, keyed.3⟩
  rcases call_cases newId request memory with ⟨error, fails⟩ | runs
  · rw [fails]
    exact effect_error memory.records request error
  · rw [runs]
    exact effect_answer started request

/-- A table with some of these ids, and no other, is keyed too. -/
theorem Keyed.of_sublist (keyed : Keyed newId memory)
    (fewer : (next.records.map Record.id).Sublist (memory.records.map Record.id))
    (same : next.created = memory.created) : Keyed newId next := by
  constructor
  · intro record member
    obtain ⟨other, inside, shared⟩ :=
      List.mem_map.mp (fewer.subset (List.mem_map_of_mem member))
    rw [← shared]
    exact keyed.named other inside
  · exact keyed.distinct.sublist fewer
  · intro count ahead inside
    exact keyed.unused count (same ▸ ahead) (fewer.subset inside)

/-- New records get ids that are not in use, each its own. -/
theorem Keyed.post (keyed : Keyed newId memory) (injective : Function.Injective newId)
    (payload : List Record) : Keyed newId (memory.post newId payload).2 := by
  have ids : (memory.records ++ newRecords newId memory.created payload).map Record.id =
      memory.records.map Record.id ++
        (List.range' memory.created payload.length).map fun count => some (newId count) := by
    rw [List.map_append, ids_newRecords]
  constructor
  · intro record member
    rcases List.mem_append.mp member with old | new
    · exact keyed.named record old
    · obtain ⟨source, -, id, rfl⟩ := mem_newRecords new
      exact ⟨id, rfl⟩
  · change ((memory.records ++ newRecords newId memory.created payload).map Record.id).Nodup
    rw [ids, List.nodup_append]
    refine ⟨keyed.distinct, ?_, ?_⟩
    · apply List.Nodup.map _ List.nodup_range'
      intro first second same
      exact injective (Option.some.inj same)
    · rintro id old _ new rfl
      obtain ⟨count, inside, rfl⟩ := List.mem_map.mp new
      exact keyed.unused count (List.mem_range'_1.mp inside).1 old
  · intro count ahead inside
    change some (newId count) ∈
      (memory.records ++ newRecords newId memory.created payload).map Record.id at inside
    rw [ids] at inside
    rcases List.mem_append.mp inside with old | new
    · exact keyed.unused count (Nat.le_trans (Nat.le_add_right _ _) ahead) old
    · obtain ⟨other, before, same⟩ := List.mem_map.mp new
      obtain rfl := injective (Option.some.inj same)
      exact absurd (List.mem_range'_1.mp before).2 (Nat.not_lt.mpr ahead)

theorem keyed_answer (keyed : Keyed newId memory) (injective : Function.Injective newId)
    (request : Request) : Keyed newId (answer newId memory request).2 := by
  match request with
  | .query _ => exact keyed
  | .fetch id =>
    simp only [answer]
    split
    · exact keyed
    · exact keyed
  | .delete id =>
    simp only [answer, delete]
    split
    · exact keyed
    · exact keyed.of_sublist (List.filter_sublist.map _) rfl
  | .write .post payload => exact keyed.post injective payload
  | .write .patch payload =>
    exact keyed.of_sublist (ids_writeAll false memory.records payload ▸ List.Sublist.refl _) rfl
  | .write .put payload =>
    exact keyed.of_sublist (ids_writeAll true memory.records payload ▸ List.Sublist.refl _) rfl

theorem keyed_call (keyed : Keyed newId memory) (injective : Function.Injective newId)
    (request : Request) : Keyed newId (call newId request memory).2 := by
  have started : Keyed newId (memory.start request).finish := ⟨keyed.1, keyed.2, keyed.3⟩
  rcases call_cases newId request memory with ⟨error, fails⟩ | runs
  · rw [fails]
    exact started
  · rw [runs]
    exact keyed_answer started injective request

theorem keyed_next (keyed : Keyed newId memory) (injective : Function.Injective newId)
    (event : Event) : Keyed newId (event.next newId memory) := by
  cases event with
  | request sent => exact keyed_call keyed injective sent
  | fail _ _ | clearFailures | respondOne _ => exact ⟨keyed.1, keyed.2, keyed.3⟩

/-- Ids stay distinct over every run. -/
theorem keyed_after (keyed : Keyed newId memory) (injective : Function.Injective newId)
    (events : List Event) : Keyed newId (after newId memory events) := by
  induction events generalizing memory with
  | nil => exact keyed
  | cons event rest ih => exact ih (keyed_next keyed injective event)

/-- A failure set for a request is its answer, and the request leaves nothing else behind than an
entry in the log and, if so many were never in flight, a new maximum. -/
theorem call_failing {error : BackendError} (fails : memory.failure? request.kind = some error) :
    call newId request memory = (.error error, { memory with
      log := memory.log ++ [request]
      maxInFlight := max memory.maxInFlight (memory.inFlight + 1) }) := by
  have started : (memory.start request).finish.failure? request.kind = some error := fails
  unfold call complete
  dsimp only
  rw [started]
  rfl

/-- Requests made one after the other leave none in flight, and the first of them counts as many
as there are ever in flight. -/
theorem inFlight_after (newId : Nat → String) (memory : Memory) (events : List Event) :
    (after newId memory events).inFlight = memory.inFlight ∧
      memory.maxInFlight ≤ (after newId memory events).maxInFlight ∧
      ∀ request, .request request ∈ events →
        memory.inFlight < (after newId memory events).maxInFlight := by
  induction events generalizing memory with
  | nil => exact ⟨rfl, Nat.le_refl _, fun _ member => absurd member List.not_mem_nil⟩
  | cons event rest ih =>
    obtain ⟨flying, least, peak⟩ := ih (event.next newId memory)
    cases event with
    | request sent =>
      obtain ⟨same, raised⟩ := inFlight_call newId sent memory
      change _ = (call newId sent memory).2.inFlight at flying
      change (call newId sent memory).2.maxInFlight ≤ _ at least
      rw [raised] at least
      refine ⟨flying.trans same, Nat.le_trans (Nat.le_max_left _ _) least, fun _ _ => ?_⟩
      exact Nat.le_trans (Nat.le_max_right _ _) least
    | fail _ _ | clearFailures | respondOne _ =>
      refine ⟨flying, least, fun other member => peak other ?_⟩
      simpa using member

/-- A table whose records have ids of their own, over any run of requests, with failures set and
taken back between them. Ids stay distinct, every request has the effect on the records that is
due to it, and it is logged once. One that meets a failure leaves all else as it was, unless it
is the first request of the run: then the maximum in flight counts it. -/
theorem identity_kept (injective : Function.Injective newId) (keyed : Keyed newId memory)
    (events : List Event) (request : Request) :
    let reached := after newId memory events
    let ended := call newId request reached
    Keyed newId reached ∧
      Effect reached.records ended.2.records request ended.1 ∧
      ended.2.log = reached.log ++ [request] ∧
      ∀ error, reached.failure? request.kind = some error →
        ended = (.error error, { reached with
          log := reached.log ++ [request]
          maxInFlight := max reached.maxInFlight (reached.inFlight + 1) }) ∧
        ∀ earlier, .request earlier ∈ events →
          ended = (.error error, { reached with log := reached.log ++ [request] }) := by
  intro reached ended
  have held : Keyed newId reached := keyed_after keyed injective events
  refine ⟨held, effect_call held request, log_call newId request reached, ?_⟩
  intro error fails
  have failed : ended = _ := call_failing fails
  refine ⟨failed, fun earlier member => ?_⟩
  obtain ⟨flying, -, peak⟩ := inFlight_after newId memory events
  have counted : reached.inFlight + 1 ≤ reached.maxInFlight := by
    change (after newId memory events).inFlight + 1 ≤ _
    rw [flying]
    exact peak earlier member
  rw [failed, Nat.max_eq_left counted]

theorem identity_kept_halfway :
    let newId : Nat → String := fun count => "rec" ++ Text.decimal count
    let memory := ofRecords [⟨some "a", [("n", .null)]⟩, ⟨some "b", []⟩] true
    let events : List Event := [.fail .fetch (.status 503 "down"),
      .request (.write .post [⟨none, [("id", .string "a")]⟩, ⟨some "a", []⟩]),
      .request (.write .patch [⟨some "b", [("m", .null)]⟩, ⟨none, []⟩, ⟨some "a", [("m", .null)]⟩])]
    let reached := after newId memory events
    let deleted := call newId (.delete "rec0") reached
    Function.Injective newId ∧ Keyed newId memory ∧
      reached.records.map Record.id = [some "a", some "b", some "rec0", some "rec1"] ∧
      (reached.records.map Record.id).Nodup ∧
      deleted.2.records.map Record.id = [some "a", some "b", some "rec1"] ∧
      Effect reached.records deleted.2.records (.delete "rec0") deleted.1 ∧
      call newId (.fetch "a") reached = (.error (.status 503 "down"),
        { reached with log := reached.log ++ [.fetch "a"] }) := by
  intro newId memory events reached deleted
  have injective : Function.Injective newId := by
    intro first second same
    exact Text.decimal_injective ((String.append_right_inj _).mp same)
  have keyed : Keyed newId memory := by
    constructor
    · intro record member
      rcases List.mem_cons.mp member with rfl | member
      · exact ⟨"a", rfl⟩
      · exact ⟨"b", List.mem_singleton.mp member ▸ rfl⟩
    · decide
    · intro count _ member
      have long : 3 ≤ (newId count).length := by
        rw [String.length_append]
        exact Nat.le_add_right _ _
      have short : newId count = "a" ∨ newId count = "b" := by
        simpa [memory, ofRecords] using member
      rcases short with same | same
      · exact absurd (same ▸ long) (by decide)
      · exact absurd (same ▸ long) (by decide)
  have ids : reached.records.map Record.id = [some "a", some "b", some "rec0", some "rec1"] := by
    decide
  have left : deleted.2.records.map Record.id = [some "a", some "b", some "rec1"] := by decide
  obtain ⟨held, effect, -, -⟩ := identity_kept injective keyed events (.delete "rec0")
  obtain ⟨-, -, -, failing⟩ := identity_kept injective keyed events (.fetch "a")
  refine ⟨injective, keyed, ids, held.distinct, left, effect, ?_⟩
  exact (failing _ rfl).2 _ (List.mem_cons_of_mem _ List.mem_cons_self)

/-- A first request that meets a failure changes more than the log. -/
theorem failure_raises_maximum :
    let newId : Nat → String := fun count => "rec" ++ Text.decimal count
    let memory := after newId (ofRecords [⟨some "a", []⟩] false) [.fail .fetch (.status 503 "down")]
    let ended := call newId (.fetch "a") memory
    ended.1 = .error (.status 503 "down") ∧ ended.2.log = memory.log ++ [.fetch "a"] ∧
      memory.maxInFlight = 0 ∧ ended.2.maxInFlight = 1 ∧
      ended.2 ≠ { memory with log := memory.log ++ [.fetch "a"] } := by
  refine ⟨rfl, rfl, rfl, rfl, ?_⟩
  intro same
  exact absurd (congrArg Memory.maxInFlight same) (by decide)

end TableClient.Memory
