import TableClient.Proofs.Memory.InFlight
import TableClient.Proofs.Memory.Latency
/-! How many requests a table counts as in flight while no call is under way. A request that ends is
in flight no more, and one that is given up stays counted. The only requests ever given up are the
deletes of one removal behind the first of them that fails, on a table with latency, where all of
them have started before. What is left over from earlier removals is counted in every later maximum,
on top of what the call itself has in flight. -/
namespace TableClient.Memory

/-- Of deletes that end in their order, those behind the first that fails. Every delete fails if a
failure is set, and else one of an id that no record has, or none has any more. -/
def unended (failure : Option BackendError) : List Record → List String → List String
  | _, [] => []
  | records, name :: rest =>
    if failure = none ∧ ∃ record ∈ records, record.id = some name then
      unended failure (without [name] records) rest
    else rest

theorem length_unended_le (failure : Option BackendError) (records : List Record)
    (names : List String) : (unended failure records names).length ≤ names.length := by
  induction names generalizing records with
  | nil => exact Nat.le_refl _
  | cons name rest ih =>
    rw [unended]
    split
    · exact Nat.le_succ_of_le (ih _)
    · exact Nat.le_succ _

def deletedAtOnce (memory : Memory) : Call → List String
  | .remove id query =>
    match nonEmptyId? id, Listing.ofQuery query, memory.failure? .query with
    | none, .ok listing, none =>
      (Service.listedIds ((matched memory listing).map Record.flat)).toOption.getD []
    | _, _, _ => []
  | _ => []

def givenUp (memory : Memory) (call : Call) : List String :=
  if memory.hasLatency then
    unended (memory.failure? .delete) memory.records (memory.deletedAtOnce call)
  else []

def uncounted (memory : Memory) : Memory := { memory with inFlight := 0, maxInFlight := 0 }

/-- The most requests that a call has in flight together, all others left out. -/
def ownPeak (newId : Nat → String) (memory : Memory) (call : Call) : Nat :=
  ((Step.call call).next newId memory.uncounted).maxInFlight

variable {newId : Nat → String} {memory busy alone : Memory} {left peak : Nat} {ids : List String}
  {made : Call}

theorem inFlight_startAll (memory : Memory) (ids : List String) :
    (memory.startAll ids).inFlight = memory.inFlight + ids.length := by
  obtain ⟨peak, started⟩ := startAll_changes memory ids
  rw [started]

theorem maxInFlight_startAll (counted : memory.inFlight ≤ memory.maxInFlight) (ids : List String) :
    (memory.startAll ids).maxInFlight =
      max memory.maxInFlight (memory.inFlight + ids.length) := by
  induction ids generalizing memory with
  | nil => exact (Nat.max_eq_left counted).symm
  | cons id rest ih =>
    have flying : (memory.start (.delete id)).inFlight = memory.inFlight + 1 := rfl
    have raised : (memory.start (.delete id)).maxInFlight =
        max memory.maxInFlight (memory.inFlight + 1) := rfl
    have later := ih (by rw [flying, raised]; omega)
    rw [flying, raised] at later
    rw [List.length_cons]
    change ((memory.start (.delete id)).startAll rest).maxInFlight = _
    omega

theorem hasLatency_startAll (memory : Memory) (ids : List String) :
    (memory.startAll ids).hasLatency = memory.hasLatency := by
  obtain ⟨peak, started⟩ := startAll_changes memory ids
  rw [started]

theorem hasLatency_complete (newId : Nat → String) (memory : Memory) (request : Request) :
    (memory.complete newId request).2.hasLatency = memory.hasLatency := by
  obtain ⟨records, created, changed⟩ := complete_changes newId memory request
  rw [changed]
  rfl

theorem maxInFlight_complete (newId : Nat → String) (memory : Memory) (request : Request) :
    (memory.complete newId request).2.maxInFlight = memory.maxInFlight := by
  obtain ⟨records, created, changed⟩ := complete_changes newId memory request
  rw [changed]
  rfl

/-- A started delete ends as it is due, or it fails and leaves the records. -/
theorem complete_delete_cases (newId : Nat → String) (memory : Memory) (name : String) :
    (memory.failure? .delete = none ∧ ∃ record ∈ memory.records, record.id = some name) ∧
      memory.complete newId (.delete name) = (.ok (deleteAnswer name),
        { memory.finish with records := without [name] memory.records }) ∨
    ¬(memory.failure? .delete = none ∧ ∃ record ∈ memory.records, record.id = some name) ∧
      ∃ error, memory.complete newId (.delete name) = (.error error, memory.finish) := by
  cases failure : memory.failure? .delete with
  | some error =>
    refine .inr ⟨by simp, error, ?_⟩
    have set : memory.finish.failure? (Request.delete name).kind = some error := failure
    unfold complete
    dsimp only
    rw [set]
  | none =>
    rw [complete_delete newId name failure, delete_eq]
    by_cases held : some name ∈ memory.records.map Record.id
    · exact .inl ⟨⟨rfl, List.mem_map.mp held⟩, if_pos held⟩
    · exact .inr ⟨fun both => held (List.mem_map.mpr both.2), _, if_neg held⟩

/-- Started deletes that end are counted no more, and those behind a failure still are. -/
theorem inFlight_completeAll (newId : Nat → String) (ids : List String)
    (started : ids.length ≤ memory.inFlight) :
    (completeAll newId ids memory).2.inFlight + ids.length =
      memory.inFlight + (unended (memory.failure? .delete) memory.records ids).length := by
  unfold completeAll
  induction ids generalizing memory with
  | nil => rfl
  | cons name rest ih =>
    rw [List.length_cons] at started ⊢
    have flying : memory.finish.inFlight = memory.inFlight - 1 := rfl
    rcases Backend.deleteInTurn_cons (fun request memory => complete newId memory request) name rest
      memory with ⟨error, next, outcome, fails⟩ | ⟨told, next, outcome, runs⟩
    · rcases complete_delete_cases newId memory name with ⟨-, ends⟩ | ⟨stuck, failure, ends⟩
      · cases ends.symm.trans outcome
      · obtain ⟨-, rfl⟩ := Prod.mk.inj (ends.symm.trans outcome)
        rw [fails, unended, if_neg stuck]
        dsimp only
        omega
    · rcases complete_delete_cases newId memory name with ⟨goes, ends⟩ | ⟨-, error, ends⟩
      · obtain ⟨-, rfl⟩ := Prod.mk.inj (ends.symm.trans outcome)
        have later : (Backend.deleteInTurn (fun request memory => complete newId memory request) rest
            { memory.finish with records := without [name] memory.records }).2.inFlight +
              rest.length = memory.inFlight - 1 +
                (unended (memory.failure? .delete) (without [name] memory.records) rest).length :=
          ih (Nat.le_sub_one_of_lt started)
        rw [runs, unended, if_pos goes]
        dsimp only at later ⊢
        omega
      · cases ends.symm.trans outcome

theorem hasLatency_deleteAll (newId : Nat → String) (ids : List String) (memory : Memory) :
    (deleteAll newId ids memory).2.hasLatency = memory.hasLatency := by
  unfold deleteAll
  split
  · refine Backend.deleteInTurn_keeps (fun later : Memory => later.hasLatency = memory.hasLatency)
      ?_ ids (hasLatency_startAll memory ids)
    exact fun id later same => (hasLatency_complete newId later (.delete id)).trans same
  · refine Backend.deleteInTurn_keeps (fun later : Memory => later.hasLatency = memory.hasLatency)
      ?_ ids rfl
    exact fun id later same => (hasLatency_call newId (.delete id) later).trans same

/-- Deletes of one operation leave those in flight that are given up. -/
theorem inFlight_deleteAll (newId : Nat → String) (ids : List String) (memory : Memory) :
    (deleteAll newId ids memory).2.inFlight = memory.inFlight +
      (if memory.hasLatency then unended (memory.failure? .delete) memory.records ids
        else []).length := by
  unfold deleteAll
  split
  · have started := inFlight_startAll memory ids
    have same := sameTable_startAll memory ids
    have ended := @inFlight_completeAll (memory.startAll ids) newId ids (by rw [started]; omega)
    rw [started, failure?_agree same, ← same.records] at ended
    omega
  · refine Backend.deleteInTurn_keeps (fun later : Memory => later.inFlight = memory.inFlight)
      ?_ ids rfl
    exact fun id later same => (inFlight_call newId (.delete id) later).1.trans same

theorem givenUp_eq_nil (deletes : memory.deletedAtOnce made = []) : memory.givenUp made = [] := by
  rw [givenUp, deletes]
  split
  · rfl
  · rfl

/-- A removal leaves the deletes in flight that it gives up. -/
theorem inFlight_removeAll (newId : Nat → String) (memory : Memory) (query : Query) :
    (Service.run (Service.removeAll (backend newId) query) memory).2.inFlight =
      memory.inFlight + (memory.givenUp (.remove none query)).length := by
  have absent : nonEmptyId? none = none := rfl
  cases asked : Listing.ofQuery query with
  | error refusal =>
    have deletes : memory.deletedAtOnce (.remove none query) = [] := by
      simp only [deletedAtOnce, absent, asked]
    rw [Service.run_removeAll_refused asked, givenUp_eq_nil deletes]
    rfl
  | ok listing =>
    rw [run_removeAll (backend_call newId) asked]
    cases failure : memory.failure? .query with
    | some error =>
      have deletes : memory.deletedAtOnce (.remove none query) = [] := by
        simp only [deletedAtOnce, absent, asked, failure]
      rw [givenUp_eq_nil deletes]
      rfl
    | none =>
      have deletes : memory.deletedAtOnce (.remove none query) =
          (Service.listedIds ((matched memory listing).map Record.flat)).toOption.getD [] := by
        simp only [deletedAtOnce, absent, asked, failure]
      dsimp only
      cases reads : Service.listedIds ((matched memory listing).map Record.flat) with
      | error error =>
        rw [reads] at deletes
        rw [givenUp_eq_nil deletes]
        rfl
      | ok ids =>
        have left := inFlight_deleteAll newId ids
          (memory.start (.query listing.selection.params)).finish
        rw [givenUp, deletes, reads]
        dsimp only [backend_deleteAll]
        cases outcome : deleteAll newId ids
            (memory.start (.query listing.selection.params)).finish with
        | mk result last =>
          rw [outcome] at left
          cases result with
          | ok answers => exact left
          | error error => exact left

/-- Where every delete ends before the next one starts, nothing stays in flight. -/
theorem inFlight_immediate (newId : Nat → String) (memory : Memory) (made : Call) :
    (Service.run (made.perform (Backend.immediate (call newId))) memory).2.inFlight =
      memory.inFlight := by
  have same (request : Request) (later : Memory) (start : later.inFlight = memory.inFlight) :
      (call newId request later).2.inFlight = memory.inFlight :=
    (inFlight_call newId request later).1.trans start
  have keeps (request : Request) : (Backend.immediate (call newId)).Keeps
      (fun later => later.inFlight = memory.inFlight) (fun _ _ => True) request :=
    ⟨same request, fun _ _ _ _ _ _ => trivial, fun _ _ _ _ _ _ => trivial⟩
  have holds := made.triple_perform (fun request _ => keeps request) fun ids later start =>
    Backend.deleteInTurn_keeps (fun later : Memory => later.inFlight = memory.inFlight)
      (fun id => same (.delete id)) ids start
  cases outcome : Service.run (made.perform (Backend.immediate (call newId))) memory with
  | mk result next =>
    cases result with
    | ok answer => exact (holds.ends memory rfl answer next outcome).1
    | error error => exact holds.fails memory rfl error next outcome

theorem createAll_of_call {first second : Backend σ} (same : first.call = second.call)
    (items : List FlatRecord) : Service.createAll first items = Service.createAll second items := by
  induction items with
  | nil => rfl
  | cons item rest ih =>
    unfold Service.createAll Service.createOne Service.send
    rw [ih, same]

/-- A call leaves in flight what it gives up, and nothing else. -/
theorem inFlight_next (newId : Nat → String) (memory : Memory) (made : Call) :
    ((Step.call made).next newId memory).inFlight =
      memory.inFlight + (memory.givenUp made).length := by
  have nothing (deletes : memory.deletedAtOnce made = [])
      (one : made.perform (backend newId) = made.perform (.immediate (call newId))) :
      ((Step.call made).next newId memory).inFlight =
        memory.inFlight + (memory.givenUp made).length := by
    rw [Step.next, one, inFlight_immediate, givenUp_eq_nil deletes]
    rfl
  cases made with
  | find | get | patch | update => exact nothing rfl rfl
  | create data =>
    apply nothing rfl
    cases data with
    | one => rfl
    | many items =>
      have calls : (backend newId).call = (Backend.immediate (call newId)).call := rfl
      have same := createAll_of_call calls (items.map Data.members)
      exact congrArg (fun created : Action Memory (List FlatRecord) => do
        return OneOrMany.many (← created)) same
  | remove id query =>
    cases given : nonEmptyId? id with
    | some name =>
      apply nothing
      · simp only [deletedAtOnce, given]
      · simp only [Call.perform, Service.remove, given]
        rfl
    | none =>
      have same : memory.deletedAtOnce (.remove id query) =
          memory.deletedAtOnce (.remove none query) := by
        rw [deletedAtOnce, deletedAtOnce, given]
        rfl
      have removes : Service.run (Call.perform (backend newId) (.remove id query)) memory = _ :=
        (congrArg (Service.run · memory) (Service.remove_of_absent _ given query)).trans
          (Service.run_remove (backend newId) query memory)
      rw [Step.next, removes, givenUp, same, ← givenUp]
      exact inFlight_removeAll newId memory query

/-- A table with requests left over, and the same one where they are not counted. -/
structure Beside (left peak : Nat) (busy alone : Memory) : Prop where
  table : SameTable busy alone
  latency : busy.hasLatency = alone.hasLatency
  flying : busy.inFlight = left + alone.inFlight
  counted : alone.inFlight ≤ alone.maxInFlight
  peaks : busy.maxInFlight = max peak (left + alone.maxInFlight)

theorem Beside.busy_counted (beside : Beside left peak busy alone) :
    busy.inFlight ≤ busy.maxInFlight := by
  obtain ⟨-, -, flying, counted, peaks⟩ := beside
  omega

theorem beside_call (newId : Nat → String) (request : Request)
    (beside : Beside left peak busy alone) :
    Agree (Beside left peak) (call newId request busy) (call newId request alone) := by
  have ⟨table, latency, flying, counted, peaks⟩ := beside
  have started : SameTable (busy.start request) (alone.start request) :=
    ⟨table.1, table.2, table.3, table.4⟩
  have answered : Agree SameTable (call newId request busy) (call newId request alone) :=
    complete_agree started request
  obtain ⟨answers, ended⟩ := answered
  obtain ⟨left, raised⟩ := inFlight_call newId request busy
  obtain ⟨left', raised'⟩ := inFlight_call newId request alone
  refine ⟨answers, ended, ?_, ?_, ?_, ?_⟩
  · rw [hasLatency_call, hasLatency_call, latency]
  · rw [left, left', flying]
  · omega
  · omega

theorem sameTable_startAll_both (same : SameTable busy alone) (ids : List String) :
    SameTable (busy.startAll ids) (alone.startAll ids) :=
  (sameTable_startAll busy ids).symm.trans (same.trans (sameTable_startAll alone ids))

theorem maxInFlight_completeAll (newId : Nat → String) (ids : List String) (memory : Memory) :
    (completeAll newId ids memory).2.maxInFlight = memory.maxInFlight := by
  unfold completeAll
  refine Backend.deleteInTurn_keeps (fun later : Memory => later.maxInFlight = memory.maxInFlight)
    ?_ ids rfl
  exact fun id later same => (maxInFlight_complete newId later (.delete id)).trans same

theorem beside_deleteAll (newId : Nat → String) (ids : List String)
    (beside : Beside left peak busy alone) :
    Agree (Beside left peak) (deleteAll newId ids busy) (deleteAll newId ids alone) := by
  have ⟨table, latency, flying, counted, peaks⟩ := beside
  cases latent : alone.hasLatency with
  | false =>
    rw [deleteAll, deleteAll, latency, latent]
    exact Backend.deleteInTurn_agree (fun id _ _ => beside_call newId (.delete id)) ids beside
  | true =>
    have ended : Agree SameTable (deleteAll newId ids busy) (deleteAll newId ids alone) := by
      rw [deleteAll, deleteAll, latency, latent]
      exact Backend.deleteInTurn_agree (fun id _ _ same => complete_agree same (.delete id)) ids
        (sameTable_startAll_both table ids)
    have raised {memory : Memory} (counted : memory.inFlight ≤ memory.maxInFlight)
        (latent : memory.hasLatency = true) : (deleteAll newId ids memory).2.maxInFlight =
          max memory.maxInFlight (memory.inFlight + ids.length) := by
      rw [deleteAll, if_pos latent, maxInFlight_completeAll, maxInFlight_startAll counted]
    have least (memory : Memory) (latent : memory.hasLatency = true) :
        (deleteAll newId ids memory).2.inFlight ≤ memory.inFlight + ids.length := by
      rw [inFlight_deleteAll, if_pos latent]
      exact Nat.add_le_add_left (length_unended_le _ _ _) _
    obtain ⟨answers, ended⟩ := ended
    refine ⟨answers, ended, ?_, ?_, ?_, ?_⟩
    · rw [hasLatency_deleteAll, hasLatency_deleteAll, latency]
    · rw [inFlight_deleteAll, inFlight_deleteAll, flying, latency, failure?_agree table,
        table.records, Nat.add_assoc]
    · rw [raised counted latent]
      exact Nat.le_trans (least alone latent) (Nat.le_max_right _ _)
    · rw [raised counted latent, raised beside.busy_counted (latency.trans latent)]
      omega

theorem beside_simulates (newId : Nat → String) (left peak : Nat) :
    (backend newId).Simulates (backend newId) (Beside left peak) :=
  ⟨fun request _ _ => beside_call newId request, fun ids _ _ => beside_deleteAll newId ids⟩

/-- A call has its own requests in flight beside those that were left over. -/
theorem beside_next (newId : Nat → String) (counted : memory.inFlight ≤ memory.maxInFlight)
    (made : Call) :
    Beside memory.inFlight memory.maxInFlight ((Step.call made).next newId memory)
      ((Step.call made).next newId memory.uncounted) := by
  have start : Beside memory.inFlight memory.maxInFlight memory memory.uncounted :=
    ⟨⟨rfl, rfl, rfl, rfl⟩, rfl, rfl, Nat.le_refl _, (Nat.max_eq_left counted).symm⟩
  exact (made.matches_perform (beside_simulates newId _ _) memory memory.uncounted start).2

theorem counted_next (newId : Nat → String) (counted : memory.inFlight ≤ memory.maxInFlight)
    (step : Step) : (step.next newId memory).inFlight ≤ (step.next newId memory).maxInFlight := by
  cases step with
  | call made => exact (beside_next newId counted made).busy_counted
  | fail | clearFailures | respondOne => exact counted

theorem counted_run (newId : Nat → String) (counted : memory.inFlight ≤ memory.maxInFlight)
    (steps : List Step) :
    (run newId memory steps).inFlight ≤ (run newId memory steps).maxInFlight := by
  induction steps generalizing memory with
  | nil => exact counted
  | cons step rest ih => exact ih (counted_next newId counted step)

theorem run_append_one (newId : Nat → String) (memory : Memory) (front : List Step) (step : Step) :
    run newId memory (front ++ [step]) = step.next newId (run newId memory front) :=
  List.foldl_append

/-- What a step adds to the requests in flight is what it gives up, if it is a call. -/
theorem inFlight_step (newId : Nat → String) (memory : Memory) (step : Step)
    (gives : ∀ made, step = .call made → memory.givenUp made = []) :
    (step.next newId memory).inFlight = memory.inFlight := by
  cases step with
  | call made => rw [inFlight_next, gives made rfl, List.length_nil, Nat.add_zero]
  | fail | clearFailures | respondOne => rfl

/-- Over a run of calls on a new table no request is ever in flight between them exactly if no call
gives deletes up. Each call adds to those in flight the deletes that it gives up, and it raises the
maximum to what it has in flight itself on top of those that were left. -/
theorem flights_balance_iff (newId : Nat → String) (records : List Record) (hasLatency : Bool)
    (steps : List Step) :
    let reached := run newId (ofRecords records hasLatency)
    ((∀ front, front <+: steps → (reached front).inFlight = 0) ↔
      ∀ front made, front ++ [.call made] <+: steps → (reached front).givenUp made = []) ∧
    ∀ made,
      let before := reached steps
      let behind := reached (steps ++ [.call made])
      behind.inFlight = before.inFlight + (before.givenUp made).length ∧
      behind.maxInFlight = max before.maxInFlight (before.inFlight + ownPeak newId before made) := by
  intro reached
  refine ⟨⟨?_, ?_⟩, ?_⟩
  · intro balanced front made within
    have start := balanced front ((List.prefix_append _ _).trans within)
    have ended := balanced (front ++ [.call made]) within
    dsimp only [reached] at start ended
    rw [run_append_one, inFlight_next, start, Nat.zero_add] at ended
    exact List.eq_nil_of_length_eq_zero ended
  · intro gives front within
    induction front using List.reverseRecOn with
    | nil => rfl
    | append_singleton front step ih =>
      dsimp only [reached] at ih ⊢
      rw [run_append_one, inFlight_step]
      · exact ih ((List.prefix_append _ _).trans within)
      · rintro made rfl
        exact gives front made within
  · intro made
    have counted : (reached steps).inFlight ≤ (reached steps).maxInFlight :=
      counted_run newId (Nat.le_refl 0) steps
    dsimp only [reached] at counted ⊢
    rw [run_append_one]
    exact ⟨inFlight_next newId _ made, (beside_next newId counted made).peaks⟩

/-- A removal whose first delete fails gives the second one up, which stays counted as in flight
when the same removal is made again and has no more than two requests of its own. -/
theorem removal_leaves_in_flight :
    let newId : Nat → String := fun count => "rec" ++ Text.decimal count
    let reached := run newId (ofRecords [⟨some "a", []⟩, ⟨some "b", []⟩] true)
    let failed : List Step := [.fail .delete (.status 503 "down"), .call (.remove none [])]
    let again : List Step := [.clearFailures, .call (.remove none [])]
    (reached failed).inFlight = 1 ∧ (reached failed).maxInFlight = 2 ∧
      ownPeak newId (reached (failed ++ [.clearFailures])) (.remove none []) = 2 ∧
      (reached (failed ++ again)).maxInFlight = 3 ∧ (reached (failed ++ again)).records = [] := by
  dsimp only
  refine ⟨?_, ?_, ?_, ?_, ?_⟩
  · rfl
  · rfl
  · rfl
  · rfl
  · rfl

end TableClient.Memory
