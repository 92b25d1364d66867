import TableClient.Proofs.Memory.Log
import TableClient.Proofs.Memory.Table
import TableClient.Proofs.Service.Exchanges
/-! Creating a batch. Its items are posted one by one, each behind the answer to the one before,
up to the first of which no record comes. So a batch is created as its front is, and then,
unless that has failed, as the rest of it is. -/
namespace TableClient

/-- Requests made one after the other: each is answered from the state in which the answer to the
one before has left the backend. -/
inductive Backend.Answered
    (answers : (request : Request) → σ → Except BackendError request.Answer × σ) :
    σ → List Exchange → σ → Prop
  | nothing : Answered answers state [] state
  | next : Answered answers (answers request state).2 later last →
      Answered answers state (⟨request, (answers request state).1⟩ :: later) last

namespace Exchange

def first? : Exchange → Option Record
  | ⟨.write _ _, .ok records⟩ => records.toList.head?
  | _ => none

/-- A write of which no record comes, and the failure that is made of it. -/
inductive Fruitless : Exchange → ServiceError → Prop
  | failed {request : Request} {failure : BackendError} :
      Fruitless ⟨request, .error failure⟩ (.backend failure)
  | empty : Fruitless ⟨.write kind payload, .ok (.many [])⟩
      (.backend (.decode "response contained no records"))

end Exchange

namespace Service

def creating (data : FlatRecord) : Request := .write .post [Record.ofFlat data]

variable {answers : (request : Request) → σ → Except BackendError request.Answer × σ}

theorem run_createAll_cons (backend : Backend σ) (data : FlatRecord) (rest : List FlatRecord)
    (state : σ) :
    run (createAll backend (data :: rest)) state =
      match run (createOne backend data) state with
      | (.ok flat, next) =>
        ((run (createAll backend rest) next).1.map (flat :: ·),
          (run (createAll backend rest) next).2)
      | (.error error, next) => (.error error, next) := by
  rw [createAll, run_bind]
  cases run (createOne backend data) state with
  | mk result next =>
    cases result with
    | error error => rfl
    | ok flat => exact run_bind_pure (createAll backend rest) (flat :: ·) next

/-- One record is created from the first record of the answer to its post, or not at all. -/
theorem run_createOne_noting (data : FlatRecord) (state : σ) (noted : List Exchange) :
    let exchange : Exchange := ⟨creating data, (answers (creating data) state).1⟩
    let next := ((answers (creating data) state).2, noted ++ [exchange])
    (∃ record, exchange.first? = some record ∧
      run (createOne (.immediate (Backend.noting answers)) data) (state, noted) =
        (.ok record.flat, next)) ∨
    ∃ error, exchange.Fruitless error ∧
      run (createOne (.immediate (Backend.noting answers)) data) (state, noted) =
        (.error error, next) := by
  dsimp only [creating]
  unfold createOne
  rw [run_send_noting]
  cases (answers (.write .post [Record.ofFlat data]) state).1 with
  | error failure => exact .inr ⟨_, .failed, rfl⟩
  | ok records =>
    match records with
    | .one record => exact .inl ⟨record, rfl, rfl⟩
    | .many (record :: _) => exact .inl ⟨record, rfl, rfl⟩
    | .many [] => exact .inr ⟨_, .empty, rfl⟩

/-- What was sent for a batch of so many items, and what is made of it. -/
inductive Ends (count : Nat) : List Exchange → Except ServiceError (List FlatRecord) → Prop
  | all {sent : List Exchange} {records : List Record} :
      sent.map Exchange.first? = records.map some → sent.length = count →
      Ends count sent (.ok (records.map Record.flat))
  | stopped {front : List Exchange} {last : Exchange} {error : ServiceError} :
      (∀ earlier ∈ front, earlier.first? ≠ none) → last.Fruitless error →
      Ends count (front ++ [last]) (.error error)

/-- An item of which a record comes is created in front of the others. -/
theorem Ends.cons {count : Nat} {sent : List Exchange} {exchange : Exchange} {record : Record}
    {result : Except ServiceError (List FlatRecord)} (ends : Ends count sent result)
    (comes : exchange.first? = some record) :
    Ends (count + 1) (exchange :: sent) (result.map (record.flat :: ·)) := by
  cases ends with
  | @all _ records come all =>
    have shown : (exchange :: sent).map Exchange.first? = (record :: records).map some := by
      rw [List.map_cons, comes, come]
      rfl
    exact .all shown (congrArg (· + 1) all)
  | @stopped front last error come fruitless =>
    have before : ∀ earlier ∈ exchange :: front, earlier.first? ≠ none := by
      intro earlier member
      rcases List.mem_cons.mp member with rfl | later
      · rw [comes]
        exact Option.some_ne_none record
      · exact come earlier later
    exact .stopped before fruitless

/-- The items of a batch are posted up to the first of which no record comes. -/
theorem run_createAll_noting (items : List FlatRecord) (state : σ) (noted : List Exchange) :
    ∃ sent next result,
      run (createAll (.immediate (Backend.noting answers)) items) (state, noted) =
        (result, next, noted ++ sent) ∧
      Backend.Answered answers state sent next ∧
      sent.map Exchange.request <+: items.map creating ∧ Ends items.length sent result := by
  -- The rest is posted from where the first post has left the backend, behind its note.
  induction items generalizing state noted with
  | nil =>
    have ends : Ends 0 [] (.ok []) := @Ends.all 0 [] [] rfl rfl
    refine ⟨[], state, .ok [], ?_, .nothing, List.nil_prefix, ends⟩
    rw [List.append_nil]
    rfl
  | cons data rest ih =>
    rcases run_createOne_noting data state noted with
      ⟨record, comes, creates⟩ | ⟨error, fruitless, fails⟩
    · obtain ⟨sent, next, result, runs, answered, front, ends⟩ :=
        ih (answers (creating data) state).2
          (noted ++ [⟨creating data, (answers (creating data) state).1⟩])
      refine ⟨_ :: sent, next, result.map (record.flat :: ·), ?_, .next answered,
        List.cons_prefix_cons.mpr ⟨rfl, front⟩, ends.cons comes⟩
      rw [run_createAll_cons, creates]
      dsimp only
      rw [runs, List.append_assoc]
      rfl
    · have ends : Ends (rest.length + 1) [_] (.error error) :=
        .stopped (fun _ member => absurd member List.not_mem_nil) fruitless
      refine ⟨_, _, .error error, ?_, .next .nothing,
        List.cons_prefix_cons.mpr ⟨rfl, List.nil_prefix⟩, ends⟩
      rw [run_createAll_cons, fails]
      rfl

theorem createAll_append (backend : Backend σ) (xs ys : List FlatRecord) :
    createAll backend (xs ++ ys) = do
      let first ← createAll backend xs
      let second ← createAll backend ys
      return first ++ second := by
  induction xs with
  | nil => simp [createAll]
  | cons item rest ih => simp [createAll, ih]

theorem create_append (backend : Backend σ) (xs ys : List FlatRecord) :
    create backend (.many (xs ++ ys)) = do
      let first ← create backend (.many xs)
      let second ← create backend (.many ys)
      return .many (first.toList ++ second.toList) := by
  simp [create, createAll_append, OneOrMany.toList]

theorem run_create_many (backend : Backend σ) (items : List FlatRecord) (state : σ) :
    run (create backend (.many items)) state =
      ((run (createAll backend items) state).1.map .many,
        (run (createAll backend items) state).2) := by
  exact run_bind_pure (createAll backend items) OneOrMany.many state

end Service

namespace Memory

/-- A table to which records may have been added, by one request at a time. -/
structure Extended (memory later : Memory) : Prop where
  records : memory.records <+: later.records
  inFlight : later.inFlight = memory.inFlight
  maxInFlight : later.maxInFlight ≤ max memory.maxInFlight (memory.inFlight + 1)

theorem Extended.call {memory later : Memory} (extended : Extended memory later)
    (newId : Nat → String) (payload : List Record) :
    Extended memory (call newId (.write .post payload) later).2 := by
  obtain ⟨same, most⟩ := inFlight_call newId (.write .post payload) later
  refine ⟨extended.records.trans ?_, same.trans extended.inFlight, ?_⟩
  · rcases call_cases newId (.write .post payload) later with ⟨error, fails⟩ | runs
    · rw [fails]
      exact List.prefix_rfl
    · rw [runs]
      exact List.prefix_append _ _
  · rw [most, extended.inFlight]
    exact Nat.max_le.mpr ⟨extended.maxInFlight, Nat.le_max_right _ _⟩

theorem extended_create (newId : Nat → String) (memory : Memory) (data : OneOrMany FlatRecord) :
    Extended memory (Service.run (Service.create (backend newId) data) memory).2 := by
  have keeps (payload : List Record) :
      (backend newId).Keeps (Extended memory) (fun _ _ => True) (.write .post payload) :=
    ⟨fun _ extended => extended.call newId payload, fun _ _ _ _ _ _ => trivial,
      fun _ _ _ _ _ _ => trivial⟩
  have created := Service.triple_create data fun item _ => keeps [Record.ofFlat item]
  have start : Extended memory memory := ⟨List.prefix_rfl, rfl, Nat.le_max_left _ _⟩
  cases outcome : Service.run (Service.create (backend newId) data) memory with
  | mk result next =>
    cases result with
    | ok records => exact (created.ends memory start records next outcome).1
    | error error => exact created.fails memory start error next outcome

end Memory

variable (answers : (request : Request) → σ → Except BackendError request.Answer × σ)

/-- A batch is created one item after the other. Over a backend that notes what it is sent, and
else answers as any other, each post is answered before the next one is sent. It carries one
record without an id and with the members of its item, and what was posted is a front of the items:
all of them if a record comes of each, and then the flat shapes of these are the result, else those
up to the first of which none comes, and its failure is the result. So creating a batch is creating
its front and, if that succeeds, the rest of it, and in a table no more than one post is in flight
and no record is taken back. -/
theorem Service.create_in_turn :
    let noting := Backend.immediate (Backend.noting answers)
    (∀ items state,
      let ended := run (create noting (.many items)) (state, [])
      let sent := ended.2.2
      (ended.1, ended.2.1) = run (create (.immediate answers) (.many items)) state ∧
      Backend.Answered answers state sent ended.2.1 ∧
      sent.map Exchange.request <+: items.map (fun item => .write .post [⟨none, item⟩]) ∧
      ((∃ records : List Record, sent.map Exchange.first? = records.map some ∧
        sent.length = items.length ∧ ended.1 = .ok (.many (records.map Record.flat))) ∨
      ∃ front last error, sent = front ++ [last] ∧ (∀ earlier ∈ front, earlier.first? ≠ none) ∧
        last.Fruitless error ∧ ended.1 = .error error)) ∧
    (∀ xs ys, create noting (.many (xs ++ ys)) = do
      let first ← create noting (.many xs)
      let second ← create noting (.many ys)
      return .many (first.toList ++ second.toList)) ∧
    ∀ newId memory items,
      Memory.Extended memory (run (create (Memory.backend newId) (.many items)) memory).2 := by
  refine ⟨fun items state => ?_, create_append _, fun newId memory items => ?_⟩
  · have plain :=
      matches_create (Backend.noting_simulates answers) (.many items) (state, []) state rfl
    refine ⟨Prod.ext plain.1 plain.2, ?_⟩
    obtain ⟨sent, next, result, runs, answered, front, ends⟩ := run_createAll_noting items state []
    rw [run_create_many, runs]
    refine ⟨answered, front, ?_⟩
    cases ends with
    | all come all => exact .inl ⟨_, come, all, rfl⟩
    | stopped come fruitless => exact .inr ⟨_, _, _, rfl, come, fruitless, rfl⟩
  · exact Memory.extended_create newId memory (.many items)

end TableClient
