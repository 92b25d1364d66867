import TableClient.Proofs.Members
import TableClient.Proofs.Memory.FailedWrites
/-! Writes that are made again. A record of the table takes the fields of all records sent for its
id, one after the other, and a second time they come to the same, since the last value written to
a key is the one that stays and the key keeps its place. What a write fails with is told by the
ids of the table, which no write changes. So a patch or a put can be sent again at any time,
whether it has succeeded or has stopped halfway. -/
namespace TableClient.Memory

/-- Writes that are all made, one after the other. -/
inductive Writes (replaces : Bool) :
    List Record → List Record → List Record → List Record → Prop
  | nil : Writes replaces table [] [] table
  | cons : target? sent = .ok name →
      change (writeFields replaces sent.fields) name table = some (changed, middle) →
      Writes replaces middle rest others last →
      Writes replaces table (sent :: rest) (changed :: others) last

variable {memory : Memory} {kind : WriteKind} {replaces : Bool}
  {records other payload front next written : List Record} {id : String} {error : BackendError}

def fieldsAfter (replaces : Bool) (payload : List Record) (stored : Fields) : Fields :=
  payload.foldl (fun fields record => writeFields replaces record.fields fields) stored

theorem fieldsAfter_over (payload : List Record) (stored : Fields) :
    fieldsAfter false payload stored = Members.insertAll stored (payload.flatMap Record.fields) := by
  induction payload generalizing stored with
  | nil => rfl
  | cons record rest ih =>
    rw [List.flatMap_cons, Members.insertAll_append]
    exact ih (Members.insertAll stored record.fields)

theorem fieldsAfter_again (replaces : Bool) (payload : List Record) (stored : Fields) :
    fieldsAfter replaces payload (fieldsAfter replaces payload stored) =
      fieldsAfter replaces payload stored := by
  cases replaces with
  | false =>
    simp only [fieldsAfter_over]
    exact Members.insertAll_insertAll_self _ _
  | true =>
    cases payload with
    | nil => rfl
    -- A record that replaces all fields does not look at those there are.
    | cons record rest => rfl

def isFor (id : Option String) (sent : Record) : Bool := (target? sent).toOption == id

/-- A table behind writes: each record takes the fields sent for it, unless one in front of it has
the same id. -/
def tableAfter (replaces : Bool) : List Record → List Record → List Record
  | _, [] => []
  | payload, record :: rest =>
    { record with fields := fieldsAfter replaces (payload.filter (isFor record.id)) record.fields } ::
      tableAfter replaces (payload.filter (!isFor record.id ·)) rest

theorem tableAfter_nil (replaces : Bool) (records : List Record) :
    tableAfter replaces [] records = records := by
  induction records with
  | nil => rfl
  | cons record rest ih => exact congrArg (record :: ·) ih

theorem tableAfter_append (replaces : Bool) (front back records : List Record) :
    tableAfter replaces (front ++ back) records =
      tableAfter replaces back (tableAfter replaces front records) := by
  induction records generalizing front back with
  | nil => rfl
  | cons record rest ih =>
    simp only [tableAfter, fieldsAfter, List.filter_append, List.foldl_append, ih]

theorem tableAfter_again (replaces : Bool) (payload records : List Record) :
    tableAfter replaces payload (tableAfter replaces payload records) =
      tableAfter replaces payload records := by
  induction records generalizing payload with
  | nil => rfl
  | cons record rest ih => simp only [tableAfter, fieldsAfter_again, ih]

/-- One write is made to the first record with the id that it is for. -/
theorem tableAfter_change {sent changed : Record} (target : target? sent = .ok id)
    (changes : change (writeFields replaces sent.fields) id records = some (changed, next)) :
    next = tableAfter replaces [sent] records := by
  induction records generalizing next with
  | nil => cases changes
  | cons record rest ih =>
    rw [change] at changes
    split at changes
    · rename_i named
      obtain ⟨rfl, rfl⟩ := Prod.mk.inj (Option.some.inj changes)
      have meant : isFor record.id sent = true := by rw [isFor, target, named]; exact beq_self_eq_true _
      simp [tableAfter, fieldsAfter, meant, tableAfter_nil]
    · rename_i unnamed
      obtain ⟨⟨_, others⟩, later, same⟩ := Option.map_eq_some_iff.mp changes
      obtain ⟨rfl, rfl⟩ := Prod.mk.inj same
      have passed : isFor record.id sent = false := by
        rw [isFor, target]
        exact beq_false_of_ne fun named => unnamed named.symm
      simp [tableAfter, fieldsAfter, passed, ← ih later]

theorem Writes.runs (writes : Writes replaces records front written next) (back : List Record) :
    writeAll replaces records (front ++ back) =
      ((writeAll replaces next back).1.map (written ++ ·), (writeAll replaces next back).2) := by
  induction writes with
  | nil =>
    rw [List.nil_append]
    cases writeAll replaces _ back with
    | mk result last => cases result <;> rfl
  | cons target changes _ ih =>
    rw [List.cons_append, writeAll, target]
    dsimp only
    rw [changes]
    dsimp only
    rw [ih]
    cases writeAll replaces _ back with
    | mk result last => cases result <;> rfl

theorem writes_iff : writeAll replaces records payload = (.ok written, next) ↔
    Writes replaces records payload written next := by
  constructor
  · intro ends
    induction payload generalizing records written with
    | nil =>
      obtain ⟨same, rfl⟩ := Prod.mk.inj ends
      obtain rfl := Except.ok.inj same
      exact .nil
    | cons sent rest ih =>
      rcases writeAll_cons replaces records sent rest with
        ⟨_, _, fails⟩ | ⟨id, changed, middle, target, changes, runs⟩
      · rw [fails] at ends
        cases ends
      · rw [runs] at ends
        obtain ⟨result, rfl⟩ := Prod.mk.inj ends
        cases later : (writeAll replaces middle rest).1 with
        | error failure =>
          rw [later] at result
          cases result
        | ok others =>
          rw [later] at result
          obtain rfl := Except.ok.inj result
          exact .cons target changes (ih (Prod.ext later rfl))
  · intro writes
    have whole := writes.runs []
    rw [List.append_nil] at whole
    rw [whole]
    exact Prod.ext (congrArg Except.ok (List.append_nil written)) rfl

theorem Writes.records_eq (writes : Writes replaces records payload written next) :
    next = tableAfter replaces payload records := by
  induction writes with
  | nil => exact (tableAfter_nil replaces _).symm
  | cons target changes _ ih =>
    rw [ih, tableAfter_change target changes, ← tableAfter_append, List.singleton_append]

theorem Writes.ids (writes : Writes replaces records payload written next) :
    next.map Record.id = records.map Record.id := by
  have kept := ids_writeAll replaces records payload
  rwa [writes_iff.mpr writes] at kept

/-- Writes that can be made to a table can be made to any other with the same ids. -/
theorem Writes.of_ids (writes : Writes replaces records payload written next)
    (same : other.map Record.id = records.map Record.id) :
    ∃ written next, Writes replaces other payload written next := by
  induction writes generalizing other with
  | nil => exact ⟨[], other, .nil⟩
  | @cons sent name _ _ middle _ _ _ target changes _ ih =>
    have present : (change (writeFields replaces sent.fields) name other).isSome := by
      rw [change_isSome_iff, same, ← change_isSome_iff, changes]
      rfl
    obtain ⟨⟨changed', middle'⟩, changes'⟩ := Option.isSome_iff_exists.mp present
    have kept : middle'.map Record.id = middle.map Record.id := by
      rw [ids_change changes', same, ids_change changes]
    obtain ⟨written, next, later⟩ := ih kept
    exact ⟨changed' :: written, next, .cons target changes' later⟩

theorem writeAll_unwritable {record : Record} (unwritable : Unwritable records record error)
    (rest : List Record) :
    writeAll replaces records (record :: rest) = (.error error, records) := by
  cases unwritable with
  | unnamed nothing => rw [writeAll, nothing]
  | @absent name target gone =>
    have nothing : change (writeFields replaces record.fields) name records = none := by
      rw [← Option.not_isSome_iff_eq_none, change_isSome_iff]
      exact gone
    rw [writeAll, target]
    dsimp only
    rw [nothing]

/-- Writes that are made again leave what they have left. -/
theorem Writes.again (writes : Writes replaces records payload written next) :
    ∃ written, Writes replaces next payload written next := by
  obtain ⟨written', next', writes'⟩ := writes.of_ids writes.ids
  have same : next' = next := by
    rw [writes'.records_eq, writes.records_eq, tableAfter_again]
  exact ⟨written', same ▸ writes'⟩

/-- Writes that are made again come to the same as they did the first time. -/
theorem writeAll_again (replaces : Bool) (records payload : List Record) :
    let first := writeAll replaces records payload
    let second := writeAll replaces first.2 payload
    second.2 = first.2 ∧ ∀ error, second.1 = .error error ↔ first.1 = .error error := by
  intro first second
  cases outcome : writeAll replaces records payload with
  | mk result left =>
    cases result with
    | ok written =>
      obtain ⟨written', writes'⟩ := (writes_iff.mp outcome).again
      have made : second = (.ok written', left) := by
        unfold second first
        rw [outcome]
        exact writes_iff.mpr writes'
      rw [made, show first = _ from outcome]
      simp
    | error failure =>
      obtain ⟨front, record, back, written, rfl, unwritable, writes⟩ := writeAll_error outcome
      have writes : Writes replaces records front written left := writes_iff.mp writes
      obtain ⟨written', writes'⟩ := writes.again
      have stuck : Unwritable left record failure := unwritable.of_ids writes.ids.symm
      have made : second = (.error failure, left) := by
        unfold second first
        rw [outcome, writes'.runs, writeAll_unwritable stuck]
        rfl
      rw [made, show first = _ from outcome]
      simp

/-- A request that is made again finds the maximum in flight as the first has left it. -/
theorem start_finish_again (memory : Memory) (request : Request) (records : List Record) :
    let ended := { (memory.start request).finish with records }
    (ended.start request).finish = { ended with log := ended.log ++ [request] } := by
  simp [start, finish]

/-- A patch or a put that is sent again leaves the table as the first one has left it, in the order
of the keys too, and all that it adds is an entry in the log. It succeeds exactly if the first has
succeeded, and fails exactly as the first has failed. Its answer may differ, since a record is shown
as it is behind the write, and later writes for the same record have been made by then. -/
theorem retry_changes_nothing (newId : Nat → String) (memory : Memory) (rewrites : kind ≠ .post)
    (payload : List Record) :
    let request := Request.write kind payload
    let first := call newId request memory
    let second := call newId request first.2
    second.2 = { first.2 with log := first.2.log ++ [request] } ∧
      ((∃ answered, second.1 = .ok answered) ↔ ∃ answered, first.1 = .ok answered) ∧
      ∀ error, second.1 = .error error ↔ first.1 = .error error := by
  intro request first second
  cases failure : memory.failure? (.write kind) with
  | some error =>
    have refused (state : Memory) (set : state.failure? (.write kind) = some error) :
        call newId request state = (.error error, (state.start request).finish) := by
      rw [call_overwrite newId rewrites, set]
    have once : first = _ := refused memory failure
    have twice : second = _ := refused first.2 (by rw [once]; exact failure)
    rw [twice, once]
    exact ⟨start_finish_again memory request memory.records, Iff.rfl, fun _ => Iff.rfl⟩
  | none =>
    obtain ⟨left, verdict⟩ := writeAll_again (kind = .put) memory.records payload
    have once : first = _ := call_writeAll newId rewrites payload failure
    have twice : second = _ := call_writeAll newId rewrites payload (by rw [once]; exact failure)
    rw [twice, once]
    dsimp only
    rw [left]
    refine ⟨start_finish_again memory request _, ?_⟩
    cases ended : (writeAll (kind = .put) memory.records payload).1 with
    | error error =>
      rw [(verdict error).mpr ended]
      exact ⟨Iff.rfl, fun _ => Iff.rfl⟩
    | ok written =>
      cases ended' : (writeAll (kind = .put)
          (writeAll (kind = .put) memory.records payload).2 payload).1 with
      | error error =>
        rw [ended] at verdict
        cases (verdict error).mp ended'
      | ok written' =>
        refine ⟨iff_of_true ⟨_, rfl⟩ ⟨_, rfl⟩, fun error => iff_of_false ?_ ?_⟩
        · exact fun same => nomatch same
        · exact fun same => nomatch same

/-- Two records for one id, of which the second overrides the first, and one that cannot be
written: sent again, they leave the same table and fail in the same way. -/
theorem retry_changes_nothing_halfway :
    let newId : Nat → String := fun count => "rec" ++ Text.decimal count
    let memory := ofRecords [⟨some "a", [("n", .null), ("m", .null)]⟩, ⟨some "b", []⟩] false
    let request := Request.write .patch [⟨some "a", [("k", .null), ("n", .bool true)]⟩,
      ⟨none, [("id", .string "a"), ("n", .bool false)]⟩, ⟨some "c", []⟩, ⟨some "b", [("n", .null)]⟩]
    let first := call newId request memory
    let second := call newId request first.2
    WriteKind.patch ≠ .post ∧ first.1 = .error (.notFound "c") ∧
      first.2.records = [⟨some "a", [("n", .bool false), ("m", .null), ("k", .null),
        ("id", .string "a")]⟩, ⟨some "b", []⟩] ∧
      second.1 = .error (.notFound "c") ∧ second.2.records = first.2.records := by
  intro newId memory request first second
  have rewrites : WriteKind.patch ≠ .post := by decide
  have fails : first.1 = .error (.notFound "c") := rfl
  obtain ⟨left, -, errors⟩ := retry_changes_nothing newId memory rewrites _
  exact ⟨rewrites, fails, rfl, (errors _).mpr fails, (congrArg Memory.records left).trans rfl⟩

end TableClient.Memory
