import TableClient.Proofs.Memory.Table
/-! What a write leaves when it fails. The records of a payload are written one after the other up
to the first that cannot be, and nothing is taken back, so the table is as those in front have
left it. A payload of one record leaves no trace when it fails, and a patch sends no more than
one unless it is a batch for no id. -/
namespace TableClient

namespace Service

variable {backend : Backend σ} {name : Option String} {state next : σ} {error : ServiceError}

theorem patch_error {data : OneOrMany FlatRecord}
    (fails : run (patch backend name data) state = (.error error, next)) :
    ∃ failure, error = .backend failure ∧
      backend.call (.write .patch (patchRecords name data)) state = (.error failure, next) := by
  unfold patch at fails
  rw [run_bind, send, run_perform] at fails
  cases outcome : backend.call (.write .patch (patchRecords name data)) state with
  | mk result behind =>
    rw [outcome] at fails
    cases result with
    | ok records => cases fails
    | error failure =>
      obtain ⟨same, rfl⟩ := Prod.mk.inj fails
      exact ⟨failure, (Except.error.inj same).symm, rfl⟩

/-- An update fails with its request, or because it is answered without a record. -/
theorem update_error {data : FlatRecord}
    (fails : run (update backend name data) state = (.error error, next)) :
    (∃ failure, error = .backend failure ∧
      backend.call (.write .put [Record.ofFlat (updateData name data)]) state =
        (.error failure, next)) ∨
    ∃ records : OneOrMany Record, records.toList = [] ∧
      backend.call (.write .put [Record.ofFlat (updateData name data)]) state =
        (.ok records, next) := by
  unfold update at fails
  rw [run_bind, send, run_perform] at fails
  cases outcome : backend.call (.write .put [Record.ofFlat (updateData name data)]) state with
  | mk result behind =>
    rw [outcome] at fails
    cases result with
    | error failure =>
      obtain ⟨same, rfl⟩ := Prod.mk.inj fails
      exact .inl ⟨failure, (Except.error.inj same).symm, rfl⟩
    | ok records =>
      dsimp only at fails
      unfold first at fails
      cases answered : records.toList with
      | nil =>
        rw [answered] at fails
        obtain ⟨-, rfl⟩ := Prod.mk.inj fails
        exact .inr ⟨records, answered, rfl⟩
      | cons record rest =>
        rw [answered] at fails
        cases fails

end Service

/-- A patch for an id, or with one record, sends one record. -/
theorem length_patchRecords {name : Option String} {data : OneOrMany FlatRecord}
    (single : nonEmptyId? name ≠ none ∨ ∃ item, data = .one item) :
    (patchRecords name data).length = 1 := by
  unfold patchRecords
  split
  · rfl
  · rfl
  · rename_i absent
    rcases single with named | ⟨item, same⟩
    · exact absurd absent named
    · cases same
  · rfl

namespace Memory

/-- The records that a failed write can leave: those there were, under a failure set for it, or
those that are left by a write of all that comes before the first record that cannot be written. -/
inductive Leaves (newId : Nat → String) (memory : Memory) (kind : WriteKind) :
    List Record → BackendError → List Record → Prop
  | refused : memory.failure? (.write kind) = some error →
      Leaves newId memory kind payload error memory.records
  | stopped : Unwritable memory.records record error →
      call newId (.write kind front) memory = (.ok written, next) →
      Leaves newId memory kind (front ++ record :: back) error next.records

variable {newId : Nat → String} {memory next : Memory} {kind : WriteKind}
  {records payload left : List Record} {error : BackendError} {replaces : Bool}

/-- What cannot be written depends on the ids in the table alone. -/
theorem Unwritable.of_ids {record : Record} (unwritable : Unwritable left record error)
    (same : left.map Record.id = records.map Record.id) : Unwritable records record error := by
  cases unwritable with
  | unnamed nothing => exact .unnamed nothing
  | absent target gone => exact .absent target (same ▸ gone)

/-- Writes fail at the first record that cannot be written, with those in front of it written. -/
theorem writeAll_error (fails : writeAll replaces records payload = (.error error, left)) :
    ∃ front record back written, payload = front ++ record :: back ∧
      Unwritable records record error ∧ writeAll replaces records front = (.ok written, left) := by
  induction payload generalizing records with
  | nil => cases fails
  | cons source rest ih =>
    rcases writeAll_cons replaces records source rest with
      ⟨_, unwritable, stops⟩ | ⟨id, changed, middle, target, changes, runs⟩
    · rw [stops] at fails
      obtain ⟨same, rfl⟩ := Prod.mk.inj fails
      obtain rfl := Except.error.inj same
      exact ⟨[], source, rest, [], rfl, unwritable, rfl⟩
    · rw [runs] at fails
      obtain ⟨result, last⟩ := Prod.mk.inj fails
      have later : writeAll replaces middle rest = (.error error, left) := by
        cases outcome : writeAll replaces middle rest with
        | mk ended others =>
          rw [outcome] at result last
          cases ended with
          | ok written => cases result
          | error failure =>
            obtain rfl := Except.error.inj result
            rw [← last]
      obtain ⟨front, record, back, written, rfl, unwritable, writes⟩ := ih later
      refine ⟨source :: front, record, back, changed :: written, rfl, ?_, ?_⟩
      · exact unwritable.of_ids (ids_change changes)
      · rw [writeAll, target]
        dsimp only
        rw [changes]
        dsimp only
        rw [writes]

theorem length_writeAll {written : List Record}
    (ends : (writeAll replaces records payload).1 = .ok written) :
    written.length = payload.length := by
  induction payload generalizing records written with
  | nil =>
    obtain rfl := Except.ok.inj ends
    rfl
  | cons source rest ih =>
    rcases writeAll_cons replaces records source rest with
      ⟨_, _, fails⟩ | ⟨_, changed, middle, _, _, runs⟩
    · rw [fails] at ends
      cases ends
    · rw [runs] at ends
      cases later : (writeAll replaces middle rest).1 with
      | error failure =>
        rw [later] at ends
        cases ends
      | ok others =>
        rw [later] at ends
        obtain rfl := Except.ok.inj ends
        exact congrArg (· + 1) (ih later)

/-- A patch or a put meets a failure set for it, or writes records over those of the table. -/
theorem call_overwrite (newId : Nat → String) (rewrites : kind ≠ .post) (payload : List Record)
    (memory : Memory) :
    call newId (.write kind payload) memory =
      match memory.failure? (.write kind) with
      | some error => (.error error, (memory.start (.write kind payload)).finish)
      | none =>
        (memory.start (.write kind payload)).finish.overwrite (kind = .put) payload := by
  have failure : (memory.start (.write kind payload)).finish.failure?
      (Request.write kind payload).kind = memory.failure? (.write kind) := rfl
  unfold call complete
  dsimp only
  rw [failure]
  cases memory.failure? (.write kind) with
  | some error => rfl
  | none =>
    cases kind with
    | post => exact absurd rfl rewrites
    | patch => rfl
    | put => rfl

theorem call_writeAll (newId : Nat → String) (rewrites : kind ≠ .post) (payload : List Record)
    (unset : memory.failure? (.write kind) = none) :
    call newId (.write kind payload) memory =
      ((writeAll (kind = .put) memory.records payload).1.map memory.shape,
        { (memory.start (.write kind payload)).finish with
          records := (writeAll (kind = .put) memory.records payload).2 }) := by
  rw [call_overwrite newId rewrites, unset]
  rfl

theorem leaves_of_error (rewrites : kind ≠ .post)
    (fails : call newId (.write kind payload) memory = (.error error, next)) :
    Leaves newId memory kind payload error next.records := by
  rw [call_overwrite newId rewrites] at fails
  cases set : memory.failure? (.write kind) with
  | some failure =>
    rw [set] at fails
    obtain ⟨same, rfl⟩ := Prod.mk.inj fails
    obtain rfl := Except.error.inj same
    exact .refused set
  | none =>
    rw [set] at fails
    obtain ⟨result, rfl⟩ := Prod.mk.inj fails
    cases outcome : writeAll (kind = .put) memory.records payload with
    | mk ended left =>
      change (writeAll (kind = .put) memory.records payload).1.map _ = _ at result
      change Leaves newId memory kind payload error (writeAll (kind = .put) memory.records payload).2
      rw [outcome] at result ⊢
      cases ended with
      | ok written => cases result
      | error failure =>
        obtain rfl := Except.error.inj result
        obtain ⟨front, record, back, written, rfl, unwritable, writes⟩ := writeAll_error outcome
        have table : (memory.start (.write kind front)).finish.records = memory.records := rfl
        have fronts : call newId (.write kind front) memory =
            (.ok (memory.shape written), { (memory.start (.write kind front)).finish with
              records := left }) := by
          rw [call_overwrite newId rewrites, set]
          dsimp only [overwrite]
          rw [table, writes]
          rfl
        exact .stopped unwritable fronts

theorem records_write_nil (newId : Nat → String) (kind : WriteKind) (memory : Memory) :
    (call newId (.write kind []) memory).2.records = memory.records := by
  rcases call_cases newId (.write kind []) memory with ⟨error, fails⟩ | runs
  · rw [fails]
    rfl
  · rw [runs]
    cases kind with
    | post => exact List.append_nil memory.records
    | patch | put => rfl

/-- One record that is not written changes nothing. -/
theorem Leaves.unchanged (leaves : Leaves newId memory kind payload error left)
    (single : payload.length ≤ 1) : left = memory.records := by
  cases leaves with
  | refused => rfl
  | @stopped record _ front _ next back unwritable writes =>
    have nothing : front = [] := by
      rw [List.length_append, List.length_cons] at single
      exact List.length_eq_zero_iff.mp (by omega)
    have kept := records_write_nil newId kind memory
    rw [nothing] at writes
    rwa [writes] at kept

/-- A put of one record is never answered without a record. -/
theorem put_answers {record : Record} {answered : OneOrMany Record}
    (ends : call newId (.write .put [record]) memory = (.ok answered, next)) :
    answered.toList ≠ [] := by
  have rewrites : WriteKind.put ≠ .post := by decide
  rw [call_overwrite newId rewrites] at ends
  cases set : memory.failure? (.write .put) with
  | some failure =>
    rw [set] at ends
    cases ends
  | none =>
    rw [set] at ends
    obtain ⟨written, writes, rfl⟩ := overwrite_ok (congrArg Prod.fst ends)
    cases written with
    | nil => cases length_writeAll writes
    | cons first rest =>
      rw [shape]
      split
      · exact List.cons_ne_nil _ _
      · exact List.cons_ne_nil _ _

/-- Writes are not taken back. A patch or a put that fails under a failure set for it changes no
record, and any other that fails leaves the table as the records in front of the first that
cannot be written have left it. So a payload of one record changes nothing when it fails: every
update, and every patch but that of a batch for no id. -/
theorem failed_write_stops (newId : Nat → String) (memory : Memory) :
    (∀ kind payload error next, kind ≠ .post →
      call newId (.write kind payload) memory = (.error error, next) →
      Leaves newId memory kind payload error next.records ∧
        (payload.length ≤ 1 → next.records = memory.records)) ∧
    (∀ name data error next,
      Service.run (Service.patch (backend newId) name data) memory = (.error error, next) →
      (∃ failure, error = .backend failure ∧
        Leaves newId memory .patch (patchRecords name data) failure next.records) ∧
      (nonEmptyId? name ≠ none ∨ (∃ item, data = .one item) → next.records = memory.records)) ∧
    ∀ name data error next,
      Service.run (Service.update (backend newId) name data) memory = (.error error, next) →
      (∃ failure, error = .backend failure ∧
        Leaves newId memory .put [Record.ofFlat (updateData name data)] failure next.records) ∧
      next.records = memory.records := by
  refine ⟨?_, ?_, ?_⟩
  · intro kind payload error next rewrites fails
    have leaves := leaves_of_error rewrites fails
    exact ⟨leaves, leaves.unchanged⟩
  · intro name data error next fails
    obtain ⟨failure, rfl, failed⟩ := Service.patch_error fails
    have leaves : Leaves newId memory .patch _ failure next.records :=
      leaves_of_error (by decide) failed
    refine ⟨⟨failure, rfl, leaves⟩, fun single => ?_⟩
    exact leaves.unchanged (Nat.le_of_eq (length_patchRecords single))
  · intro name data error next fails
    rcases Service.update_error fails with ⟨failure, rfl, failed⟩ | ⟨records, none_shown, ended⟩
    · have leaves : Leaves newId memory .put _ failure next.records :=
        leaves_of_error (by decide) failed
      exact ⟨⟨failure, rfl, leaves⟩, leaves.unchanged (Nat.le_refl 1)⟩
    · exact absurd none_shown (put_answers ended)

theorem failed_write_stops_absent :
    let newId : Nat → String := fun count => "rec" ++ Text.decimal count
    let memory := ofRecords [⟨some "a", [("n", .null)]⟩, ⟨some "b", []⟩] true
    let payload : List Record :=
      [⟨none, [("id", .string "a")]⟩, ⟨some "c", [("m", .null)]⟩, ⟨some "b", [("m", .null)]⟩]
    let next := (call newId (.write .put payload) memory).2
    WriteKind.put ≠ .post ∧
      call newId (.write .put payload) memory = (.error (.notFound "c"), next) ∧
      Leaves newId memory .put payload (.notFound "c") next.records ∧
      next.records = [⟨some "a", [("id", .string "a")]⟩, ⟨some "b", []⟩] := by
  intro newId memory payload next
  have rewrites : WriteKind.put ≠ .post := by decide
  have fails : call newId (.write .put payload) memory = (.error (.notFound "c"), next) := rfl
  exact ⟨rewrites, fails, ((failed_write_stops newId memory).1 _ _ _ _ rewrites fails).1, rfl⟩

/-- A batch of patches fails at its second record with the first one written. -/
theorem failed_patch_keeps_first :
    let newId : Nat → String := fun count => "rec" ++ Text.decimal count
    let memory := ofRecords [⟨some "a", [("n", .null)]⟩] false
    let data : OneOrMany FlatRecord :=
      .many [[("id", .string "a"), ("n", .bool true)], [("n", .bool false)]]
    let patched := Service.run (Service.patch (backend newId) none data) memory
    patched.1 = .error (.backend (.status 422 "record id required")) ∧
      patched.2.records = [⟨some "a", [("n", .bool true), ("id", .string "a")]⟩] ∧
      patched.2.records ≠ memory.records := by
  refine ⟨rfl, rfl, ?_⟩
  intro same
  cases same

end Memory
end TableClient
