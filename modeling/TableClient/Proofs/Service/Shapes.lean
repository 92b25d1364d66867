import TableClient.Proofs.Service.Calls
/-! Answers to writes in two shapes. A backend may answer a batch with its first record alone. A call
that shows the first record of an answer does not tell the two apart, and of the others only a patch
shows the answer to a write at all. -/
namespace TableClient

/-- A batch as its first item alone; an empty one stays as it is. -/
def OneOrMany.firstAlone : OneOrMany α → OneOrMany α
  | .one item => .one item
  | .many [] => .many []
  | .many (item :: _) => .one item

theorem OneOrMany.map_firstAlone (f : α → β) (items : OneOrMany α) :
    items.firstAlone.map f = (items.map f).firstAlone := by
  match items with
  | .one item => rfl
  | .many [] => rfl
  | .many (item :: rest) => rfl

namespace Backend

def firstAlone (answers : (request : Request) → σ → Except BackendError request.Answer × σ) :
    (request : Request) → σ → Except BackendError request.Answer × σ
  | .query params, state => answers (.query params) state
  | .fetch id, state => answers (.fetch id) state
  | .delete id, state => answers (.delete id) state
  | .write kind payload, state =>
    ((answers (.write kind payload) state).1.map OneOrMany.firstAlone,
      (answers (.write kind payload) state).2)

def answeringFirst (backend : Backend σ) : Backend σ :=
  ⟨firstAlone backend.call, backend.deleteAll⟩

end Backend

namespace Service

variable (backend : Backend σ)

theorem run_map (f : α → β) (action : Action σ α) (state : σ) :
    run (f <$> action) state = ((run action state).1.map f, (run action state).2) := by
  rw [map_eq_pure_bind, run_bind_pure]

theorem send_write_answeringFirst (kind : WriteKind) (payload : List Record) :
    send backend.answeringFirst (.write kind payload) =
      OneOrMany.firstAlone <$> send backend (.write kind payload) := by
  funext state
  change run (send backend.answeringFirst (.write kind payload)) state = run (_ <$> _) state
  rw [run_map, send, send, run_perform, run_perform]
  dsimp only [Backend.answeringFirst, Backend.firstAlone]
  cases backend.call (.write kind payload) state with
  | mk result next => cases result <;> rfl

theorem first_firstAlone (records : OneOrMany Record) :
    (first records.firstAlone : Action σ Record) = first records := by
  match records with
  | .one record => rfl
  | .many [] => rfl
  | .many (record :: rest) => rfl

theorem createOne_answeringFirst (data : FlatRecord) :
    createOne backend.answeringFirst data = createOne backend data := by
  unfold createOne
  rw [send_write_answeringFirst, bind_map_left]
  simp only [first_firstAlone]

theorem update_answeringFirst (id : Option String) (data : FlatRecord) :
    update backend.answeringFirst id data = update backend id data := by
  unfold update
  rw [send_write_answeringFirst, bind_map_left]
  simp only [first_firstAlone]

theorem createAll_answeringFirst (items : List FlatRecord) :
    createAll backend.answeringFirst items = createAll backend items := by
  induction items with
  | nil => rfl
  | cons data rest ih => rw [createAll, createAll, createOne_answeringFirst, ih]

theorem create_answeringFirst (data : OneOrMany FlatRecord) :
    create backend.answeringFirst data = create backend data := by
  cases data with
  | one data => rw [create, create, createOne_answeringFirst]
  | many items => rw [create, create, createAll_answeringFirst]

theorem patch_answeringFirst (id : Option String) (data : OneOrMany FlatRecord) :
    patch backend.answeringFirst id data = OneOrMany.firstAlone <$> patch backend id data := by
  unfold patch
  rw [send_write_answeringFirst, bind_map_left, map_bind]
  simp only [OneOrMany.map_firstAlone, map_pure]

end Service

/-- A call that is no patch does not tell how writes are answered. -/
theorem Call.perform_answeringFirst (backend : Backend σ) {call : Call}
    (whole : ∀ id data, call ≠ .patch id data) :
    call.perform backend.answeringFirst = call.perform backend := by
  match call with
  | .find query => rfl
  | .get id => rfl
  | .create data => exact Service.create_answeringFirst backend _
  | .patch id data => exact absurd rfl (whole id data)
  | .update id data => exact Service.update_answeringFirst backend id data.members
  | .remove id query => rfl

end TableClient
