import TableClient.Proofs.Memory.Log
/-! What requests do to the records of a table. A write changes records in place, so the ids
stay as they are, also behind a write that fails halfway. A property of fields beside the
id of their record is kept if the records sent are fit for it. -/
namespace TableClient.Memory

variable {records next written : List Record} {replaces : Bool} {id : String}

/-- A change is made to the first record with the id. -/
theorem change_ok {write : Fields → Fields} {written : Record}
    (changes : change write id records = some (written, next)) :
    ∃ front stored back, records = front ++ stored :: back ∧ stored.id = some id ∧
      (∀ record ∈ front, record.id ≠ some id) ∧
      written = { stored with fields := write stored.fields } ∧ next = front ++ written :: back := by
  induction records generalizing next with
  | nil => cases changes
  | cons record rest ih =>
    rw [change] at changes
    split at changes
    · rename_i named
      obtain ⟨rfl, rfl⟩ := Prod.mk.inj (Option.some.inj changes)
      exact ⟨[], record, rest, rfl, named, fun _ member => absurd member List.not_mem_nil, rfl, rfl⟩
    · rename_i other
      obtain ⟨⟨changed, others⟩, later, same⟩ := Option.map_eq_some_iff.mp changes
      obtain ⟨rfl, rfl⟩ := Prod.mk.inj same
      obtain ⟨front, stored, back, rfl, named, before, rfl, rfl⟩ := ih later
      have others : ∀ passed ∈ record :: front, passed.id ≠ some id := by
        intro passed member
        rcases List.mem_cons.mp member with rfl | inside
        · exact other
        · exact before passed inside
      exact ⟨record :: front, stored, back, rfl, named, others, rfl, rfl⟩

/-- Without a record of that id there is none to change. -/
theorem change_none {write : Fields → Fields} (nothing : change write id records = none) :
    some id ∉ records.map Record.id := by
  induction records with
  | nil => exact List.not_mem_nil
  | cons record rest ih =>
    rw [change] at nothing
    split at nothing
    · cases nothing
    · rename_i other
      intro member
      rcases List.mem_cons.mp member with same | later
      · exact other same.symm
      · exact ih (Option.map_eq_none_iff.mp nothing) later

/-- A write can be made exactly if a record has the id that it is for. -/
theorem change_isSome_iff (write : Fields → Fields) :
    (change write id records).isSome ↔ some id ∈ records.map Record.id := by
  constructor
  · intro made
    obtain ⟨⟨changed, next⟩, changes⟩ := Option.isSome_iff_exists.mp made
    obtain ⟨front, stored, back, rfl, named, -⟩ := change_ok changes
    exact named ▸ List.mem_map_of_mem (List.mem_append_right front List.mem_cons_self)
  · intro present
    cases outcome : change write id records with
    | none => exact absurd present (change_none outcome)
    | some made => rfl

/-- A record that cannot be written: it is for no id, or for one that no stored record has. -/
inductive Unwritable (records : List Record) (record : Record) : BackendError → Prop
  | unnamed : target? record = .error error → Unwritable records record error
  | absent : target? record = .ok name → some name ∉ records.map Record.id →
      Unwritable records record (.notFound name)

/-- The first of several writes fails, or is made in front of the others. -/
theorem writeAll_cons (replaces : Bool) (records : List Record) (record : Record)
    (rest : List Record) :
    (∃ error, Unwritable records record error ∧
      writeAll replaces records (record :: rest) = (.error error, records)) ∨
    ∃ id written next, target? record = .ok id ∧
      change (writeFields replaces record.fields) id records = some (written, next) ∧
      writeAll replaces records (record :: rest) =
        ((writeAll replaces next rest).1.map (written :: ·), (writeAll replaces next rest).2) := by
  rw [writeAll]
  split
  · rename_i error unnamed
    exact .inl ⟨error, .unnamed unnamed, rfl⟩
  · rename_i id target
    split
    · rename_i nothing
      exact .inl ⟨.notFound id, .absent target (change_none nothing), rfl⟩
    · rename_i written next changes
      refine .inr ⟨id, written, next, target, changes, ?_⟩
      cases writeAll replaces next rest with
      | mk result last => cases result <;> rfl

theorem ids_change {write : Fields → Fields} {written : Record}
    (changes : change write id records = some (written, next)) :
    next.map Record.id = records.map Record.id := by
  obtain ⟨front, stored, back, rfl, _, _, rfl, rfl⟩ := change_ok changes
  simp

/-- Writes keep the ids of all records, whether or not one of them fails. -/
theorem ids_writeAll (replaces : Bool) (records payload : List Record) :
    (writeAll replaces records payload).2.map Record.id = records.map Record.id := by
  induction payload generalizing records with
  | nil => rfl
  | cons record rest ih =>
    rcases writeAll_cons replaces records record rest with
      ⟨_, _, fails⟩ | ⟨_, _, next, _, changes, runs⟩
    · rw [fails]
    · rw [runs, ih next, ids_change changes]

def Sound (good : String → Fields → Prop) (record : Record) : Prop :=
  ∃ id, record.id = some id ∧ good id record.fields

/-- A record that can be written over good fields, or in their place. -/
def Fit (good : String → Fields → Prop) (replaces : Bool) (record : Record) : Prop :=
  ∀ id, target? record = .ok id → ∀ stored, good id stored →
    good id (writeFields replaces record.fields stored)

variable {good : String → Fields → Prop} {payload : List Record}

theorem sound_change {write : Fields → Fields} {written : Record}
    (sound : ∀ record ∈ records, Sound good record)
    (writes : ∀ stored, good id stored → good id (write stored))
    (changes : change write id records = some (written, next)) :
    Sound good written ∧ written ∈ next ∧ ∀ record ∈ next, Sound good record := by
  obtain ⟨front, stored, back, rfl, named, _, rfl, rfl⟩ := change_ok changes
  have changed : Sound good { stored with fields := write stored.fields } := by
    obtain ⟨own, same, holds⟩ := sound stored (by simp)
    obtain rfl := Option.some.inj (named.symm.trans same)
    exact ⟨id, named, writes stored.fields holds⟩
  refine ⟨changed, by simp, ?_⟩
  intro record member
  rcases List.mem_append.mp member with before | behind
  · exact sound record (by simp [before])
  · rcases List.mem_cons.mp behind with rfl | behind
    · exact changed
    · exact sound record (by simp [behind])

theorem sound_writeAll (sound : ∀ record ∈ records, Sound good record)
    (fits : ∀ record ∈ payload, Fit good replaces record) :
    ∀ record ∈ (writeAll replaces records payload).2, Sound good record := by
  induction payload generalizing records with
  | nil => exact sound
  | cons record rest ih =>
    rcases writeAll_cons replaces records record rest with
      ⟨_, _, fails⟩ | ⟨id, _, next, target, changes, runs⟩
    · rw [fails]
      exact sound
    · obtain ⟨-, -, changed⟩ := sound_change sound (fits record List.mem_cons_self id target) changes
      rw [runs]
      apply ih changed
      intro other member
      exact fits other (List.mem_cons_of_mem _ member)

/-- What a write answers is sound too, and has the id that one of the records sent is for. -/
theorem answered_writeAll (sound : ∀ record ∈ records, Sound good record)
    (fits : ∀ record ∈ payload, Fit good replaces record)
    (ends : (writeAll replaces records payload).1 = .ok written) :
    ∀ record ∈ written, Sound good record ∧ record.id ∈ records.map Record.id ∧
      ∃ source ∈ payload, (target? source).toOption = record.id := by
  induction payload generalizing records written with
  | nil =>
    obtain rfl := Except.ok.inj ends
    intro record member
    exact absurd member List.not_mem_nil
  | cons record rest ih =>
    rcases writeAll_cons replaces records record rest with
      ⟨_, _, fails⟩ | ⟨id, changed, next, target, changes, runs⟩
    · rw [fails] at ends
      cases ends
    · obtain ⟨holds, inside, sound⟩ :=
        sound_change sound (fits record List.mem_cons_self id target) changes
      rw [runs] at ends
      cases later : (writeAll replaces next rest).1 with
      | error error =>
        rw [later] at ends
        cases ends
      | ok others =>
        rw [later] at ends
        obtain rfl := Except.ok.inj ends
        -- The others are written to a changed table, which has the same ids.
        have fitsLater : ∀ other ∈ rest, Fit good replaces other := by
          intro other member
          exact fits other (List.mem_cons_of_mem _ member)
        rw [← ids_change changes]
        intro answered member
        rcases List.mem_cons.mp member with rfl | behind
        · have named : (target? record).toOption = answered.id := by
            obtain ⟨_, stored, _, _, same, _, rfl, _⟩ := change_ok changes
            rw [target, same]
            rfl
          exact ⟨holds, List.mem_map_of_mem inside, record, List.mem_cons_self, named⟩
        · obtain ⟨holds, known, source, sent, named⟩ := ih sound fitsLater later answered behind
          exact ⟨holds, known, source, List.mem_cons_of_mem _ sent, named⟩

/-- What a single write answers is in the table behind it. -/
theorem mem_writeAll_single {record : Record}
    (ends : (writeAll replaces records [record]).1 = .ok written) :
    ∀ answered ∈ written, answered ∈ (writeAll replaces records [record]).2 := by
  rcases writeAll_cons replaces records record [] with
    ⟨_, _, fails⟩ | ⟨id, changed, next, target, changes, runs⟩
  · rw [fails] at ends
    cases ends
  · rw [runs] at ends ⊢
    obtain rfl := Except.ok.inj ends
    obtain ⟨front, stored, back, _, _, _, _, rfl⟩ := change_ok changes
    intro answered member
    obtain rfl := List.mem_singleton.mp member
    exact List.mem_append_right _ List.mem_cons_self

theorem overwrite_ok {memory : Memory} {answered : OneOrMany Record}
    (ends : (memory.overwrite replaces payload).1 = .ok answered) :
    ∃ written, (writeAll replaces memory.records payload).1 = .ok written ∧
      answered = memory.shape written := by
  unfold overwrite at ends
  dsimp only at ends
  cases outcome : (writeAll replaces memory.records payload).1 with
  | error error =>
    rw [outcome] at ends
    cases ends
  | ok written =>
    rw [outcome] at ends
    exact ⟨written, rfl, (Except.ok.inj ends).symm⟩

theorem mem_newRecords {newId : Nat → String} {count : Nat}
    (member : record ∈ newRecords newId count payload) :
    ∃ source ∈ payload, ∃ id, record = ⟨some id, source.fields⟩ := by
  induction payload generalizing count with
  | nil => cases member
  | cons source rest ih =>
    rcases List.mem_cons.mp member with rfl | later
    · exact ⟨source, List.mem_cons_self, newId count, rfl⟩
    · obtain ⟨other, inside, id, same⟩ := ih later
      exact ⟨other, List.mem_cons_of_mem _ inside, id, same⟩

theorem mem_of_mem_shape {memory : Memory} {answer : Record}
    (member : answer ∈ (memory.shape records).toList) : answer ∈ records := by
  cases records with
  | nil => exact member
  | cons record rest =>
    rw [shape] at member
    split at member
    · obtain rfl := List.mem_singleton.mp member
      exact List.mem_cons_self
    · exact member

@[simp] theorem backend_call (newId : Nat → String) : (backend newId).call = call newId := rfl

@[simp] theorem backend_deleteAll (newId : Nat → String) :
    (backend newId).deleteAll = deleteAll newId := rfl

/-- A request meets a failure set for its kind, or is answered from the table. -/
theorem call_cases (newId : Nat → String) (request : Request) (memory : Memory) :
    (∃ error, call newId request memory = (.error error, (memory.start request).finish)) ∨
    call newId request memory = answer newId (memory.start request).finish request := by
  unfold call complete
  dsimp only
  split
  · rename_i error _
    exact .inl ⟨error, rfl⟩
  · exact .inr rfl

theorem call_query (newId : Nat → String) (params : Params) (memory : Memory) :
    call newId (.query params) memory =
      (match memory.failure? .query with
        | some error => .error error
        | none => .ok (memory.listed params), (memory.start (.query params)).finish) := by
  unfold call complete
  have failure : ((memory.start (.query params)).finish.failure? (Request.query params).kind) =
      memory.failure? .query := rfl
  dsimp only
  rw [failure]
  cases memory.failure? .query with
  | some error => rfl
  | none => rfl

def Accepts (good : String → Fields → Prop) : Request → Prop
  | .write .post payload => ∀ record ∈ payload, ∀ id, good id record.fields
  | .write .patch payload => ∀ record ∈ payload, Fit good false record
  | .write .put payload => ∀ record ∈ payload, Fit good true record
  | .query _ | .fetch _ | .delete _ => True

def AllSound (good : String → Fields → Prop) (memory : Memory) : Prop :=
  ∀ record ∈ memory.records, Sound good record

theorem allSound_delete {memory : Memory} (sound : AllSound good memory) (id : String) :
    AllSound good (memory.delete id).2 := by
  unfold delete
  dsimp only
  split
  · exact sound
  · intro record member
    exact sound record (List.mem_filter.mp member).1

theorem allSound_answer {memory : Memory} {request : Request} (newId : Nat → String)
    (accepts : Accepts good request) (sound : AllSound good memory) :
    AllSound good (answer newId memory request).2 := by
  match request with
  | .query _ => exact sound
  | .fetch id =>
    simp only [answer]
    split
    · exact sound
    · exact sound
  | .delete id => exact allSound_delete sound id
  | .write .post payload =>
    intro record member
    rcases List.mem_append.mp member with old | new
    · exact sound record old
    · obtain ⟨source, inside, id, rfl⟩ := mem_newRecords new
      exact ⟨id, rfl, accepts source inside id⟩
  | .write .patch payload | .write .put payload => exact sound_writeAll sound accepts

theorem allSound_call {memory : Memory} {request : Request} (newId : Nat → String)
    (accepts : Accepts good request) (sound : AllSound good memory) :
    AllSound good (call newId request memory).2 := by
  rcases call_cases newId request memory with ⟨error, fails⟩ | runs
  · rw [fails]
    exact sound
  · have started : AllSound good (memory.start request).finish := sound
    rw [runs]
    exact allSound_answer newId accepts started

def Stored (good : String → Fields → Prop) (record : Record) (records : List Record) : Prop :=
  Sound good record ∧ record ∈ records

/-- Sound, and with the id of a record of the table that one of the records sent is for. -/
def Targeted (good : String → Fields → Prop) (payload : List Record) (record : Record)
    (records : List Record) : Prop :=
  Sound good record ∧ record.id ∈ records.map Record.id ∧
    ∃ source ∈ payload, (target? source).toOption = record.id

variable {newId : Nat → String} {request : Request}

/-- A request answers with what it answers from the table, or with a failure. -/
theorem keeps_of_answer {fit : Record → List Record → Prop} (accepts : Accepts good request)
    (answers : ∀ memory answered, AllSound good memory →
      (answer newId memory request).1 = .ok answered → ∀ record ∈ request.answered answered,
        fit record (answer newId memory request).2.records)
    (earlier : ∀ records added record, fit record records → fit record (records ++ added)) :
    (backend newId).Keeps (AllSound good) (fun record memory => fit record memory.records)
      request := by
  constructor
  · intro memory sound
    exact allSound_call newId accepts sound
  · intro memory sound answered ends
    rcases call_cases newId request memory with ⟨error, fails⟩ | runs
    · rw [backend_call, fails] at ends
      cases ends
    · rw [backend_call, runs] at ends ⊢
      exact answers _ answered sound ends
  · rintro payload rfl memory record sound holds
    rcases call_cases newId (.write .post payload) memory with ⟨error, fails⟩ | runs
    · rw [backend_call, fails]
      exact holds
    · rw [backend_call, runs]
      exact earlier _ _ record holds

/-- What is in a table behind a request is sound because the table is. -/
theorem keeps_stored (accepts : Accepts good request)
    (answers : ∀ memory answered, (answer newId memory request).1 = .ok answered →
      ∀ record ∈ request.answered answered, record ∈ (answer newId memory request).2.records) :
    (backend newId).Keeps (AllSound good) (fun record memory => Stored good record memory.records)
      request := by
  apply keeps_of_answer accepts
  · intro memory answered sound ends record member
    have inside := answers memory answered ends record member
    exact ⟨allSound_answer newId accepts sound record inside, inside⟩
  · intro records added record stored
    exact ⟨stored.1, List.mem_append_left _ stored.2⟩

theorem mem_of_mem_listed {memory : Memory} {params : Params} {record : Record}
    (member : record ∈ memory.listed params) : record ∈ memory.records := by
  unfold listed at member
  split at member
  · exact List.mem_of_mem_take member
  · exact member

theorem keeps_query (params : Params) :
    (backend newId).Keeps (AllSound good) (fun record memory => Stored good record memory.records)
      (.query params) := by
  have accepts : Accepts good (.query params) := trivial
  apply keeps_stored accepts
  intro memory answered ends record member
  obtain rfl := Except.ok.inj ends
  exact mem_of_mem_listed member

theorem keeps_fetch (id : String) :
    (backend newId).Keeps (AllSound good) (fun record memory => Stored good record memory.records)
      (.fetch id) := by
  have accepts : Accepts good (.fetch id) := trivial
  apply keeps_stored accepts
  intro memory answered ends record member
  simp only [answer] at ends ⊢
  split at ends
  · rename_i found
    obtain rfl := Except.ok.inj ends
    obtain rfl := List.mem_singleton.mp member
    exact List.mem_of_find?_eq_some found
  · cases ends

theorem keeps_delete (id : String) :
    (backend newId).Keeps (AllSound good) (fun record memory => Stored good record memory.records)
      (.delete id) := by
  have accepts : Accepts good (.delete id) := trivial
  apply keeps_stored accepts
  intro memory answered ends record member
  exact absurd member List.not_mem_nil

theorem keeps_post (accepts : Accepts good (.write .post payload)) :
    (backend newId).Keeps (AllSound good) (fun record memory => Stored good record memory.records)
      (.write .post payload) := by
  apply keeps_stored accepts
  intro memory answered ends record member
  obtain rfl := Except.ok.inj ends
  exact List.mem_append_right memory.records (mem_of_mem_shape member)

theorem keeps_put {record : Record} (accepts : Accepts good (.write .put [record])) :
    (backend newId).Keeps (AllSound good) (fun record memory => Stored good record memory.records)
      (.write .put [record]) := by
  apply keeps_stored accepts
  intro memory answered ends written member
  obtain ⟨changed, writes, rfl⟩ := overwrite_ok ends
  exact mem_writeAll_single writes written (mem_of_mem_shape member)

theorem keeps_patch (accepts : Accepts good (.write .patch payload)) :
    (backend newId).Keeps (AllSound good)
      (fun record memory => Targeted good payload record memory.records)
      (.write .patch payload) := by
  apply keeps_of_answer accepts
  · intro memory answered sound ends written member
    obtain ⟨changed, writes, rfl⟩ := overwrite_ok ends
    obtain ⟨holds, known, sent⟩ :=
      answered_writeAll sound accepts writes written (mem_of_mem_shape member)
    rw [← ids_writeAll false memory.records payload] at known
    exact ⟨holds, known, sent⟩
  · rintro records added record ⟨holds, known, sent⟩
    rw [Targeted, List.map_append]
    exact ⟨holds, List.mem_append_left _ known, sent⟩

theorem allSound_deleteAll (newId : Nat → String) (ids : List String) (memory : Memory)
    (sound : AllSound good memory) : AllSound good (deleteAll newId ids memory).2 := by
  unfold deleteAll
  split
  · have started : AllSound good (memory.startAll ids) := by
      obtain ⟨peak, changed⟩ := startAll_changes memory ids
      rw [changed]
      exact sound
    apply Backend.deleteInTurn_keeps (AllSound good) _ ids started
    intro id memory sound
    have ended : AllSound good memory.finish := sound
    unfold complete
    dsimp only
    split
    · exact sound
    · exact allSound_delete ended id
  · apply Backend.deleteInTurn_keeps (AllSound good) _ ids sound
    intro id memory sound
    have accepts : Accepts good (.delete id) := trivial
    exact allSound_call newId accepts sound

end TableClient.Memory
