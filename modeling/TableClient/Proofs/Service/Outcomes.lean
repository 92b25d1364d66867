import TableClient.Proofs.Service.Listing
import TableClient.Proofs.Wire
/-! How the outcome of a removal is read back. A confirmed removal is written in a form of its own
and is read back as it is. Any other answer is written unchanged, and what it is read back as is
told by that form: an answer that has it is read as a removal with the id and the flag of the
answer, and only an answer without it is read back as it is. -/
namespace TableClient

namespace Json.Source

theorem filter_ofMembers_of_absent {members : Members Json} (absent : key ∉ Members.keys members) :
    (ofMembers members).filter (fun (name, _) => name = key) = [] := by
  induction members with
  | nil => rfl
  | cons member rest ih =>
    obtain ⟨first, value⟩ := member
    obtain ⟨different, behind⟩ := List.ne_and_not_mem_of_not_mem_cons absent
    rw [ofMembers, List.filter_cons_of_neg (by simpa using different.symm), ih behind]

/-- Where no key repeats, a part that must be there is the value of its key. -/
theorem required?_ofMembers {members : Members Json} (distinct : Members.Distinct members)
    (key : String) :
    required? (ofMembers members) key = (Members.get? members key).map ofJson := by
  induction members with
  | nil => rfl
  | cons member rest ih =>
    obtain ⟨first, value⟩ := member
    obtain ⟨absent, distinct⟩ := List.nodup_cons.mp distinct
    by_cases same : first = key
    · subst same
      have alone := filter_ofMembers_of_absent absent
      simp [required?, once?, ofMembers, Members.get?, alone]
    · have behind := ih distinct
      simpa [required?, once?, ofMembers, Members.get?, same] using behind

theorem string?_ofJson (json : Json) : (ofJson json).string? = json.string? := by
  cases json <;> rfl

theorem bool?_ofJson_eq_some {json : Json} {flag : Bool} :
    (ofJson json).bool? = some flag ↔ json = .bool flag := by
  cases json <;> simp [ofJson, bool?]

end Json.Source

open Json (Source)

namespace Removal

def Confirmed (answer : Json) : Prop :=
  ∃ members value, answer = .object members ∧ Members.get? members "deleted" = some value ∧
    value.isTruthy

/-- A value in the form of a confirmed removal, with an id and a flag. -/
inductive Formed : Json → String → Bool → Prop
  | object : Members.get? members "id" = some (.string name) →
      Members.get? members "deleted" = some (.bool flag) → Formed (.object members) name flag
  | array : Formed (.array [.string name, .bool flag]) name flag

variable {answer : Json} {removal : Removal}

theorem deletedOfParts?_ofJson_iff {first second : Json} :
    deletedOfParts? (.ofJson first) (.ofJson second) = some removal ↔
      ∃ name flag, first = .string name ∧ second = .bool flag ∧ removal = .deleted name flag := by
  unfold deletedOfParts?
  simp only [Option.bind_eq_bind, Option.bind_eq_some_iff, Source.string?_ofJson,
    Source.bool?_ofJson_eq_some, Json.string?_eq_some]
  constructor
  · rintro ⟨name, rfl, flag, rfl, same⟩
    exact ⟨name, flag, rfl, rfl, (Option.some.inj same).symm⟩
  · rintro ⟨name, flag, rfl, rfl, rfl⟩
    exact ⟨name, rfl, flag, rfl, rfl⟩

/-- What is read as a removal with an id and a flag is what has the form of one. -/
theorem deletedOfSource?_ofJson_iff (distinct : answer.DistinctKeys) :
    deletedOfSource? (.ofJson answer) = some removal ↔
      ∃ name flag, Formed answer name flag ∧ removal = .deleted name flag := by
  match answer with
  | .object members =>
    rw [Source.ofJson, deletedOfSource?, Source.required?_ofMembers distinct.1,
      Source.required?_ofMembers distinct.1]
    simp only [Option.bind_eq_bind, Option.bind_eq_some_iff, Option.map_eq_some_iff]
    constructor
    · rintro ⟨_, ⟨first, named, rfl⟩, _, ⟨second, flagged, rfl⟩, read⟩
      obtain ⟨name, flag, rfl, rfl, same⟩ := deletedOfParts?_ofJson_iff.mp read
      exact ⟨name, flag, .object named flagged, same⟩
    · rintro ⟨name, flag, ⟨named, flagged⟩, rfl⟩
      exact ⟨_, ⟨_, named, rfl⟩, _, ⟨_, flagged, rfl⟩, rfl⟩
  | .array [first, second] =>
    refine Iff.trans deletedOfParts?_ofJson_iff ?_
    constructor
    · rintro ⟨name, flag, rfl, rfl, same⟩
      exact ⟨name, flag, .array, same⟩
    · rintro ⟨name, flag, ⟨⟩, same⟩
      exact ⟨name, flag, rfl, rfl, same⟩
  | .array [] | .array [_] | .array (_ :: _ :: _ :: _) | .null | .bool _ | .number _ | .string _ =>
    refine iff_of_false nofun ?_
    rintro ⟨_, _, ⟨⟩, _⟩

theorem ofSource?_ofJson_of_formed (distinct : answer.DistinctKeys)
    (formed : Formed answer name flag) : ofSource? (.ofJson answer) = some (.deleted name flag) := by
  have read := (deletedOfSource?_ofJson_iff distinct).mpr ⟨name, flag, formed, rfl⟩
  rw [ofSource?, Source.value?_ofJson answer distinct, read]
  rfl

theorem ofSource?_ofJson_of_not_formed (distinct : answer.DistinctKeys)
    (unformed : ∀ name flag, ¬ Formed answer name flag) :
    ofSource? (.ofJson answer) = some (.passthrough answer) := by
  have unread : deletedOfSource? (.ofJson answer) = none := by
    rw [Option.eq_none_iff_forall_ne_some]
    intro removal read
    obtain ⟨name, flag, formed, -⟩ := (deletedOfSource?_ofJson_iff distinct).mp read
    exact unformed name flag formed
  rw [ofSource?, Source.value?_ofJson answer distinct, unread]
  rfl

theorem ofSource?_toJson_deleted (name : String) (flag : Bool) :
    ofSource? (.ofJson (toJson (.deleted name flag))) = some (.deleted name flag) :=
  ofSource?_ofJson_of_formed ⟨by simp [Members.Distinct, Members.keys], trivial, trivial, trivial⟩
    (.object rfl rfl)

theorem ofAnswer_of_confirmed (confirmed : Confirmed answer) (id : String) :
    ofAnswer id answer = .deleted id true := by
  obtain ⟨members, value, rfl, held, yes⟩ := confirmed
  simp [ofAnswer, Json.object?, held, yes]

theorem ofAnswer_of_not_confirmed (unconfirmed : ¬ Confirmed answer) (id : String) :
    ofAnswer id answer = .passthrough answer := by
  match answer with
  | .object members =>
    cases held : Members.get? members "deleted" with
    | none => simp [ofAnswer, Json.object?, held]
    | some value =>
      have no : ¬ value.isTruthy := fun yes => unconfirmed ⟨members, value, rfl, held, yes⟩
      simp [ofAnswer, Json.object?, held, no]
  | .null | .bool _ | .number _ | .string _ | .array _ => rfl

end Removal

namespace Service

open Removal

/-- A removal for an id is confirmed or is the answer of the backend, unchanged. The first is read
back as it is. The second is read back as it is exactly if it has not the form of the first; if it
has, it is read as a removal with the id and the flag in it. -/
theorem outcome_reads_back_iff {backend : Backend σ} {id : String} {answer : Json} {state next : σ}
    (named : id ≠ "") (answered : backend.call (.delete id) state = (.ok answer, next))
    (distinct : answer.DistinctKeys) (query : Query) :
    ∃ removal, run (remove backend (some id) query) state = (.ok (.one removal), next) ∧
      (Confirmed answer → removal = .deleted id true) ∧
      (¬ Confirmed answer → removal = .passthrough answer) ∧
      (ofSource? (.ofJson removal.toJson) = some removal ↔
        Confirmed answer ∨ ∀ name flag, ¬ Formed answer name flag) ∧
      ∀ name flag, ¬ Confirmed answer → Formed answer name flag →
        ofSource? (.ofJson removal.toJson) = some (.deleted name flag) := by
  have runs := run_remove_named backend named query state
  rw [answered] at runs
  refine ⟨ofAnswer id answer, runs, (ofAnswer_of_confirmed · id), (ofAnswer_of_not_confirmed · id), ?_⟩
  by_cases confirmed : Confirmed answer
  · rw [ofAnswer_of_confirmed confirmed]
    exact ⟨iff_of_true (ofSource?_toJson_deleted id true) (.inl confirmed),
      fun _ _ unconfirmed => absurd confirmed unconfirmed⟩
  · rw [ofAnswer_of_not_confirmed confirmed, or_iff_right confirmed, toJson]
    refine ⟨⟨fun back name flag formed => ?_, ofSource?_ofJson_of_not_formed distinct⟩,
      fun name flag _ => ofSource?_ofJson_of_formed distinct⟩
    rw [ofSource?_ofJson_of_formed distinct formed] at back
    cases back

def answering (answer : Json) : Backend Unit :=
  .immediate fun request state =>
    match request with
    | .query _ => (.ok [], state)
    | .fetch id => (.error (.notFound id), state)
    | .delete _ => (.ok answer, state)
    | .write _ _ => (.ok (.many []), state)

/-- A number as the flag tells an answer from a removal. -/
theorem outcome_reads_back_iff_number :
    let answer : Json := .object [("id", .string "r9"), ("deleted", .number (.integer 0))]
    answer.DistinctKeys ∧ ∃ removal,
      run (remove (answering answer) (some "r9") []) () = (.ok (.one removal), ()) ∧
      removal = .passthrough answer ∧ ofSource? (.ofJson removal.toJson) = some removal := by
  intro answer
  have distinct : answer.DistinctKeys := by
    simp [answer, Json.DistinctKeys, Json.DistinctKeysMembers, Members.Distinct, Members.keys]
  have unconfirmed : ¬ Confirmed answer := by
    rintro ⟨members, value, object, held, yes⟩
    obtain rfl := Json.object.inj object
    obtain rfl := Option.some.inj held
    cases yes
  have unformed : ∀ name flag, ¬ Formed answer name flag := by
    intro name flag formed
    dsimp only [answer] at formed
    cases formed with
    | object _ flagged => cases flagged
  have answered : (answering answer).call (.delete "r9") () = (.ok answer, ()) := rfl
  obtain ⟨removal, runs, -, unchanged, reads, -⟩ :=
    outcome_reads_back_iff (by decide) answered distinct []
  exact ⟨distinct, removal, runs, unchanged unconfirmed, reads.mpr (.inr unformed)⟩

/-- A deletion that was refused is read back as a removal, and so is a list, even as a confirmed
one of another record. -/
theorem outcome_read_as_removal :
    let refused : Json := .object [("id", .string "r9"), ("deleted", .bool false)]
    let pair : Json := .array [.string "x", .bool true]
    run (remove (answering refused) (some "r9") []) () = (.ok (.one (.passthrough refused)), ()) ∧
      ofSource? (.ofJson (toJson (.passthrough refused))) = some (.deleted "r9" false) ∧
      run (remove (answering pair) (some "r9") []) () = (.ok (.one (.passthrough pair)), ()) ∧
      ofSource? (.ofJson (toJson (.passthrough pair))) = some (.deleted "x" true) :=
  ⟨rfl, rfl, rfl, rfl⟩

end Service
end TableClient
