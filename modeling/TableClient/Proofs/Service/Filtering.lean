import TableClient.Proofs.Formula.Reading
import TableClient.Proofs.Formula.Refusal
import TableClient.Proofs.Query.Directives
import TableClient.Proofs.Query.Params
import TableClient.Proofs.Service.Exchanges
import TableClient.Proofs.Service.Listing
/-! Which requests run without a filter. A condition that is compiled has a formula with some text,
so a formula is left out of a request only where the query asks for nothing: it has no list of
alternatives, and its predicates are empty objects and empty lists. -/
namespace TableClient

namespace Condition

/-- A condition that is compiled from a query; a text that is no query may be empty. -/
def Compiled (condition : Condition Json) : Prop := ∀ text, condition ≠ .verbatim text

theorem Compiled.formula_ne_empty {condition : Condition Json} (compiled : condition.Compiled) :
    condition.formula ≠ "" := by
  intro empty
  have length := congrArg String.length empty
  cases condition with
  | verbatim text => exact compiled text rfl
  | equals field operand | compares field comparison operand | holds field operand =>
    simp [formula, braced, quoted] at length
  | negation condition | allOf conditions | anyOf conditions => simp [formula] at length

theorem compiled_conjunction {conditions : List (Condition Json)} {condition : Condition Json}
    (compiled : ∀ each ∈ conditions, each.Compiled) (joined : conjunction conditions = some condition) :
    condition.Compiled := by
  match conditions with
  | [single] =>
    obtain rfl := Option.some.inj joined
    exact compiled single List.mem_cons_self
  | first :: second :: rest =>
    obtain rfl := Option.some.inj joined
    intro text same
    cases same

end Condition

namespace Filter

theorem compiled_entry {entry : Entry} {condition : Condition Json}
    (compiled : entry.condition? = .ok condition) : condition.Compiled := by
  intro text verbatim
  subst verbatim
  cases entry with
  | operator field symbol operand =>
    rw [Entry.condition?] at compiled
    split at compiled
    · cases compiled
    · rename_i operator _
      cases operator <;> cases compiled
  | position field => cases compiled
  | literal field value => cases compiled

theorem compiled_entries {entries : List Entry} {conditions : List (Condition Json)}
    (compiled : entries.mapM Entry.condition? = .ok conditions) :
    ∀ condition ∈ conditions, condition.Compiled := by
  induction entries generalizing conditions with
  | nil =>
    obtain rfl := Except.ok.inj compiled
    simp
  | cons entry rest ih =>
    rw [List.mapM_cons] at compiled
    obtain ⟨first, head, compiled⟩ := parts_of_bind compiled
    obtain ⟨others, later, same⟩ := parts_of_bind compiled
    obtain rfl := Except.ok.inj same
    intro condition member
    rcases List.mem_cons.mp member with rfl | inside
    · exact compiled_entry head
    · exact ih later condition inside

/-- A query compiles to an empty text exactly if it asks for nothing. -/
theorem formula_eq_empty_iff {query : Query} {text : String} (compiled : formula query = .ok text) :
    text = "" ↔ Silent query := by
  obtain ⟨outcome, asked, rfl⟩ := part_of_map compiled
  rw [← condition?_eq_none_iff, asked]
  cases outcome with
  | none => simp
  | some condition =>
    have written : condition.Compiled := by
      rcases ofParts_ok asked with
        ⟨_, conditions, _, _, same⟩ | ⟨conditions, _, members, same⟩
      · obtain rfl := Option.some.inj same
        intro text verbatim
        cases verbatim
      · rw [ofMembers_eq] at members
        exact Condition.compiled_conjunction (compiled_entries members) same.symm
    simpa using written.formula_ne_empty

end Filter

namespace Listing

/-- A query that asks for all records: it has no list of alternatives, and apart from directives
nothing stands in it but empty objects and empty lists. -/
def Unfiltered (query : Query) : Prop :=
  Filter.Unlisted query ∧ ∀ member ∈ query, member.1 ∈ directiveKeys ∨
    member.1 = Filter.alternativesKey ∨ member.2 = .object [] ∨ member.2 = .array []

theorem unlisted_predicates_iff (query : Query) :
    Filter.Unlisted (predicates query) ↔ Filter.Unlisted query := by
  unfold Filter.Unlisted
  rw [get?_predicates (by decide)]

theorem silent_predicates_iff (query : Query) :
    Filter.Silent (predicates query) ↔ Unfiltered query := by
  have each (member : String × Json) : member ∈ predicates query ↔
      member ∈ query ∧ member.1 ∉ directiveKeys := by
    simp [predicates]
  unfold Filter.Silent Unfiltered
  rw [unlisted_predicates_iff]
  constructor
  · rintro ⟨unlisted, silent⟩
    refine ⟨unlisted, fun member inside => ?_⟩
    by_cases directive : member.1 ∈ directiveKeys
    · exact .inl directive
    · exact .inr (silent member ((each member).mpr ⟨inside, directive⟩))
  · rintro ⟨unlisted, silent⟩
    refine ⟨unlisted, fun member inside => ?_⟩
    obtain ⟨stands, predicate⟩ := (each member).mp inside
    exact (silent member stands).resolve_left predicate

end Listing

/-- Deletes in turn note nothing but deletes of the ids they are given. -/
theorem Backend.noted_deleteInTurn
    (answers : (request : Request) → σ → Except BackendError request.Answer × σ)
    (ids : List String) (state : σ) (noted : List Exchange) :
    ∃ sent, (deleteInTurn (noting answers) ids (state, noted)).2.2 = noted ++ sent ∧
      ∀ exchange ∈ sent, ∃ id ∈ ids, exchange.request = .delete id := by
  induction ids generalizing state noted with
  | nil => exact ⟨[], by simp [deleteInTurn], by simp⟩
  | cons id rest ih =>
    have first (result : Except BackendError Json) (next : σ × List Exchange)
        (outcome : noting answers (.delete id) (state, noted) = (result, next)) :
        next.2 = noted ++ [⟨.delete id, (answers (.delete id) state).1⟩] := by
      rw [← (Prod.mk.inj outcome).2]
    rcases deleteInTurn_cons (noting answers) id rest (state, noted) with
      ⟨error, next, outcome, fails⟩ | ⟨answered, next, outcome, runs⟩
    · refine ⟨_, by rw [fails, first _ _ outcome], ?_⟩
      simp
    · obtain ⟨sent, behind, each⟩ := ih next.1 next.2
      refine ⟨⟨.delete id, (answers (.delete id) state).1⟩ :: sent, ?_, ?_⟩
      · rw [runs]
        dsimp only
        rw [behind, first _ _ outcome]
        simp
      · intro exchange member
        rcases List.mem_cons.mp member with rfl | later
        · exact ⟨id, List.mem_cons_self, rfl⟩
        · obtain ⟨other, inside, same⟩ := each exchange later
          exact ⟨other, List.mem_cons_of_mem _ inside, same⟩

namespace Service

variable {answers : (request : Request) → σ → Except BackendError request.Answer × σ}

/-- What a search sends. -/
theorem noted_find {query : Query} {listing : Listing} (asked : Listing.ofQuery query = .ok listing)
    (state : σ) :
    let request := Request.query listing.selection.params
    (run (find (.immediate (Backend.noting answers)) query) (state, [])).2.2 =
      [⟨request, (answers request state).1⟩] := by
  dsimp only
  rw [run_find asked]
  dsimp only [Backend.immediate, Backend.noting]
  cases (answers (.query listing.selection.params) state).1 with
  | error failure => rfl
  | ok records => rfl

/-- What a removal without an id sends: a list request, and deletes by ids that the answer shows. -/
theorem noted_removeAll {query : Query} {listing : Listing}
    (asked : Listing.ofQuery query = .ok listing) (state : σ) :
    let request := Request.query listing.selection.params
    ∃ deletes, (run (removeAll (.immediate (Backend.noting answers)) query) (state, [])).2.2 =
        ⟨request, (answers request state).1⟩ :: deletes ∧
      ∀ exchange ∈ deletes, ∃ records, (answers request state).1 = .ok records ∧
        ∃ record ∈ records, ∃ id, Members.get? record.flat idKey = some (.string id) ∧
          exchange.request = .delete id := by
  dsimp only
  rw [removeAll_eq _ asked, run_send_noting]
  cases (answers (.query listing.selection.params) state).1 with
  | error failure => exact ⟨[], rfl, by simp⟩
  | ok records =>
    dsimp only
    cases readable : listedIds ((records.drop listing.skip.toNat).map Record.flat) with
    | error error => exact ⟨[], rfl, by simp⟩
    | ok ids =>
      dsimp only
      rw [run_bind_pure, run_perform]
      obtain ⟨sent, noted, each⟩ := Backend.noted_deleteInTurn answers ids
        (answers (.query listing.selection.params) state).2
        ([] ++ [⟨.query listing.selection.params, .ok records⟩])
      refine ⟨sent, ?_, ?_⟩
      · rw [List.nil_append] at noted
        rw [List.nil_append]
        dsimp only [Backend.immediate]
        cases outcome : Backend.deleteInTurn (Backend.noting answers) ids
            ((answers (.query listing.selection.params) state).2,
              [⟨.query listing.selection.params, .ok records⟩]) with
        | mk result last =>
          rw [outcome] at noted
          cases result <;> exact noted
      · intro exchange member
        obtain ⟨id, inside, same⟩ := each exchange member
        obtain ⟨flat, shown, named⟩ := shown_of_listedIds readable inside
        obtain ⟨record, listed, rfl⟩ := List.mem_map.mp shown
        exact ⟨records, rfl, record, List.mem_of_mem_drop listed, id, named, same⟩

end Service

namespace Listing

/-- A request carries no formula exactly if its query asks for all records. In every other case it
carries the formula of the predicates, which is not empty. This is the request that a search sends,
and the one whose answer a removal without an id deletes from. -/
theorem runs_unfiltered_iff {query : Query} {listing : Listing} (asked : ofQuery query = .ok listing) :
    let params := listing.selection.params
    (Members.get? params Selection.formulaKey = none ↔ Unfiltered query) ∧
    (¬ Unfiltered query → ∃ text, text ≠ "" ∧ Filter.formula (predicates query) = .ok text ∧
      Members.get? params Selection.formulaKey = some (.string text)) ∧
    ∀ (σ : Type) (answers : (request : Request) → σ → Except BackendError request.Answer × σ)
      (state : σ),
      let noting := Backend.immediate (Backend.noting answers)
      let listed : Exchange := ⟨.query params, (answers (.query params) state).1⟩
      (Service.run (Service.find noting query) (state, [])).2.2 = [listed] ∧
      ∀ name, nonEmptyId? name = none →
        ∃ deletes, (Service.run (Service.remove noting name query) (state, [])).2.2 =
            listed :: deletes ∧
          ∀ exchange ∈ deletes, ∃ records, (answers (.query params) state).1 = .ok records ∧
            ∃ record ∈ records, ∃ id, Members.get? record.flat idKey = some (.string id) ∧
              exchange.request = .delete id := by
  intro params
  obtain ⟨text, compiled, formula, -⟩ := ofQuery_ok asked
  have silent : text = "" ↔ Unfiltered query :=
    (Filter.formula_eq_empty_iff compiled).trans (silent_predicates_iff query)
  have found : Members.get? params Selection.formulaKey =
      if text = "" then none else some (.string text) := by
    rw [Selection.get?_formulaKey, formula, nonEmptyFormula]
    by_cases empty : text = ""
    · simp [empty]
    · simp [empty, Option.filter_some]
  refine ⟨?_, ?_, ?_⟩
  · rw [found, ← silent]
    simp
  · intro filtered
    have written : text ≠ "" := fun empty => filtered (silent.mp empty)
    exact ⟨text, written, compiled, by rw [found, if_neg written]⟩
  · intro σ answers state noting listed
    refine ⟨Service.noted_find asked state, fun name absent => ?_⟩
    rw [Service.remove_of_absent noting absent query, Service.run_remove]
    exact Service.noted_removeAll asked state

/-- Empty objects and lists beside a text under the key of the alternatives ask for nothing, and an
empty list of alternatives asks for something. -/
theorem runs_unfiltered_iff_empty :
    let silent : Query :=
      [("$limit", .number (.integer 2)), ("tags", .object []), ("$or", .string "x"), ("n", .array [])]
    let filtered : Query := [("tags", .object []), ("$or", .array [])]
    (∃ listing, ofQuery silent = .ok listing ∧
      Members.get? listing.selection.params Selection.formulaKey = none) ∧
    ∃ listing, ofQuery filtered = .ok listing ∧
      Members.get? listing.selection.params Selection.formulaKey = some (.string "OR()") := by
  intro silent filtered
  have asksAll : Unfiltered silent := by
    refine ⟨by simp [Filter.Unlisted, silent, Members.get?, Filter.alternativesKey], ?_⟩
    simp [silent, directiveKeys, Filter.alternativesKey]
  have asksSome : ¬ Unfiltered filtered := by
    rintro ⟨unlisted, -⟩
    exact unlisted [] rfl
  have first : ofQuery silent = .ok ⟨⟨none, none, none, some 2⟩, 0⟩ := by rfl
  have second : ofQuery filtered = .ok ⟨⟨some "OR()", none, none, none⟩, 0⟩ := by rfl
  have written : Filter.formula (predicates filtered) = .ok "OR()" := by rfl
  refine ⟨⟨_, first, (runs_unfiltered_iff first).1.mpr asksAll⟩, ⟨_, second, ?_⟩⟩
  obtain ⟨text, -, compiled, sent⟩ := (runs_unfiltered_iff second).2.1 asksSome
  obtain rfl : "OR()" = text := Except.ok.inj (written.symm.trans compiled)
  exact sent

end Listing
end TableClient
