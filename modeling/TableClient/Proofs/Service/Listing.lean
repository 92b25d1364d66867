import TableClient.Proofs.Query.Directives
import TableClient.Proofs.Service.Triple
/-! What a search and a removal come to over any backend: one list request, and what is done
about its answer. A removal without an id needs a text as the id of each record listed. -/
namespace TableClient

/-- The parts of a listing, each from its own members of the query. -/
theorem Listing.ofQuery_ok {query : Query} {listing : Listing} (asked : ofQuery query = .ok listing) :
    ∃ text, Filter.formula (predicates query) = .ok text ∧
      listing.selection.formula = nonEmptyFormula text ∧
      listing.selection.maxRecords =
        ceiling (count (Members.get? query "$limit")) (count (Members.get? query "$skip")) ∧
      listing.skip = (count (Members.get? query "$skip")).getD 0 := by
  obtain ⟨text, compiled, rfl⟩ := ofFormula_of_ok asked
  exact ⟨text, compiled, rfl, rfl, rfl⟩

namespace Service

theorem run_find {backend : Backend σ} {query : Query} {listing : Listing}
    (asked : Listing.ofQuery query = .ok listing) (state : σ) :
    run (find backend query) state =
      match backend.call (.query listing.selection.params) state with
      | (.ok records, next) => (.ok ((records.map Record.flat).drop listing.skip.toNat), next)
      | (.error error, next) => (.error (.backend error), next) := by
  unfold find
  rw [asked]
  dsimp only
  rw [run_bind, send, run_perform]
  cases backend.call (.query listing.selection.params) state with
  | mk result next => cases result <;> rfl

theorem removeAll_eq (backend : Backend σ) {query : Query} {listing : Listing}
    (asked : Listing.ofQuery query = .ok listing) :
    removeAll backend query = send backend (.query listing.selection.params) >>= fun records =>
      match listedIds ((records.drop listing.skip.toNat).map Record.flat) with
      | .error error => raise (.backend error)
      | .ok ids => do
        let answers ← perform (backend.deleteAll ids)
        return List.zipWith Removal.ofAnswer ids answers := by
  unfold removeAll find
  rw [asked]
  dsimp only
  rw [bind_assoc]
  congr 1
  funext records
  rw [List.map_drop]
  exact pure_bind _ _

theorem run_remove (backend : Backend σ) (query : Query) (state : σ) :
    let removal := run (removeAll backend query) state
    run (remove backend none query) state = (removal.1.map .many, removal.2) := by
  exact run_bind_pure (removeAll backend query) OneOrMany.many state

theorem remove_of_absent (backend : Backend σ) {name : Option String}
    (absent : nonEmptyId? name = none) (query : Query) :
    remove backend name query = remove backend none query := by
  unfold remove
  rw [absent]
  rfl

theorem run_remove_named (backend : Backend σ) {id : String} (named : id ≠ "") (query : Query)
    (state : σ) :
    run (remove backend (some id) query) state =
      match backend.call (.delete id) state with
      | (.ok answer, next) => (.ok (.one (Removal.ofAnswer id answer)), next)
      | (.error error, next) => (.error (.backend error), next) := by
  unfold remove removeOne
  rw [nonEmptyId?_some named]
  dsimp only
  rw [run_bind, run_bind, send, run_perform]
  cases backend.call (.delete id) state with
  | mk result next => cases result <;> rfl

theorem run_removeAll_refused {backend : Backend σ} {query : Query} {error : InvalidOperator}
    (refused : Listing.ofQuery query = .error error) (state : σ) :
    run (removeAll backend query) state = (.error (.query error), state) := by
  unfold removeAll find
  rw [refused]
  rfl

/-- The ids of listed records are read in their order, unless one has none. -/
theorem listedIds_cases (records : List FlatRecord) :
    (listedIds records = .error (.decode "listed record has no string id") ∧
      ∃ record ∈ records, (Members.get? record idKey).bind Json.string? = none) ∨
    ∃ ids, listedIds records = .ok ids ∧
      (records.map fun record => (Members.get? record idKey).bind Json.string?) = ids.map some := by
  induction records with
  | nil => exact .inr ⟨[], rfl, rfl⟩
  | cons record rest ih =>
    rw [listedIds]
    cases shown : (Members.get? record idKey).bind Json.string? with
    | none => exact .inl ⟨rfl, record, List.mem_cons_self, shown⟩
    | some id =>
      rcases ih with ⟨fails, other, inside, absent⟩ | ⟨ids, reads, same⟩
      · exact .inl ⟨by rw [fails]; rfl, other, List.mem_cons_of_mem _ inside, absent⟩
      · refine .inr ⟨id :: ids, by rw [reads]; rfl, ?_⟩
        rw [List.map_cons, List.map_cons, same, shown]

/-- An id that is read is shown by one of the records. -/
theorem shown_of_listedIds {records : List FlatRecord} {ids : List String} {id : String}
    (reads : listedIds records = .ok ids) (member : id ∈ ids) :
    ∃ record ∈ records, Members.get? record idKey = some (.string id) := by
  rcases listedIds_cases records with ⟨fails, -⟩ | ⟨others, reads', same⟩
  · rw [fails] at reads
    cases reads
  · obtain rfl := Except.ok.inj (reads'.symm.trans reads)
    have named : some id ∈ others.map some := List.mem_map_of_mem member
    rw [← same] at named
    obtain ⟨record, inside, holds⟩ := List.mem_map.mp named
    obtain ⟨value, stored, text⟩ := Option.bind_eq_some_iff.mp holds
    exact ⟨record, inside, Json.string?_eq_some.mp text ▸ stored⟩

end Service
end TableClient
