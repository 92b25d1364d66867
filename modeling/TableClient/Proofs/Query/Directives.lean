import TableClient.Proofs.Formula.Compiling
import TableClient.Proofs.Members
import TableClient.Query.Selection
/-! What each part of a listing is told from. The members that are no directives tell the formula,
or the failure where there is one, and every other part is told by the values of its own
directives. So the directives of a query can be rewritten at any place without a change to what is
asked of each record, and its predicates without a change to order, fields, ceiling and skip. -/
namespace TableClient.Listing

/-- A query rewritten in its directives: some are written, at any place among the members, and some
are taken out. -/
inductive Redirected (query : Query) : Query → Prop
  | same : Redirected query query
  | write : key ∈ directiveKeys → Redirected query (front ++ back) →
      Redirected query (front ++ (key, value) :: back)
  | strike : key ∈ directiveKeys → Redirected query (front ++ (key, value) :: back) →
      Redirected query (front ++ back)

variable {query other : Query} {key : String}

theorem predicates_append (front back : Query) :
    predicates (front ++ back) = predicates front ++ predicates back :=
  List.filter_append ..

theorem predicates_cons_directive (directive : key ∈ directiveKeys) (value : Json) (rest : Query) :
    predicates ((key, value) :: rest) = predicates rest :=
  List.filter_cons_of_neg (by simpa using directive)

theorem predicates_cons (predicate : key ∉ directiveKeys) (value : Json) (rest : Query) :
    predicates ((key, value) :: rest) = (key, value) :: predicates rest :=
  List.filter_cons_of_pos (by simpa using predicate)

/-- Among its predicates a query has the same value under any key that is no directive. -/
theorem get?_predicates (predicate : key ∉ directiveKeys) (query : Query) :
    Members.get? (predicates query) key = Members.get? query key :=
  Members.get?_filter (fun key => !directiveKeys.contains key) query (by simpa using predicate)

/-- One directive more is no other predicate. -/
theorem predicates_written (directive : key ∈ directiveKeys) (front back : Query) (value : Json) :
    predicates (front ++ (key, value) :: back) = predicates (front ++ back) := by
  rw [predicates_append, predicates_append, predicates_cons_directive directive]

theorem Redirected.predicates_eq (redirected : Redirected query other) :
    predicates query = predicates other := by
  induction redirected with
  | same => rfl
  | write directive _ ih => rw [ih, predicates_written directive]
  | strike directive _ ih => rw [ih, predicates_written directive]

/-- The directives behind a front can be taken out one after the other, and put back. -/
theorem redirected_predicates_iff (front members : Query) :
    Redirected query (front ++ predicates members) ↔ Redirected query (front ++ members) := by
  induction members generalizing front with
  | nil => exact Iff.rfl
  | cons member rest ih =>
    obtain ⟨key, value⟩ := member
    by_cases directive : key ∈ directiveKeys
    · rw [predicates_cons_directive directive, ih]
      exact ⟨.write directive, .strike directive⟩
    · rw [predicates_cons directive, List.append_cons, ih, ← List.append_cons]

theorem redirected_iff : Redirected query other ↔ predicates query = predicates other := by
  refine ⟨Redirected.predicates_eq, fun same => ?_⟩
  have bare : Redirected query (predicates query) :=
    (redirected_predicates_iff [] query).mpr .same
  rw [same] at bare
  exact (redirected_predicates_iff [] other).mp bare

def ofFormula (query : Query) (text : String) : Listing where
  selection := {
    formula := nonEmptyFormula text
    sort := sort (Members.get? query "$sort")
    fields := fields (Members.get? query "$select")
    maxRecords := ceiling (count (Members.get? query "$limit")) (count (Members.get? query "$skip")) }
  skip := (count (Members.get? query "$skip")).getD 0

theorem ofQuery_eq (query : Query) :
    ofQuery query = (Filter.formula (predicates query)).map (ofFormula query) := by
  unfold ofQuery
  cases Filter.formula (predicates query) <;> rfl

/-- The text of their formula is all that a listing has of the predicates. -/
theorem ofFormula_of_ok {listing : Listing} (asked : ofQuery query = .ok listing) :
    ∃ text, Filter.formula (predicates query) = .ok text ∧ listing = ofFormula query text := by
  rw [ofQuery_eq] at asked
  exact Filter.part_of_map asked

/-- A query is refused exactly if its predicates are, and for the same symbol. Two queries have the
same predicates in the same order exactly if one is the other rewritten in its directives, and then
both have the same formula or the same failure. Of two queries that are not refused, whatever their
predicates, the orders agree if the values of `$sort` do, the fields if those of `$select` do, the
skips if those of `$skip` do, and the ceilings if those of `$limit` and of `$skip` do. -/
theorem directives_apart :
    (∀ query error, ofQuery query = .error error ↔
      Filter.formula (predicates query) = .error error) ∧
    (∀ query other, Redirected query other ↔ predicates query = predicates other) ∧
    (∀ query other, predicates query = predicates other →
      (ofQuery query).map (·.selection.formula) = (ofQuery other).map (·.selection.formula)) ∧
    ∀ query other listing another, ofQuery query = .ok listing → ofQuery other = .ok another →
      let Agree (key : String) := Members.get? query key = Members.get? other key
      (Agree "$sort" → listing.selection.sort = another.selection.sort) ∧
      (Agree "$select" → listing.selection.fields = another.selection.fields) ∧
      (Agree "$skip" → listing.skip = another.skip) ∧
      (Agree "$limit" → Agree "$skip" →
        listing.selection.maxRecords = another.selection.maxRecords) := by
  refine ⟨fun query error => ?_, fun _ _ => redirected_iff, fun query other same => ?_, ?_⟩
  · rw [ofQuery_eq]
    cases Filter.formula (predicates query) <;> simp [Except.map]
  · rw [ofQuery_eq, ofQuery_eq, same]
    cases Filter.formula (predicates other) <;> rfl
  · intro query other listing another asked asked' Agree
    obtain ⟨text, -, rfl⟩ := ofFormula_of_ok asked
    obtain ⟨text', -, rfl⟩ := ofFormula_of_ok asked'
    dsimp only [Agree, ofFormula]
    refine ⟨congrArg sort, congrArg fields, fun skips => ?_, fun limits skips => ?_⟩
    · rw [skips]
    · rw [limits, skips]

/-- Directives between predicates are moved, changed and left out, and then the predicates are
exchanged. -/
theorem directives_apart_moved :
    let above : Json := .object [("$gt", .number (.integer 2))]
    let query : Query := [("$limit", .number (.integer 3)), ("a", .string "x"),
      ("$skip", .string "2"), ("b", above), ("$select", .string "a")]
    let other : Query := [("a", .string "x"), ("b", above), ("$sort", .object [("a", above)]),
      ("$limit", .string "7")]
    let exchanged : Query := [("$or", .array []), ("$skip", .string "2"),
      ("$limit", .number (.integer 3)), ("$sort", .null)]
    predicates query = predicates other ∧ Redirected query other ∧
      (ofQuery query).map (·.selection.formula) = (ofQuery other).map (·.selection.formula) ∧
      ∃ listing another, ofQuery query = .ok listing ∧ ofQuery exchanged = .ok another ∧
        listing.selection.formula ≠ another.selection.formula ∧ listing.skip = another.skip ∧
        listing.selection.maxRecords = another.selection.maxRecords := by
  intro above query other exchanged
  obtain ⟨-, redirected, formulas, parts⟩ := directives_apart
  have same : predicates query = predicates other := by rfl
  obtain ⟨-, -, skips, ceilings⟩ := parts query exchanged _ _ rfl rfl
  exact ⟨same, (redirected query other).mpr same, formulas query other same, _, _, rfl, rfl,
    by decide, skips rfl, ceilings rfl rfl⟩

end TableClient.Listing
