import TableClient.Proofs.Formula.Compiling
import TableClient.Proofs.Query.Directives
/-! The fields that the conditions of a formula are on. They are the names that the visited
members of a query have, if these members say something. Directives are taken out of a query
at its top only, so a directive is one of these fields exactly if a part of the alternatives
has a member under its key, at whatever depth. A part that is plain text stands in the formula
as it is and is on no field. -/
namespace TableClient

namespace Condition

mutual

def fields : Condition α → List String
  | .equals field _ | .compares field _ _ | .holds field _ => [field]
  | .negation condition => fields condition
  | .allOf conditions | .anyOf conditions => fieldsAll conditions
  | .verbatim _ => []

def fieldsAll : List (Condition α) → List String
  | [] => []
  | condition :: rest => fields condition ++ fieldsAll rest

end

theorem fieldsAll_append (front back : List (Condition α)) :
    fieldsAll (front ++ back) = fieldsAll front ++ fieldsAll back := by
  induction front with
  | nil => rfl
  | cons condition rest ih => simp [fieldsAll, ih]

theorem mem_fieldsAll_map {other : String} {value : β → Condition α}
    (one : ∀ operand, fields (value operand) = [field]) (operands : List β) :
    other ∈ fieldsAll (operands.map value) ↔ other = field ∧ operands ≠ [] := by
  induction operands with
  | nil => simp [fieldsAll]
  | cons operand rest ih =>
    simp only [List.map_cons, fieldsAll, one, List.mem_append, ih, List.mem_singleton]
    exact ⟨fun either => ⟨either.elim id And.left, List.cons_ne_nil _ _⟩, fun both => .inl both.1⟩

theorem fieldsAll_conjunction (conditions : List (Condition Json)) :
    fieldsAll (conjunction conditions).toList = fieldsAll conditions := by
  rcases conditions with - | ⟨condition, - | ⟨next, rest⟩⟩
  · rfl
  · rfl
  · exact List.append_nil _

mutual

/-- Every field of a condition stands in braces in its formula. -/
theorem braced_infix_formula (condition : Condition Json) {field : String}
    (member : field ∈ condition.fields) :
    (braced field).toList <:+: condition.formula.toList := by
  match condition with
  | .equals _ _ | .compares _ _ _ =>
    obtain rfl := List.mem_singleton.mp member
    simp only [formula, String.toList_append, List.append_assoc]
    exact (List.prefix_append _ _).isInfix
  | .holds _ operand =>
    obtain rfl := List.mem_singleton.mp member
    refine ⟨("FIND(" ++ quoted operand ++ ", ARRAYJOIN(").toList, ", \x27,\x27)) > 0".toList, ?_⟩
    simp [formula]
  | .negation condition =>
    have inner := braced_infix_formula condition member
    simp only [formula, String.toList_append]
    exact inner.trans (List.infix_append _ _ _)
  | .allOf conditions | .anyOf conditions =>
    have inner := braced_infix_formulas conditions member
    simp only [formula, String.toList_append]
    exact inner.trans (List.infix_append _ _ _)

theorem braced_infix_formulas (conditions : List (Condition Json)) {field : String}
    (member : field ∈ fieldsAll conditions) :
    (braced field).toList <:+: (formulas conditions).toList := by
  match conditions with
  | [condition] =>
    exact braced_infix_formula condition (by simpa [fieldsAll] using member)
  | condition :: next :: rest =>
    simp only [formulas, String.toList_append]
    rcases List.mem_append.mp member with first | later
    · have inner := braced_infix_formula condition first
      rw [List.append_assoc]
      exact inner.trans (List.prefix_append _ _).isInfix
    · have inner := braced_infix_formulas (next :: rest) later
      exact inner.trans (List.suffix_append _ _).isInfix

end

end Condition

namespace Filter

open Condition

/-- An operator makes a condition, unless it is a membership test in no values. -/
def Tests (symbol : String) (operand : Json) : Prop :=
  operand = .array [] → symbol ≠ "$in" ∧ symbol ≠ "$nin"

/-- A member with this value makes a condition on its field. -/
def Asks : Json → Prop
  | .object operators => ∃ entry ∈ operators, Tests entry.1 entry.2
  | .array _ => False
  | _ => True

/-- A query, or a part at some depth of its alternatives, makes a condition on a field. -/
inductive Reaches : Query → String → Prop
  | member : Unlisted query → (field, value) ∈ query → field ≠ alternativesKey → Asks value →
      Reaches query field
  | part : Members.get? query alternativesKey = some (.array parts) → .object nested ∈ parts →
      Reaches nested field → Reaches query field

def ReachesAny (parts : List Json) (field : String) : Prop :=
  ∃ nested, .object nested ∈ parts ∧ Reaches nested field

theorem reachesAny_cons_query (query : Query) (rest : List Json) (field : String) :
    ReachesAny (.object query :: rest) field ↔ Reaches query field ∨ ReachesAny rest field := by
  simp [ReachesAny, or_and_right, exists_or]

theorem reachesAny_cons_text {part : Json} (noQuery : ∀ query, part ≠ .object query)
    (rest : List Json) (field : String) : ReachesAny (part :: rest) field ↔ ReachesAny rest field := by
  refine exists_congr fun nested => and_congr_left fun _ => ?_
  rw [List.mem_cons, or_iff_right (noQuery nested).symm]

theorem reaches_unlisted_iff {query : Query} (unlisted : Unlisted query) (field : String) :
    Reaches query field ↔
      ∃ value, (field, value) ∈ query ∧ field ≠ alternativesKey ∧ Asks value := by
  constructor
  · intro reaches
    cases reaches with
    | member _ inside predicate asks => exact ⟨_, inside, predicate, asks⟩
    | part found => exact absurd found (unlisted _)
  · rintro ⟨value, inside, predicate, asks⟩
    exact .member unlisted inside predicate asks

theorem reaches_listed_iff {query : Query}
    (found : Members.get? query alternativesKey = some (.array parts)) (field : String) :
    Reaches query field ↔ ReachesAny parts field := by
  constructor
  · intro reaches
    cases reaches with
    | member unlisted => exact absurd found (unlisted _)
    | part found' inside reaches =>
      cases found.symm.trans found'
      exact ⟨_, inside, reaches⟩
  · rintro ⟨nested, inside, reaches⟩
    exact .part found inside reaches

theorem operands_ne_nil_iff (operand : Json) : operands operand ≠ [] ↔ operand ≠ .array [] := by
  cases operand <;> simp [operands]

theorem mem_fields_ofOperator {operator : Operator} {symbol other : String}
    (known : Operator.ofSymbol? symbol = some operator) (field : String) (operand : Json) :
    other ∈ (ofOperator operator field operand).fields ↔ other = field ∧ Tests symbol operand := by
  obtain rfl := Operator.symbol_of_ofSymbol? known
  unfold Tests
  cases operator with
  | holds => simp [ofOperator, fields, Operator.symbol]
  | compares comparison => cases comparison <;> simp [ofOperator, fields, Operator.symbol]
  | oneOf =>
    rw [ofOperator, fields, mem_fieldsAll_map fun _ => rfl, operands_ne_nil_iff]
    simp [Operator.symbol]
  | noneOf =>
    rw [ofOperator, fields, mem_fieldsAll_map fun _ => rfl, operands_ne_nil_iff]
    simp [Operator.symbol]

theorem mem_fields_ofOperators {other : String} {conditions : List (Condition Json)}
    (compiled : ofOperators field operators = .ok conditions) :
    other ∈ fieldsAll conditions ↔ other = field ∧ ∃ entry ∈ operators, Tests entry.1 entry.2 := by
  induction operators generalizing conditions with
  | nil =>
    obtain rfl := Except.ok.inj compiled
    simp [fieldsAll]
  | cons entry rest ih =>
    obtain ⟨symbol, operand⟩ := entry
    obtain ⟨operator, others, known, later, rfl⟩ := ofOperators_cons_ok compiled
    rw [fieldsAll, List.mem_append, mem_fields_ofOperator known, ih later, ← and_or_left]
    simp only [List.mem_cons, exists_eq_or_imp]

theorem mem_fields_ofMember {other : String} {conditions : List (Condition Json)}
    (compiled : ofMember field value = .ok conditions) :
    other ∈ fieldsAll conditions ↔ other = field ∧ Asks value := by
  match value with
  | .object operators => exact mem_fields_ofOperators compiled
  | .array [] =>
    obtain rfl := Except.ok.inj compiled
    simp [fieldsAll, Asks]
  | .null | .bool _ | .number _ | .string _ =>
    obtain rfl := Except.ok.inj compiled
    simp [fieldsAll, fields, Asks]

theorem mem_fields_ofMembers {other : String} {conditions : List (Condition Json)}
    (compiled : ofMembers members = .ok conditions) :
    other ∈ fieldsAll conditions ↔
      ∃ value, (other, value) ∈ members ∧ other ≠ alternativesKey ∧ Asks value := by
  induction members generalizing conditions with
  | nil =>
    obtain rfl := Except.ok.inj compiled
    simp [fieldsAll]
  | cons member rest ih =>
    obtain ⟨field, value⟩ := member
    by_cases same : field = alternativesKey
    · subst same
      rw [ofMembers_alternatives] at compiled
      rw [ih compiled]
      refine exists_congr fun value => and_congr_left fun asks => ?_
      rw [List.mem_cons, or_iff_right fun head => asks.1 (congrArg Prod.fst head)]
    · obtain ⟨front, back, first, later, rfl⟩ := ofMembers_cons_ok same compiled
      rw [fieldsAll_append, List.mem_append, mem_fields_ofMember first, ih later]
      constructor
      · rintro (⟨rfl, asks⟩ | ⟨other, inside, asks⟩)
        · exact ⟨value, List.mem_cons_self, same, asks⟩
        · exact ⟨other, List.mem_cons_of_mem _ inside, asks⟩
      · rintro ⟨other, inside, predicate, asks⟩
        rcases List.mem_cons.mp inside with head | behind
        · cases head
          exact .inl ⟨rfl, asks⟩
        · exact .inr ⟨other, behind, predicate, asks⟩

mutual

theorem mem_fields_iff_of_compiles {query : Query} {outcome : Option (Condition Json)}
    (derivation : Compiles query outcome) (field : String) :
    field ∈ fieldsAll outcome.toList ↔ Reaches query field := by
  -- By induction on the derivation, which is as deep as the alternatives are nested.
  match derivation with
  | .members unlisted compiled same =>
    rw [← same, fieldsAll_conjunction, mem_fields_ofMembers compiled]
    exact (reaches_unlisted_iff unlisted field).symm
  | .alternatives found listed =>
    rw [Option.toList_some, fieldsAll, fieldsAll, List.append_nil, fields,
      mem_fields_iff_of_compilesAll listed, reaches_listed_iff found]

theorem mem_fields_iff_of_compilesAll {parts : List Json} {conditions : List (Condition Json)}
    (derivation : CompilesAll parts conditions) (field : String) :
    field ∈ fieldsAll conditions ↔ ReachesAny parts field := by
  match derivation with
  | .nil => simp [fieldsAll, ReachesAny]
  | .silent first behind =>
    have none := mem_fields_iff_of_compiles first field
    rw [reachesAny_cons_query, ← none, mem_fields_iff_of_compilesAll behind field]
    simp [fieldsAll]
  | .query first behind =>
    rw [reachesAny_cons_query, ← mem_fields_iff_of_compiles first field,
      ← mem_fields_iff_of_compilesAll behind field]
    simp [fieldsAll]
  | .blank noQuery _ behind =>
    rw [reachesAny_cons_text noQuery, mem_fields_iff_of_compilesAll behind field]
  | .text noQuery _ behind =>
    rw [reachesAny_cons_text noQuery, ← mem_fields_iff_of_compilesAll behind field]
    simp [fieldsAll, fields]

end

/-- The fields of the condition of a query are those that the query reaches. -/
theorem mem_fields_iff {query : Query} {outcome : Option (Condition Json)}
    (compiled : condition? query = .ok outcome) (field : String) :
    field ∈ fieldsAll outcome.toList ↔ Reaches query field :=
  mem_fields_iff_of_compiles (compiles_of_ok compiled) field

end Filter

namespace Listing

open Condition TableClient.Filter

/-- A directive is a field of the predicates only through the alternatives. -/
theorem reaches_predicates_iff (directive : key ∈ directiveKeys) (query : Query) :
    Reaches (predicates query) key ↔
      ∃ parts, Members.get? query alternativesKey = some (.array parts) ∧ ReachesAny parts key := by
  rw [← get?_predicates (by decide)]
  constructor
  · intro reaches
    cases reaches with
    | member _ inside => simp [predicates, directive] at inside
    | part found inside reaches => exact ⟨_, found, _, inside, reaches⟩
  · rintro ⟨parts, found, reaches⟩
    exact (reaches_listed_iff found key).mpr reaches

/-- The formula of a listing expresses the condition of the predicates of its query, and every field
of this condition stands in braces in it. A directive is one of these fields exactly if a query
at some depth of the alternatives has a member under its key that makes a condition. -/
theorem directive_in_formula_iff {query : Query} {listing : Listing}
    (asked : ofQuery query = .ok listing) :
    ∃ outcome, condition? (predicates query) = .ok outcome ∧
      listing.selection.formula = outcome.bind (nonEmptyFormula ·.formula) ∧
      (∀ field ∈ fieldsAll outcome.toList, ∃ text, listing.selection.formula = some text ∧
        (braced field).toList <:+: text.toList) ∧
      ∀ key ∈ directiveKeys, key ∈ fieldsAll outcome.toList ↔ ∃ parts,
        Members.get? query alternativesKey = some (.array parts) ∧ ReachesAny parts key := by
  obtain ⟨text, expressed, rfl⟩ := ofFormula_of_ok asked
  obtain ⟨outcome, compiled, rfl⟩ := part_of_map expressed
  refine ⟨outcome, compiled, by cases outcome <;> rfl, fun field member => ?_,
    fun key directive => ?_⟩
  · cases outcome with
    | none => exact absurd member List.not_mem_nil
    | some condition =>
      have stands := braced_infix_formula condition (by simpa [fieldsAll] using member)
      -- A formula is left out only where it has no text, and a field in braces is some.
      have written : condition.formula ≠ "" := by
        intro empty
        rw [empty] at stands
        simp [braced] at stands
      exact ⟨condition.formula, if_neg written, stands⟩
  · rw [mem_fields_iff compiled, reaches_predicates_iff directive]

/-- Of four directives one stands at the top, one makes no condition and two make one, and one of
these two is three lists down. -/
theorem directive_in_formula_iff_nested :
    let number : Json := .number (.integer 3)
    let query : Query := [("$limit", number), ("$or", .array [.string "TRUE()",
      .object [("$select", .object [("$in", .array [])]), ("$sort", .string "a")],
      .object [("$or", .array [.object [("$or", .array [.object [("a", number),
        ("$skip", .object [("$gt", number)])]])]])]])]
    ∃ listing outcome, ofQuery query = .ok listing ∧
      condition? (predicates query) = .ok outcome ∧
      listing.selection.formula = outcome.bind (nonEmptyFormula ·.formula) ∧
      fieldsAll outcome.toList = ["$sort", "a", "$skip"] ∧
      ∀ key ∈ directiveKeys, key ∈ fieldsAll outcome.toList ↔ ∃ parts,
        Members.get? query alternativesKey = some (.array parts) ∧ ReachesAny parts key := by
  intro number query
  have asked : ∃ listing, ofQuery query = .ok listing := ⟨_, rfl⟩
  obtain ⟨listing, asked⟩ := asked
  obtain ⟨outcome, compiled, expressed, -, reached⟩ := directive_in_formula_iff asked
  refine ⟨listing, outcome, asked, compiled, expressed, ?_, reached⟩
  obtain rfl := Except.ok.inj (compiled.symm.trans (by rfl))
  rfl

/-- A directive in a part of the alternatives stands in the formula as a field of the table. -/
theorem directive_in_formula :
    let query : Query := [("$or", .array [.object [("a", .number (.integer 1)),
      ("$limit", .number (.integer 3))]])]
    ∃ listing condition, ofQuery query = .ok listing ∧
      condition? (predicates query) = .ok (some condition) ∧
      listing.selection.formula = some condition.formula ∧
      condition.formula = "OR(AND({a} = '1',{$limit} = '3'))" ∧
      "$limit" ∈ condition.fields ∧ "$limit" ∈ directiveKeys :=
  ⟨_, _, rfl, rfl, rfl, rfl, by decide, by decide⟩

end Listing
end TableClient
