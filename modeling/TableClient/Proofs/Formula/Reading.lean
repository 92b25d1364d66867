import TableClient.Proofs.Formula.Grammar
import TableClient.Proofs.Formula.Meaning
import TableClient.Proofs.Formula.Quoting
/-! Formulas read back. The formula of a condition with plain fields and operands has one
reading, which is the condition over the texts of its operands. A plain query compiles to
such a condition, so its formula tells what it asks for. -/
namespace TableClient

namespace Condition

open Meaning

mutual

def Legible : Condition Json → Prop
  | .equals field operand | .compares field _ operand | .holds field operand =>
    PlainField field ∧ PlainOperand operand
  | .negation condition => Legible condition
  | .allOf conditions | .anyOf conditions => LegibleAll conditions
  | .verbatim _ => False

def LegibleAll : List (Condition Json) → Prop
  | [] => True
  | condition :: rest => Legible condition ∧ LegibleAll rest

end

theorem legibleAll_append {front back : List (Condition Json)} (first : LegibleAll front)
    (second : LegibleAll back) : LegibleAll (front ++ back) := by
  induction front with
  | nil => exact second
  | cons condition rest ih => exact ⟨first.1, ih first.2⟩

theorem legibleAll_map {values : List Json} {condition : Json → Condition Json}
    (each : ∀ value ∈ values, (condition value).Legible) :
    LegibleAll (values.map condition) := by
  induction values with
  | nil => trivial
  | cons value rest ih =>
    constructor
    · exact each value List.mem_cons_self
    · apply ih
      intro other member
      exact each other (List.mem_cons_of_mem _ member)

theorem legible_conjunction {conditions : List (Condition Json)} {condition : Condition Json}
    (legible : LegibleAll conditions) (joined : conjunction conditions = some condition) :
    condition.Legible := by
  match conditions with
  | [single] =>
    obtain rfl := Option.some.inj joined
    exact legible.1
  | first :: second :: rest =>
    obtain rfl := Option.some.inj joined
    exact legible

theorem plainOperand_of_single {operand : Json} (single : ∀ values, operand ≠ .array values)
    (plain : PlainOperandOf symbol operand) : PlainOperand operand := by
  cases operand with
  | array values => exact absurd rfl (single values)
  | _ => exact plain

theorem plainOperand_operands {operand : Json} (plain : PlainOperandOf symbol operand) :
    ∀ value ∈ operands operand, PlainOperand value := by
  intro value member
  cases operand with
  | array values => exact plain.2 value member
  | _ =>
    obtain rfl := List.mem_singleton.mp member
    exact plain

theorem legible_ofOperator {operand : Json} (named : PlainField field)
    (known : Operator.ofSymbol? symbol = some operator) (plain : PlainOperandOf symbol operand) :
    (ofOperator operator field operand).Legible := by
  obtain rfl := Operator.symbol_of_ofSymbol? known
  have list {values : List Json} (same : operand = .array values) :
      operator = .oneOf ∨ operator = .noneOf := by
    subst same
    rcases plain.1 with symbol | symbol
    · exact .inl (Option.some.inj (known.symm.trans (symbol ▸ Operator.ofSymbol?_symbol .oneOf)))
    · exact .inr (Option.some.inj (known.symm.trans (symbol ▸ Operator.ofSymbol?_symbol .noneOf)))
  cases operator with
  | holds | compares _ =>
    constructor
    · exact named
    · apply plainOperand_of_single _ plain
      intro values same
      simpa using list same
  | oneOf | noneOf =>
    apply legibleAll_map
    intro value member
    exact ⟨named, plainOperand_operands plain value member⟩

end Condition

namespace Filter

open Condition Meaning

theorem legible_ofOperators {entries : List (String × Json)} {conditions : List (Condition Json)}
    (named : PlainField field) (plain : ∀ entry ∈ entries, PlainOperandOf entry.1 entry.2)
    (compiled : ofOperators field entries = .ok conditions) : LegibleAll conditions := by
  induction entries generalizing conditions with
  | nil =>
    obtain rfl := Except.ok.inj compiled
    trivial
  | cons entry rest ih =>
    obtain ⟨operator, others, known, later, rfl⟩ := ofOperators_cons_ok compiled
    constructor
    · exact legible_ofOperator named known (plain entry List.mem_cons_self)
    · apply ih _ later
      intro other member
      exact plain other (List.mem_cons_of_mem _ member)

theorem legible_ofMember {value : Json} {conditions : List (Condition Json)}
    (predicate : field ≠ alternativesKey) (plain : PlainMember field value)
    (compiled : ofMember field value = .ok conditions) : LegibleAll conditions := by
  match value with
  | .object entries =>
    obtain ⟨named, operands⟩ := plain.resolve_left predicate
    exact legible_ofOperators named operands compiled
  | .array [] =>
    obtain rfl := Except.ok.inj compiled
    trivial
  | .array (_ :: _) => cases compiled
  | .null | .bool _ | .number _ | .string _ =>
    obtain rfl := Except.ok.inj compiled
    exact ⟨plain.resolve_left predicate, trivial⟩

theorem legible_ofMembers {members : List (String × Json)} {conditions : List (Condition Json)}
    (plain : PlainQuery members) (compiled : ofMembers members = .ok conditions) :
    LegibleAll conditions := by
  induction members generalizing conditions with
  | nil =>
    obtain rfl := Except.ok.inj compiled
    trivial
  | cons member rest ih =>
    obtain ⟨key, value⟩ := member
    by_cases same : key = alternativesKey
    · subst same
      exact ih plain.2 (ofMembers_alternatives value rest ▸ compiled)
    · obtain ⟨front, back, first, later, rfl⟩ := ofMembers_cons_ok same compiled
      exact legibleAll_append (legible_ofMember same plain.1 first) (ih plain.2 later)

mutual

theorem legible_of_compiles {query : Query} {outcome : Option (Condition Json)}
    {condition : Condition Json} (plain : PlainQuery query) (compiles : Compiles query outcome)
    (asked : outcome = some condition) : condition.Legible := by
  match compiles with
  | .members _ members joined =>
    exact legible_conjunction (legible_ofMembers plain members) (joined.trans asked)
  | .alternatives found parts =>
    obtain rfl := Option.some.inj asked
    exact legibleAll_of_compilesAll (plainParts_of_get? plain found) parts

theorem legibleAll_of_compilesAll {parts : List Json} {conditions : List (Condition Json)}
    (plain : PlainParts parts) (compiles : CompilesAll parts conditions) :
    LegibleAll conditions := by
  match compiles with
  | .nil => trivial
  | .silent _ later => exact legibleAll_of_compilesAll plain.2 later
  | .query first later =>
    exact ⟨legible_of_compiles plain.1 first rfl, legibleAll_of_compilesAll plain.2 later⟩
  | .blank noQuery _ _ | .text noQuery _ _ => exact absurd plain (not_plainParts noQuery)

end

end Filter

namespace Grammar

open Condition

variable {rest : List Char}

/-- The quotes of a text come back, and its backslashes stand for themselves, unless the last
of them meets the closing quote. -/
theorem literal_escaped (text : List Char) (last : text.getLast? ≠ some '\\') :
    Literal (text.flatMap escapeQuote ++ '\x27' :: rest) text rest := by
  induction text with
  | nil => exact .close
  | cons c tail ih =>
    cases tail with
    | nil =>
      by_cases quote : c = '\x27'
      · subst quote
        exact .quote .close
      · have backslash : c ≠ '\\' := by simpa using last
        have single : [c].flatMap escapeQuote = [c] := by simp [Quoting.escapeQuote_of_ne quote]
        rw [single]
        exact .other quote (fun same => absurd same backslash) .close
    | cons d tail =>
      have inner := ih (by simpa using last)
      by_cases quote : c = '\x27'
      · subst quote
        exact .quote inner
      · rw [List.flatMap_cons, Quoting.escapeQuote_of_ne quote]
        apply Literal.other quote _ inner
        -- A quote behind a backslash has been given a backslash of its own.
        intro backslash
        by_cases escaped : d = '\x27'
        · simp [escapeQuote, escaped]
        · simp [escapeQuote, escaped]

theorem literal_neutral {text : List Char} (neutral : Neutral text) :
    Literal (text ++ '\x27' :: rest) text rest := by
  induction text with
  | nil => exact .close
  | cons c text ih =>
    have backslash : c ≠ '\\' := fun same => neutral.2 (by simp [same])
    have quote : c ≠ '\x27' := fun same => neutral.1 (by simp [same])
    exact .other quote (fun same => absurd same backslash)
      (ih (neutral.subset (List.subset_cons_self _ _)))

theorem literal_operand {operand : Json} (plain : Meaning.PlainOperand operand) :
    Literal ((operandText operand).toList ++ '\x27' :: rest) operand.plainText.toList rest := by
  match operand with
  | .null | .bool true | .bool false => exact literal_neutral (by decide)
  | .number value => exact literal_neutral (Json.neutral_plainNumber value)
  | .string text =>
    have written : Literal _ _ rest := literal_escaped text.toList plain
    simpa [operandText, Json.plainText] using written

theorem field_braced {field : String} (plain : Meaning.PlainField field) :
    Field ((braced field).toList ++ rest) field rest :=
  ⟨by simp [braced], plain⟩

/-- What can be read starts with a character. -/
theorem Reads.ne_nil {text : List Char} (read : Reads text tree rest) : text ≠ [] := by
  rintro rfl
  have head := read.head
  cases read <;> simp [initial] at head

/-- Arguments behind the first are each behind a comma. -/
theorem Arguments.behind {text : List Char} {first : Condition String}
    (arguments : Arguments text (first :: others) rest) :
    Further (',' :: text) (first :: others) rest := by
  cases arguments with
  | first read further => exact .next rfl read further

mutual

/-- The formula of a condition reads as the condition. -/
theorem reads_formula (condition : Condition Json) (legible : condition.Legible)
    (rest : List Char) : Reads (condition.formula.toList ++ rest) condition.textual rest := by
  match condition with
  | .equals field operand =>
    have literal : Literal _ _ rest := literal_operand legible.2
    have read := Reads.equals (field_braced legible.1) rfl literal
    simpa [formula, quoted, textual, map] using read
  | .compares field comparison operand =>
    have literal : Literal _ _ rest := literal_operand legible.2
    have sign {text : List Char} : Word (" " ++ comparison.sign ++ " \x27")
        ((" " ++ comparison.sign ++ " \x27").toList ++ text) text := rfl
    have read := Reads.compares (field_braced legible.1) sign literal
    simpa [formula, quoted, textual, map] using read
  | .holds field operand =>
    have close : Word ", \x27,\x27)) > 0" (", \x27,\x27)) > 0".toList ++ rest) rest := rfl
    have read := Reads.holds rfl (literal_operand legible.2) rfl (field_braced legible.1) close
    simpa [formula, quoted, textual, map] using read
  | .negation condition =>
    have inner := reads_formula condition legible (')' :: rest)
    have read := Reads.negation rfl inner rfl
    simpa [formula, textual, map] using read
  | .allOf conditions =>
    have read := Reads.allOf rfl (arguments_formulas conditions legible rest)
    rw [textual_allOf]
    simpa [formula] using read
  | .anyOf conditions =>
    have read := Reads.anyOf rfl (arguments_formulas conditions legible rest)
    rw [textual_anyOf]
    simpa [formula] using read

theorem arguments_formulas (conditions : List (Condition Json))
    (legible : LegibleAll conditions) (rest : List Char) :
    Arguments ((formulas conditions).toList ++ ')' :: rest) (conditions.map textual) rest := by
  match conditions with
  | [] => exact .none rfl
  | [condition] => exact .first (reads_formula condition legible.1 _) (.none rfl)
  | condition :: next :: others =>
    have later := arguments_formulas (next :: others) legible.2 rest
    have read := Arguments.first (reads_formula condition legible.1 _) later.behind
    simpa [formulas] using read

end

/-- The whole formula of a condition has the condition as its one reading. -/
theorem reads_formula_iff {condition : Condition Json} (legible : condition.Legible)
    (tree : Condition String) :
    Reads condition.formula.toList tree [] ↔ tree = condition.textual := by
  have read : Reads condition.formula.toList condition.textual [] := by
    simpa using reads_formula condition legible []
  constructor
  · intro other
    exact (other.unique read).1
  · rintro rfl
    exact read

theorem formula_ne_empty {condition : Condition Json} (legible : condition.Legible) :
    condition.formula ≠ "" := by
  intro empty
  have read := (reads_formula_iff legible condition.textual).mpr rfl
  exact read.ne_nil (congrArg String.toList empty)

end Grammar

namespace Filter

open Meaning

/-- A query with no list of alternatives whose members all say nothing. -/
def Silent (query : Query) : Prop :=
  Unlisted query ∧ ∀ member ∈ query,
    member.1 = alternativesKey ∨ member.2 = .object [] ∨ member.2 = .array []

theorem ofMember_eq_nil_iff (field : String) (value : Json) :
    ofMember field value = .ok [] ↔ value = .object [] ∨ value = .array [] := by
  match value with
  | .object [] | .array [] => simp [ofMember, ofOperators]
  | .object (entry :: rest) =>
    refine iff_of_false ?_ (by simp)
    intro compiled
    obtain ⟨_, _, _, _, same⟩ := ofOperators_cons_ok compiled
    cases same
  | .array (_ :: _) | .null | .bool _ | .number _ | .string _ => simp [ofMember]

theorem ofMembers_eq_nil_iff {members : List (String × Json)} :
    ofMembers members = .ok [] ↔ ∀ member ∈ members,
      member.1 = alternativesKey ∨ member.2 = .object [] ∨ member.2 = .array [] := by
  induction members with
  | nil => simp [ofMembers]
  | cons member rest ih =>
    obtain ⟨key, value⟩ := member
    rw [List.forall_mem_cons, ← ih]
    by_cases same : key = alternativesKey
    · simp [same, ofMembers_alternatives]
    · rw [or_iff_right same, ← ofMember_eq_nil_iff key value]
      constructor
      · intro compiled
        obtain ⟨front, back, first, later, none⟩ := ofMembers_cons_ok same compiled
        obtain ⟨rfl, rfl⟩ := List.append_eq_nil_iff.mp none.symm
        exact ⟨first, later⟩
      · rintro ⟨first, later⟩
        rw [ofMembers, if_neg same, first, later]
        rfl

theorem condition?_eq_none_iff (query : Query) : condition? query = .ok none ↔ Silent query := by
  constructor
  · intro compiled
    rcases ofParts_ok compiled with ⟨_, _, _, _, some⟩ | ⟨conditions, unlisted, members, none⟩
    · cases some
    · match conditions with
      | [] => exact ⟨unlisted, ofMembers_eq_nil_iff.mp members⟩
      | [_] | _ :: _ :: _ => cases none
  · rintro ⟨unlisted, silent⟩
    have noList : alternatives? query = none := by
      rw [alternatives?_eq]
      split
      · rename_i parts found
        exact absurd found (unlisted parts)
      · rfl
    rw [condition?, noList, ofParts, ofMembers_eq_nil_iff.mpr silent]
    rfl

/-- The formula of a plain query is empty exactly if the query asks for nothing. Any other has
one reading, and this is what the rules give to the query. -/
theorem formula_reads_iff_means {query : Query} {text : String} (plain : PlainQuery query)
    (compiled : formula query = .ok text) :
    (text = "" ↔ Silent query) ∧
      (text ≠ "" → ∃ tree, ∀ other, Grammar.Reads text.toList other [] ↔ other = tree) ∧
      ∀ tree, Grammar.Reads text.toList tree [] ↔ Means query (some tree) := by
  obtain ⟨outcome, asked, rfl⟩ := part_of_map compiled
  have derivation := compiles_of_ok asked
  have meaning := means_of_compiles plain derivation
  have silent := condition?_eq_none_iff query
  rw [asked] at silent
  cases outcome with
  | none =>
    refine ⟨iff_of_true rfl (silent.mp rfl), ?_, ?_⟩
    · intro written
      exact absurd rfl written
    · intro tree
      constructor
      · intro read
        exact absurd rfl read.ne_nil
      · intro means
        cases meaning.unique means
  | some condition =>
    have legible := legible_of_compiles plain derivation rfl
    have written := Grammar.formula_ne_empty legible
    have single := Grammar.reads_formula_iff legible
    refine ⟨iff_of_false written ?_, ?_, ?_⟩
    · intro nothing
      cases silent.mpr nothing
    · intro _
      exact ⟨condition.textual, single⟩
    · intro tree
      rw [single]
      constructor
      · rintro rfl
        exact meaning
      · intro means
        exact Option.some.inj (means.unique meaning)

theorem formula_reads_iff_means_nested :
    let query : Query := [("$or", .array [.object [("name", .string "O'Neil) > 0")], .object [],
      .object [("$or", .array [.object [("n, \x7bm", .object [("$nin", .array
        [.number (.integer 7), .string "\\x"])]), ("b", .bool true)]])]])]
    let text := "OR(\x7bname\x7d = 'O\\'Neil) > 0',OR(AND(AND(NOT(\x7bn, \x7bm\x7d = '7')," ++
      "NOT(\x7bn, \x7bm\x7d = '\\x')),\x7bb\x7d = 'true')))"
    PlainQuery query ∧ formula query = .ok text ∧
      ∀ tree, Grammar.Reads text.toList tree [] ↔ Means query (some tree) := by
  intro query text
  have plain : PlainQuery query := by
    simp [query, PlainQuery, PlainMember, PlainParts, PlainField, PlainOperandOf, PlainOperand]
  have compiled : formula query = .ok text := by rfl
  exact ⟨plain, compiled, (formula_reads_iff_means plain compiled).2.2⟩

end Filter
end TableClient
