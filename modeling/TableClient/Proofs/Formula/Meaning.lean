import TableClient.Proofs.Formula.Compiling
/-! The query language rule by rule, apart from how queries are compiled: what condition a
query puts on records, with each operand as its text. A query that compiles has the
condition that the rules give it. -/
namespace TableClient

namespace Condition

mutual

def map (f : α → β) : Condition α → Condition β
  | .equals field operand => .equals field (f operand)
  | .compares field comparison operand => .compares field comparison (f operand)
  | .holds field operand => .holds field (f operand)
  | .negation condition => .negation (map f condition)
  | .allOf conditions => .allOf (mapAll f conditions)
  | .anyOf conditions => .anyOf (mapAll f conditions)
  | .verbatim text => .verbatim text

def mapAll (f : α → β) : List (Condition α) → List (Condition β)
  | [] => []
  | condition :: rest => map f condition :: mapAll f rest

end

theorem mapAll_eq_map (f : α → β) (conditions : List (Condition α)) :
    mapAll f conditions = conditions.map (map f) := by
  induction conditions with
  | nil => rfl
  | cons condition rest ih => exact congrArg (map f condition :: ·) ih

def textual (condition : Condition Json) : Condition String := condition.map Json.plainText

theorem textual_allOf (conditions : List (Condition Json)) :
    (allOf conditions).textual = .allOf (conditions.map textual) :=
  congrArg allOf (mapAll_eq_map _ _)

theorem textual_anyOf (conditions : List (Condition Json)) :
    (anyOf conditions).textual = .anyOf (conditions.map textual) :=
  congrArg anyOf (mapAll_eq_map _ _)

end Condition

namespace Meaning

open TableClient.Filter

/-- A value as an operand: its text stands for it. -/
def equality (field : String) (value : Json) : Condition String := .equals field value.plainText

inductive Operates (field : String) : String → Json → Condition String → Prop
  | holds : Operates field "$on" operand (.holds field operand.plainText)
  | oneOf : Operates field "$in" (.array values) (.anyOf (values.map (equality field)))
  | oneOfSingle : (∀ values, operand ≠ .array values) →
      Operates field "$in" operand (.anyOf [equality field operand])
  | noneOf : Operates field "$nin" (.array values)
      (.allOf (values.map fun value => .negation (equality field value)))
  | noneOfSingle : (∀ values, operand ≠ .array values) →
      Operates field "$nin" operand (.allOf [.negation (equality field operand)])
  | less : Operates field "$lt" operand (.compares field .less operand.plainText)
  | atMost : Operates field "$lte" operand (.compares field .atMost operand.plainText)
  | greater : Operates field "$gt" operand (.compares field .greater operand.plainText)
  | atLeast : Operates field "$gte" operand (.compares field .atLeast operand.plainText)
  | differs : Operates field "$ne" operand (.compares field .differs operand.plainText)

inductive OperatesAll (field : String) : List (String × Json) → List (Condition String) → Prop
  | nil : OperatesAll field [] []
  | cons : Operates field symbol operand condition → OperatesAll field rest conditions →
      OperatesAll field ((symbol, operand) :: rest) (condition :: conditions)

inductive Contributes (field : String) : Json → List (Condition String) → Prop
  | operators : OperatesAll field entries conditions →
      Contributes field (.object entries) conditions
  | emptyList : Contributes field (.array []) []
  | literal : (∀ entries, value ≠ .object entries) → (∀ items, value ≠ .array items) →
      Contributes field value [equality field value]

/-- The conditions of all members in their order, whatever stands under `$or` aside. -/
inductive ContributesAll : List (String × Json) → List (Condition String) → Prop
  | nil : ContributesAll [] []
  | alternatives : ContributesAll rest conditions → ContributesAll (("$or", value) :: rest) conditions
  | member : field ≠ "$or" → Contributes field value front → ContributesAll rest back →
      ContributesAll ((field, value) :: rest) (front ++ back)

mutual

/-- The condition of a query, if it has one: a condition alone stands bare, several stand in
a conjunction, and a list under `$or` takes the place of all members. -/
inductive Means : Query → Option (Condition String) → Prop
  | nothing : Unlisted query → ContributesAll query [] → Means query none
  | one : Unlisted query → ContributesAll query [condition] → Means query (some condition)
  | several : Unlisted query → ContributesAll query conditions → 2 ≤ conditions.length →
      Means query (some (.allOf conditions))
  | alternatives : Members.get? query "$or" = some (.array parts) → MeansAny parts conditions →
      Means query (some (.anyOf conditions))

inductive MeansAny : List Json → List (Condition String) → Prop
  | nil : MeansAny [] []
  | silent : Means query none → MeansAny rest conditions →
      MeansAny (.object query :: rest) conditions
  | part : Means query (some condition) → MeansAny rest conditions →
      MeansAny (.object query :: rest) (condition :: conditions)

end

theorem Operates.unique (first : Operates field symbol operand condition)
    (second : Operates field symbol' operand other) (same : symbol = symbol') :
    condition = other := by
  cases first <;> cases second <;> first
    | rfl
    | exact absurd same (by decide)
    | rename_i single
      exact absurd rfl (single _)

theorem OperatesAll.unique (first : OperatesAll field entries conditions)
    (second : OperatesAll field entries others) : conditions = others := by
  induction first generalizing others with
  | nil =>
    cases second
    rfl
  | cons operates _ ih =>
    cases second with
    | cons operates' later => rw [operates.unique operates' rfl, ih later]

theorem Contributes.unique (first : Contributes field value conditions)
    (second : Contributes field value others) : conditions = others := by
  cases first with
  | operators all =>
    cases second with
    | operators all' => exact all.unique all'
    | literal object => exact absurd rfl (object _)
  | emptyList =>
    cases second with
    | emptyList => rfl
    | literal _ list => exact absurd rfl (list _)
  | literal object list =>
    cases second with
    | operators => exact absurd rfl (object _)
    | emptyList => exact absurd rfl (list _)
    | literal => rfl

theorem ContributesAll.unique (first : ContributesAll query conditions)
    (second : ContributesAll query others) : conditions = others := by
  induction first generalizing others with
  | nil =>
    cases second
    rfl
  | alternatives _ ih =>
    cases second with
    | alternatives later => exact ih later
    | member predicate => exact absurd rfl predicate
  | member predicate contributes _ ih =>
    cases second with
    | alternatives => exact absurd rfl predicate
    | member _ contributes' later => rw [contributes.unique contributes', ih later]

mutual

/-- The rules give a query one condition at most. -/
theorem Means.unique {query : Query} {condition other : Option (Condition String)}
    (first : Means query condition) (second : Means query other) : condition = other := by
  match first with
  | .nothing unlisted contributed =>
    cases second with
    | nothing => rfl
    | one _ contributed' => cases contributed.unique contributed'
    | several _ contributed' many =>
      cases contributed.unique contributed'
      simp at many
    | alternatives found => exact absurd found (unlisted _)
  | .one unlisted contributed =>
    cases second with
    | nothing _ contributed' => cases contributed.unique contributed'
    | one _ contributed' =>
      cases contributed.unique contributed'
      rfl
    | several _ contributed' many =>
      cases contributed.unique contributed'
      simp at many
    | alternatives found => exact absurd found (unlisted _)
  | .several unlisted contributed many =>
    cases second with
    | nothing _ contributed' | one _ contributed' =>
      cases contributed.unique contributed'
      simp at many
    | several _ contributed' => rw [contributed.unique contributed']
    | alternatives found => exact absurd found (unlisted _)
  | .alternatives found parts =>
    cases second with
    | nothing unlisted | one unlisted | several unlisted => exact absurd found (unlisted _)
    | alternatives found' parts' =>
      cases found.symm.trans found'
      rw [parts.unique parts']

theorem MeansAny.unique {parts : List Json} {conditions others : List (Condition String)}
    (first : MeansAny parts conditions) (second : MeansAny parts others) :
    conditions = others := by
  match first with
  | .nil =>
    cases second
    rfl
  | .silent means later =>
    cases second with
    | silent _ later' => exact later.unique later'
    | part means' => cases means.unique means'
  | .part means later =>
    cases second with
    | silent means' => cases means.unique means'
    | part means' later' =>
      cases means.unique means'
      rw [later.unique later']

end

/-- An operand whose literal can be read back: a scalar that does not end in a backslash. -/
def PlainOperand : Json → Prop
  | .null | .bool _ | .number _ => True
  | .string text => text.toList.getLast? ≠ some '\\'
  | .array _ | .object _ => False

/-- Membership tests also take lists of such operands. -/
def PlainOperandOf (symbol : String) : Json → Prop
  | .array values => (symbol = "$in" ∨ symbol = "$nin") ∧ ∀ value ∈ values, PlainOperand value
  | operand => PlainOperand operand

/-- A field without a brace, which would end its name early. -/
def PlainField (field : String) : Prop := '\x7d' ∉ field.toList

mutual

def PlainQuery : List (String × Json) → Prop
  | [] => True
  | (key, value) :: rest => PlainMember key value ∧ PlainQuery rest

/-- What stands under `$or` counts only if it is a list. -/
def PlainMember (key : String) : Json → Prop
  | .array items => if key = "$or" then PlainParts items else PlainField key
  | .object entries => key = "$or" ∨
      PlainField key ∧ ∀ entry ∈ entries, PlainOperandOf entry.1 entry.2
  | value => key = "$or" ∨ PlainField key ∧ PlainOperand value

def PlainParts : List Json → Prop
  | [] => True
  | .object query :: rest => PlainQuery query ∧ PlainParts rest
  | _ :: _ => False

end

variable {field : String} {query : Query} {conditions : List (Condition Json)}

theorem operates_ofOperator (field symbol : String) (operand : Json)
    (known : Operator.ofSymbol? symbol = some operator) :
    Operates field symbol operand (Condition.ofOperator operator field operand).textual := by
  obtain rfl := Operator.symbol_of_ofSymbol? known
  cases operator with
  | holds => exact .holds
  | oneOf =>
    cases operand with
    | array values =>
      have texts : (Condition.ofOperator .oneOf field (.array values)).textual =
          .anyOf (values.map (equality field)) := by
        simp [Condition.ofOperator, Condition.operands, Condition.textual, Condition.map,
          Condition.mapAll_eq_map, equality, Function.comp_def]
      exact texts ▸ .oneOf
    | _ => exact .oneOfSingle (by simp)
  | noneOf =>
    cases operand with
    | array values =>
      have texts : (Condition.ofOperator .noneOf field (.array values)).textual =
          .allOf (values.map fun value => .negation (equality field value)) := by
        simp [Condition.ofOperator, Condition.operands, Condition.textual, Condition.map,
          Condition.mapAll_eq_map, equality, Function.comp_def]
      exact texts ▸ .noneOf
    | _ => exact .noneOfSingle (by simp)
  | compares comparison =>
    cases comparison with
    | less => exact .less
    | atMost => exact .atMost
    | greater => exact .greater
    | atLeast => exact .atLeast
    | differs => exact .differs

theorem operatesAll_of_ok {entries : List (String × Json)}
    (compiled : ofOperators field entries = .ok conditions) :
    OperatesAll field entries (conditions.map Condition.textual) := by
  induction entries generalizing conditions with
  | nil =>
    obtain rfl := Except.ok.inj compiled
    exact .nil
  | cons entry rest ih =>
    obtain ⟨operator, others, known, later, rfl⟩ := ofOperators_cons_ok compiled
    exact .cons (operates_ofOperator field _ _ known) (ih later)

theorem contributes_of_ok {value : Json} (compiled : ofMember field value = .ok conditions) :
    Contributes field value (conditions.map Condition.textual) := by
  match value with
  | .object entries => exact .operators (operatesAll_of_ok compiled)
  | .array [] =>
    obtain rfl := Except.ok.inj compiled
    exact .emptyList
  | .array (_ :: _) => cases compiled
  | .null | .bool _ | .number _ | .string _ =>
    obtain rfl := Except.ok.inj compiled
    exact .literal (by simp) (by simp)

theorem contributesAll_of_ok {members : List (String × Json)}
    (compiled : ofMembers members = .ok conditions) :
    ContributesAll members (conditions.map Condition.textual) := by
  induction members generalizing conditions with
  | nil =>
    obtain rfl := Except.ok.inj compiled
    exact .nil
  | cons member rest ih =>
    obtain ⟨key, value⟩ := member
    by_cases same : key = alternativesKey
    · subst same
      exact .alternatives (ih (ofMembers_alternatives value rest ▸ compiled))
    · obtain ⟨front, back, first, later, rfl⟩ := ofMembers_cons_ok same compiled
      rw [List.map_append]
      exact .member same (contributes_of_ok first) (ih later)

theorem means_conjunction (unlisted : Unlisted query)
    (contributed : ContributesAll query (conditions.map Condition.textual)) :
    Means query ((Condition.conjunction conditions).map Condition.textual) := by
  match conditions with
  | [] => exact .nothing unlisted contributed
  | [condition] => exact .one unlisted contributed
  | first :: second :: rest =>
    rw [Condition.conjunction, Option.map_some, Condition.textual_allOf]
    · exact .several unlisted contributed (by simp)
    · simp
    · simp

theorem plainParts_of_get? {query : Query} (plain : PlainQuery query)
    (found : Members.get? query alternativesKey = some (.array parts)) : PlainParts parts := by
  induction query with
  | nil => cases found
  | cons member rest ih =>
    obtain ⟨key, value⟩ := member
    by_cases same : key = alternativesKey
    · obtain rfl : value = .array parts := by simpa [Members.get?, same] using found
      simpa [PlainMember, same, alternativesKey] using plain.1
    · exact ih plain.2 (by simpa [Members.get?, same] using found)

/-- A part that is no query is not plain. -/
theorem not_plainParts {part : Json} {rest : List Json} (noQuery : ∀ query, part ≠ .object query) :
    ¬ PlainParts (part :: rest) := by
  intro plain
  cases part with
  | object query => exact noQuery query rfl
  | _ => exact plain

mutual

/-- A compiled query has the condition that the rules give it. -/
theorem means_of_compiles {query : Query} {condition : Option (Condition Json)}
    (plain : PlainQuery query) (compiles : Compiles query condition) :
    Means query (condition.map Condition.textual) := by
  match compiles with
  | .members unlisted members conjunction =>
    exact conjunction ▸ means_conjunction unlisted (contributesAll_of_ok members)
  | .alternatives found parts =>
    rw [Option.map_some, Condition.textual_anyOf]
    exact .alternatives found (meansAny_of_compilesAll (plainParts_of_get? plain found) parts)

theorem meansAny_of_compilesAll {parts : List Json} {conditions : List (Condition Json)}
    (plain : PlainParts parts) (compiles : CompilesAll parts conditions) :
    MeansAny parts (conditions.map Condition.textual) := by
  match compiles with
  | .nil => exact .nil
  | .silent first later =>
    exact .silent (means_of_compiles plain.1 first) (meansAny_of_compilesAll plain.2 later)
  | .query first later =>
    exact .part (means_of_compiles plain.1 first) (meansAny_of_compilesAll plain.2 later)
  -- A part that is no query enters the formula as it is and could not be read back.
  | .blank noQuery _ _ | .text noQuery _ _ => exact absurd plain (not_plainParts noQuery)

end

end Meaning
end TableClient
