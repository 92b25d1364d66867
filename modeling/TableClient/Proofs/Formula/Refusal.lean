import TableClient.Proofs.Formula.Compiling
/-! Which queries are refused, and for what. The compiler visits the parts of a list under `$or`,
and where there is no such list all other members. The first symbol it meets that names no
operator is its failure, and what it does not visit has no part in the result. -/
namespace TableClient.Filter

/-- What the compiler meets under a field. -/
inductive Entry
  | operator (field symbol : String) (operand : Json)
  /-- The first position of a list. -/
  | position (field : String)
  | literal (field : String) (value : Json)

/-- What is visited of a query, or of a part of its alternatives that is no query. -/
inductive Visited
  | members (entries : List Entry)
  | alternatives (parts : List Visited)
  | text (value : Json)

abbrev Met := String × String

namespace Entry

def ofMember (field : String) : Json → List Entry
  | .object operators => operators.map fun (symbol, operand) => .operator field symbol operand
  | .array [] => []
  | .array (_ :: _) => [.position field]
  | value => [.literal field value]

def ofQuery (query : Query) : List Entry :=
  (query.filter fun (key, _) => key ≠ alternativesKey).flatMap fun (field, value) =>
    ofMember field value

def symbols : Entry → List Met
  | .operator field symbol _ => [(symbol, field)]
  | .position field => [("0", field)]
  | .literal _ _ => []

def condition? : Entry → Except InvalidOperator (Condition Json)
  | .operator field symbol operand =>
    match Operator.ofSymbol? symbol with
    | none => .error ⟨symbol, field⟩
    | some known => .ok (Condition.ofOperator known field operand)
  | .position field => .error ⟨"0", field⟩
  | .literal field value => .ok (.equals field value)

end Entry

namespace Visited

def ofParts (parts : Option (List Visited)) (query : Query) : Visited :=
  match parts with
  | some parts => .alternatives parts
  | none => .members (Entry.ofQuery query)

mutual

def parts? : List (String × Json) → Option (List Visited)
  | [] => none
  | (key, value) :: rest =>
    if key = alternativesKey then
      match value with
      | .array parts => some (ofAlternatives parts)
      | _ => none
    else parts? rest

def ofAlternatives : List Json → List Visited
  | [] => []
  | part :: rest => ofAlternative part :: ofAlternatives rest

def ofAlternative : Json → Visited
  | .object query => ofParts (parts? query) query
  | other => .text other

end

def ofQuery (query : Query) : Visited := ofParts (parts? query) query

mutual

/-- The symbols that are met, in the order of the visit. -/
def symbols : Visited → List Met
  | .members entries => entries.flatMap Entry.symbols
  | .alternatives parts => symbolsAll parts
  | .text _ => []

def symbolsAll : List Visited → List Met
  | [] => []
  | part :: rest => symbols part ++ symbolsAll rest

end

mutual

/-- What a query compiles to, told from what is visited of it. -/
def condition? : Visited → Except InvalidOperator (Option (Condition Json))
  | .members entries => (entries.mapM Entry.condition?).map Condition.conjunction
  | .alternatives parts => (conditions parts).map fun conditions => some (.anyOf conditions)
  | .text value => .ok (ofText value.plainText)

def conditions : List Visited → Except InvalidOperator (List (Condition Json))
  | [] => .ok []
  | part :: rest => do
    let condition ← condition? part
    return condition.toList ++ (← conditions rest)

end

end Visited

theorem ofOperators_eq (field : String) (operators : List (String × Json)) :
    ofOperators field operators = (Entry.ofMember field (.object operators)).mapM Entry.condition? := by
  induction operators with
  | nil => rfl
  | cons entry rest ih =>
    obtain ⟨symbol, operand⟩ := entry
    rw [ofOperators, ih, Entry.ofMember, Entry.ofMember, List.map_cons, List.mapM_cons, Entry.condition?]
    cases Operator.ofSymbol? symbol with
    | none => rfl
    | some operator => rfl

theorem ofMember_eq (field : String) (value : Json) :
    ofMember field value = (Entry.ofMember field value).mapM Entry.condition? := by
  match value with
  | .object operators => exact ofOperators_eq field operators
  | .array [] | .array (_ :: _) | .null | .bool _ | .number _ | .string _ => rfl

theorem ofMembers_eq (query : Query) :
    ofMembers query = (Entry.ofQuery query).mapM Entry.condition? := by
  induction query with
  | nil => rfl
  | cons member rest ih =>
    obtain ⟨key, value⟩ := member
    by_cases same : key = alternativesKey
    · subst same
      rw [ofMembers_alternatives, ih]
      simp [Entry.ofQuery]
    · have entries : Entry.ofQuery ((key, value) :: rest) =
          Entry.ofMember key value ++ Entry.ofQuery rest := by
        simp [Entry.ofQuery, same]
      rw [ofMembers, if_neg same, ofMember_eq, ih, entries, List.mapM_append]

mutual

theorem alternatives?_eq_conditions (members : List (String × Json)) :
    alternatives? members = (Visited.parts? members).map Visited.conditions := by
  match members with
  | [] => rfl
  | (key, .array parts) :: rest =>
    by_cases same : key = alternativesKey
    · rw [alternatives?, Visited.parts?, if_pos same, if_pos same, ofAlternatives_eq_conditions parts]
      rfl
    · rw [alternatives?, Visited.parts?, if_neg same, if_neg same, alternatives?_eq_conditions rest]
  | (key, .object _) :: rest | (key, .null) :: rest | (key, .bool _) :: rest
  | (key, .number _) :: rest | (key, .string _) :: rest =>
    by_cases same : key = alternativesKey
    · simp [alternatives?, Visited.parts?, same]
    · simp [alternatives?, Visited.parts?, same, alternatives?_eq_conditions rest]

theorem ofAlternatives_eq_conditions (parts : List Json) :
    ofAlternatives parts = Visited.conditions (Visited.ofAlternatives parts) := by
  match parts with
  | [] => rfl
  | part :: rest =>
    rw [ofAlternatives, Visited.ofAlternatives, Visited.conditions, ofAlternative_eq_condition part,
      ofAlternatives_eq_conditions rest]

theorem ofAlternative_eq_condition (part : Json) :
    ofAlternative part = (Visited.ofAlternative part).condition? := by
  match part with
  | .object query =>
    rw [ofAlternative, Visited.ofAlternative, alternatives?_eq_conditions query]
    cases Visited.parts? query with
    | none => exact congrArg (Except.map Condition.conjunction) (ofMembers_eq query)
    | some parts => rfl
  | .array _ | .null | .bool _ | .number _ | .string _ => rfl

end

theorem condition?_eq_visited (query : Query) :
    condition? query = (Visited.ofQuery query).condition? :=
  ofAlternative_eq_condition (.object query)

def knownSymbols : List String := ["$on", "$in", "$nin", "$lt", "$lte", "$gt", "$gte", "$ne"]

theorem ofSymbol?_eq_none_iff (symbol : String) :
    Operator.ofSymbol? symbol = none ↔ symbol ∉ knownSymbols := by
  rw [Operator.ofSymbol?, List.find?_eq_none]
  simp [Operator.all, Operator.symbol, knownSymbols, eq_comm]

def firstUnknown? (symbols : List Met) : Option Met :=
  symbols.find? fun (symbol, _) => symbol ∉ knownSymbols

theorem firstUnknown?_append (front back : List Met) :
    firstUnknown? (front ++ back) = (firstUnknown? front).or (firstUnknown? back) :=
  List.find?_append

theorem firstUnknown?_eq_none_iff (symbols : List Met) :
    firstUnknown? symbols = none ↔ ∀ met ∈ symbols, met.1 ∈ knownSymbols := by
  simp [firstUnknown?]

/-- A result that fails at the first symbol that names no operator, and only there. -/
def FailsAt (symbols : List Met) (result : Except InvalidOperator α) : Prop :=
  ∀ symbol field, result = .error ⟨symbol, field⟩ ↔ firstUnknown? symbols = some (symbol, field)

namespace FailsAt

theorem ok (value : α) : FailsAt [] (.ok value) := by
  intro symbol field
  simp [firstUnknown?]

theorem map {symbols : List Met} {result : Except InvalidOperator α} (fails : FailsAt symbols result)
    (f : α → β) : FailsAt symbols (result.map f) := by
  intro symbol field
  rw [← fails]
  cases result <;> simp [Except.map]

theorem bind {front back : List Met} {first : Except InvalidOperator α}
    {next : α → Except InvalidOperator β} (fails : FailsAt front first)
    (later : ∀ value, FailsAt back (next value)) : FailsAt (front ++ back) (first >>= next) := by
  intro symbol field
  rw [firstUnknown?_append]
  cases first with
  | error error =>
    have found := (fails error.operator error.field).mp rfl
    rw [found, Option.some_or, ← found, ← fails]
    change (Except.error error : Except InvalidOperator β) = _ ↔ _
    simp
  | ok value =>
    have none : firstUnknown? front = none := by
      rw [Option.eq_none_iff_forall_ne_some]
      intro met found
      cases (fails met.1 met.2).mpr found
    rw [none, Option.none_or]
    exact later value symbol field

/-- It fails if any symbol names no operator. -/
theorem exists_error_iff {symbols : List Met} {result : Except InvalidOperator α}
    (fails : FailsAt symbols result) :
    (∃ error, result = .error error) ↔ ∃ met ∈ symbols, met.1 ∉ knownSymbols := by
  cases found : firstUnknown? symbols with
  | none =>
    have known := (firstUnknown?_eq_none_iff symbols).mp found
    apply iff_of_false
    · rintro ⟨error, refused⟩
      rw [(fails error.operator error.field).mp refused] at found
      cases found
    · rintro ⟨met, member, unknown⟩
      exact unknown (known met member)
  | some met =>
    apply iff_of_true
    · exact ⟨⟨met.1, met.2⟩, (fails met.1 met.2).mpr found⟩
    · exact ⟨met, List.mem_of_find?_eq_some found, by simpa using List.find?_some found⟩

end FailsAt

theorem failsAt_entry (entry : Entry) : FailsAt entry.symbols entry.condition? := by
  intro symbol field
  cases entry with
  | operator under found operand =>
    cases known : Operator.ofSymbol? found with
    | none =>
      have unknown := (ofSymbol?_eq_none_iff found).mp known
      simp [Entry.condition?, Entry.symbols, firstUnknown?, known, unknown]
    | some named =>
      have listed : found ∈ knownSymbols := by
        rw [← Operator.symbol_of_ofSymbol? known]
        exact List.mem_map_of_mem (f := Operator.symbol) (Operator.mem_all named)
      simp [Entry.condition?, Entry.symbols, firstUnknown?, known, listed]
  | position under => simp [Entry.condition?, Entry.symbols, firstUnknown?, knownSymbols]
  | literal under value => simp [Entry.condition?, Entry.symbols, firstUnknown?]

theorem failsAt_entries (entries : List Entry) :
    FailsAt (entries.flatMap Entry.symbols) (entries.mapM Entry.condition?) := by
  induction entries with
  | nil => exact FailsAt.ok []
  | cons entry rest ih =>
    rw [List.mapM_cons, List.flatMap_cons]
    apply FailsAt.bind (failsAt_entry entry)
    intro condition
    exact ih.map (condition :: ·)

mutual

theorem failsAt_visited (visited : Visited) : FailsAt visited.symbols visited.condition? := by
  match visited with
  | .members entries => exact (failsAt_entries entries).map Condition.conjunction
  | .alternatives parts => exact (failsAt_parts parts).map _
  | .text value => exact FailsAt.ok _

theorem failsAt_parts (parts : List Visited) :
    FailsAt (Visited.symbolsAll parts) (Visited.conditions parts) := by
  match parts with
  | [] => exact FailsAt.ok []
  | part :: rest =>
    rw [Visited.symbolsAll, Visited.conditions]
    apply FailsAt.bind (failsAt_visited part)
    intro condition
    exact (failsAt_parts rest).map (condition.toList ++ ·)

end

/-- A query is refused exactly if a symbol that is visited names no operator, and the failure is the
first of them in the order of the visit, with the field it stands under. Queries of which the same
is visited compile to the same formula or fail in the same way, whatever stands beside a list under
`$or` at any depth, or as a `$or` that is no list. -/
theorem refused_iff_unknown :
    (∀ query symbol field, formula query = .error ⟨symbol, field⟩ ↔
      firstUnknown? (Visited.ofQuery query).symbols = some (symbol, field)) ∧
    (∀ query, (∃ error, formula query = .error error) ↔
      ∃ met ∈ (Visited.ofQuery query).symbols, met.1 ∉ knownSymbols) ∧
    ∀ query other, Visited.ofQuery query = Visited.ofQuery other →
      formula query = formula other := by
  have fails (query : Query) : FailsAt (Visited.ofQuery query).symbols (formula query) := by
    rw [formula, condition?_eq_visited]
    exact (failsAt_visited _).map _
  refine ⟨fails, fun query => (fails query).exists_error_iff, ?_⟩
  intro query other same
  rw [formula, formula, condition?_eq_visited, condition?_eq_visited, same]

theorem refused_iff_unknown_beside :
    let parts : List Json := [.object [("a", .object [("$gt", .null)])], .string "b"]
    let query : Query := [("c", .object [("$bad", .null)]), ("$or", .array (parts ++
      [.object [("$or", .string "x"), ("d", .object []), ("e", .array [.null])],
        .object [("f", .object [("$worse", .null)])]]))]
    let other : Query := [("$or", .array (parts ++
      [.object [("e", .array [.bool true, .null])], .object [("f", .object [("$worse", .null)])]]))]
    Visited.ofQuery query = Visited.ofQuery other ∧ formula query = .error ⟨"0", "e"⟩ ∧
      formula other = .error ⟨"0", "e"⟩ := by
  intro parts query other
  have same : Visited.ofQuery query = Visited.ofQuery other := by rfl
  obtain ⟨first, -, alike⟩ := refused_iff_unknown
  have refused : formula query = .error ⟨"0", "e"⟩ := (first _ _ _).mpr (by decide)
  exact ⟨same, refused, (alike query other same).symm.trans refused⟩

end TableClient.Filter
