import TableClient.Query.Filter
/-! How queries compile. The compiler looks a list up under its key and goes into the parts
of it; a derivation records this with one step for a query and one for each part, so that
what holds of compiled conditions is shown by induction on it. -/
namespace TableClient.Filter

theorem parts_of_bind {first : Except ε α} {next : α → Except ε β}
    (compiled : (first >>= next) = .ok result) :
    ∃ front, first = .ok front ∧ next front = .ok result := by
  cases first with
  | error _ => cases compiled
  | ok front => exact ⟨front, rfl, compiled⟩

theorem part_of_map {first : Except ε α} {next : α → β} (compiled : first.map next = .ok result) :
    ∃ front, first = .ok front ∧ result = next front := by
  cases first with
  | error _ => cases compiled
  | ok front => exact ⟨front, rfl, (Except.ok.inj compiled).symm⟩

theorem ofOperators_cons_ok {conditions : List (Condition Json)}
    (compiled : ofOperators field ((symbol, operand) :: rest) = .ok conditions) :
    ∃ operator others, Operator.ofSymbol? symbol = some operator ∧
      ofOperators field rest = .ok others ∧
      conditions = Condition.ofOperator operator field operand :: others := by
  unfold ofOperators at compiled
  split at compiled
  · cases compiled
  · rename_i operator known
    obtain ⟨others, later, same⟩ := parts_of_bind compiled
    exact ⟨operator, others, known, later, (Except.ok.inj same).symm⟩

theorem ofMembers_alternatives (value : Json) (rest : List (String × Json)) :
    ofMembers ((alternativesKey, value) :: rest) = ofMembers rest := by
  rw [ofMembers, if_pos rfl]

theorem ofMembers_cons_ok {conditions : List (Condition Json)}
    (predicate : field ≠ alternativesKey)
    (compiled : ofMembers ((field, value) :: rest) = .ok conditions) :
    ∃ front back, ofMember field value = .ok front ∧ ofMembers rest = .ok back ∧
      conditions = front ++ back := by
  rw [ofMembers, if_neg predicate] at compiled
  obtain ⟨front, first, compiled⟩ := parts_of_bind compiled
  obtain ⟨back, later, same⟩ := parts_of_bind compiled
  exact ⟨front, back, first, later, (Except.ok.inj same).symm⟩

theorem ofAlternatives_cons_ok {conditions : List (Condition Json)}
    (compiled : ofAlternatives (part :: rest) = .ok conditions) :
    ∃ condition others, ofAlternative part = .ok condition ∧ ofAlternatives rest = .ok others ∧
      conditions = condition.toList ++ others := by
  rw [ofAlternatives] at compiled
  obtain ⟨condition, first, compiled⟩ := parts_of_bind compiled
  obtain ⟨others, later, same⟩ := parts_of_bind compiled
  exact ⟨condition, others, first, later, (Except.ok.inj same).symm⟩

/-- A query has alternatives exactly if a list stands under their key. -/
theorem alternatives?_eq (query : Query) : alternatives? query =
    match Members.get? query alternativesKey with
    | some (.array parts) => some (ofAlternatives parts)
    | _ => none := by
  induction query with
  | nil => rfl
  | cons member rest ih =>
    obtain ⟨key, value⟩ := member
    rw [Members.get?]
    by_cases same : key = alternativesKey
    · cases value <;> simp [alternatives?, same]
    · cases value <;> simp [alternatives?, same, ih]

def Unlisted (query : Query) : Prop :=
  ∀ parts, Members.get? query alternativesKey ≠ some (.array parts)

/-- The condition of a query in either of its two forms. -/
theorem ofParts_ok {query : Query} {condition : Option (Condition Json)}
    (compiled : ofParts (alternatives? query) query = .ok condition) :
    (∃ parts conditions, Members.get? query alternativesKey = some (.array parts) ∧
      ofAlternatives parts = .ok conditions ∧ condition = some (.anyOf conditions)) ∨
    (∃ conditions, Unlisted query ∧ ofMembers query = .ok conditions ∧
      condition = Condition.conjunction conditions) := by
  have lookup := alternatives?_eq query
  split at lookup
  · rename_i parts found
    left
    rw [lookup] at compiled
    obtain ⟨conditions, listed, same⟩ := part_of_map compiled
    exact ⟨parts, conditions, found, listed, same⟩
  · rename_i unlisted
    right
    rw [lookup] at compiled
    obtain ⟨conditions, members, same⟩ := part_of_map compiled
    exact ⟨conditions, unlisted, members, same⟩

mutual

inductive Compiles : Query → Option (Condition Json) → Prop
  | members : Unlisted query → ofMembers query = .ok conditions →
      Condition.conjunction conditions = condition → Compiles query condition
  | alternatives : Members.get? query alternativesKey = some (.array parts) →
      CompilesAll parts conditions → Compiles query (some (.anyOf conditions))

/-- The parts of a list of alternatives compile to the conditions of those that have one. -/
inductive CompilesAll : List Json → List (Condition Json) → Prop
  | nil : CompilesAll [] []
  | silent : Compiles query none → CompilesAll rest conditions →
      CompilesAll (.object query :: rest) conditions
  | query : Compiles query (some condition) → CompilesAll rest conditions →
      CompilesAll (.object query :: rest) (condition :: conditions)
  | blank : (∀ query, part ≠ .object query) → part.plainText = "" →
      CompilesAll rest conditions → CompilesAll (part :: rest) conditions
  | text : (∀ query, part ≠ .object query) → part.plainText ≠ "" →
      CompilesAll rest conditions → CompilesAll (part :: rest) (.verbatim part.plainText :: conditions)

end

/-- A part that is no query counts unless its text is empty. -/
theorem compilesAll_text {part : Json} {condition : Option (Condition Json)}
    (noQuery : ∀ query, part ≠ .object query) (behind : CompilesAll rest conditions)
    (compiled : ofText part.plainText = condition) :
    CompilesAll (part :: rest) (condition.toList ++ conditions) := by
  subst compiled
  unfold ofText
  split
  · rename_i empty
    exact .blank noQuery empty behind
  · rename_i written
    exact .text noQuery written behind

mutual

theorem compilesAll_of_get? (members : List (String × Json)) {parts : List Json}
    {conditions : List (Condition Json)}
    (found : Members.get? members alternativesKey = some (.array parts))
    (listed : ofAlternatives parts = .ok conditions) : CompilesAll parts conditions := by
  -- The recursion follows the look-up, since what it finds is only known to be a part.
  match members with
  | [] => cases found
  | (key, value) :: rest =>
    by_cases same : key = alternativesKey
    · have list : value = .array parts := by simpa [Members.get?, same] using found
      exact compilesAll_of_list value list listed
    · have behind : Members.get? rest alternativesKey = some (.array parts) := by
        simpa [Members.get?, same] using found
      exact compilesAll_of_get? rest behind listed

theorem compilesAll_of_list (value : Json) {parts : List Json}
    {conditions : List (Condition Json)} (list : value = .array parts)
    (listed : ofAlternatives parts = .ok conditions) : CompilesAll parts conditions := by
  match value with
  | .array items =>
    obtain rfl := Json.array.inj list
    exact compilesAll_of_ok items listed

theorem compilesAll_of_ok (parts : List Json) {conditions : List (Condition Json)}
    (listed : ofAlternatives parts = .ok conditions) : CompilesAll parts conditions := by
  match parts with
  | [] =>
    obtain rfl := Except.ok.inj listed
    exact .nil
  | part :: rest =>
    obtain ⟨condition, others, first, later, rfl⟩ := ofAlternatives_cons_ok listed
    have behind := compilesAll_of_ok rest later
    match part with
    | .object query =>
      have compiles : Compiles query condition := by
        rcases ofParts_ok first with
          ⟨items, inner, found, inside, rfl⟩ | ⟨inner, unlisted, members, rfl⟩
        · exact .alternatives found (compilesAll_of_get? query found inside)
        · exact .members unlisted members rfl
      cases condition with
      | none => exact .silent compiles behind
      | some condition => exact .query compiles behind
    | .null | .bool _ | .number _ | .string _ | .array _ =>
      exact compilesAll_text (by simp) behind (Except.ok.inj first)

end

/-- The compiler follows the derivations. -/
theorem compiles_of_ok {query : Query} {condition : Option (Condition Json)}
    (compiled : condition? query = .ok condition) : Compiles query condition := by
  rcases ofParts_ok compiled with
    ⟨parts, conditions, found, listed, rfl⟩ | ⟨conditions, unlisted, members, rfl⟩
  · exact .alternatives found (compilesAll_of_ok parts listed)
  · exact .members unlisted members rfl

end TableClient.Filter
