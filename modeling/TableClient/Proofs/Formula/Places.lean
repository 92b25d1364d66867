import TableClient.Proofs.Formula.Quoting
import TableClient.Query.Filter
/-! The operands of a formula at the places where they stand. Every operand of a condition
stands between two quotes of the formula; the literal that the first of them opens is
closed by the second exactly if the operand is harmless. -/
namespace TableClient

/-- An operand in a text, with what stands in front of its opening quote and behind its
closing one. -/
structure Place where
  before : String
  operand : Json
  after : String

namespace Place

def text (place : Place) : String :=
  place.before ++ Condition.quoted place.operand ++ place.after

/-- A reader that starts behind the opening quote ends the literal at the closing one. -/
def Closed (place : Place) : Prop :=
  Quoting.afterLiteral (operandText place.operand ++ "\x27" ++ place.after).toList =
    some place.after.toList

instance (place : Place) : Decidable place.Closed := inferInstanceAs (Decidable (_ = _))

def within (front back : String) (place : Place) : Place :=
  ⟨front ++ place.before, place.operand, place.after ++ back⟩

theorem text_within (front back : String) (place : Place) :
    (place.within front back).text = front ++ place.text ++ back := by
  simp only [within, text, String.append_assoc]

theorem closed_iff (place : Place) : place.Closed ↔ Quoting.Harmless place.operand := by
  rw [← Quoting.afterLiteral_operandText_iff _ place.after.toList]
  simp [Closed]

end Place

namespace Condition

mutual

def leaves : Condition α → List α
  | .equals _ operand | .compares _ _ operand | .holds _ operand => [operand]
  | .negation condition => leaves condition
  | .allOf conditions | .anyOf conditions => leavesAll conditions
  | .verbatim _ => []

def leavesAll : List (Condition α) → List α
  | [] => []
  | condition :: rest => leaves condition ++ leavesAll rest

end

mutual

def places : Condition Json → List Place
  | .equals field operand => [⟨braced field ++ " = ", operand, ""⟩]
  | .compares field comparison operand =>
    [⟨braced field ++ " " ++ comparison.sign ++ " ", operand, ""⟩]
  | .holds field operand =>
    [⟨"FIND(", operand, ", ARRAYJOIN(" ++ braced field ++ ", \x27,\x27)) > 0"⟩]
  | .negation condition => (places condition).map (Place.within "NOT(" ")")
  | .allOf conditions => (placesAll conditions).map (Place.within "AND(" ")")
  | .anyOf conditions => (placesAll conditions).map (Place.within "OR(" ")")
  | .verbatim _ => []

def placesAll : List (Condition Json) → List Place
  | [] => []
  | [condition] => places condition
  | condition :: next :: rest =>
    (places condition).map (Place.within "" ("," ++ formulas (next :: rest))) ++
      (placesAll (next :: rest)).map (Place.within (formula condition ++ ",") "")

end

theorem text_of_mem_within {front back text : String} {inner : List Place} {place : Place}
    (all : ∀ place ∈ inner, place.text = text)
    (member : place ∈ inner.map (Place.within front back)) :
    place.text = front ++ text ++ back := by
  obtain ⟨part, inside, rfl⟩ := List.mem_map.mp member
  rw [Place.text_within, all part inside]

mutual

theorem text_of_mem_places (condition : Condition Json) :
    ∀ place ∈ condition.places, place.text = condition.formula := by
  intro place member
  match condition with
  | .equals field operand | .compares field _ operand =>
    obtain rfl := List.mem_singleton.mp member
    simp [Place.text, formula]
  | .holds field operand =>
    obtain rfl := List.mem_singleton.mp member
    simp [Place.text, formula, String.append_assoc]
  | .negation condition => exact text_of_mem_within (text_of_mem_places condition) member
  | .allOf conditions => exact text_of_mem_within (text_of_mem_placesAll conditions) member
  | .anyOf conditions => exact text_of_mem_within (text_of_mem_placesAll conditions) member
  | .verbatim _ => exact absurd member List.not_mem_nil

theorem text_of_mem_placesAll (conditions : List (Condition Json)) :
    ∀ place ∈ placesAll conditions, place.text = formulas conditions := by
  intro place member
  match conditions with
  | [] => exact absurd member List.not_mem_nil
  | [condition] => exact text_of_mem_places condition place member
  | condition :: next :: rest =>
    rcases List.mem_append.mp member with first | later
    · rw [text_of_mem_within (text_of_mem_places condition) first, formulas]
      simp [String.append_assoc]
    · rw [text_of_mem_within (text_of_mem_placesAll (next :: rest)) later, formulas]
      simp

end

mutual

theorem operands_places (condition : Condition Json) :
    condition.places.map Place.operand = condition.leaves := by
  match condition with
  | .equals _ _ | .compares _ _ _ | .holds _ _ | .verbatim _ => rfl
  | .negation condition =>
    rw [places, List.map_map, leaves, ← operands_places condition]
    rfl
  | .allOf conditions | .anyOf conditions =>
    rw [places, List.map_map, leaves, ← operands_placesAll conditions]
    rfl

theorem operands_placesAll (conditions : List (Condition Json)) :
    (placesAll conditions).map Place.operand = leavesAll conditions := by
  match conditions with
  | [] => rfl
  | [condition] =>
    rw [placesAll, operands_places condition]
    simp [leavesAll]
  | condition :: next :: rest =>
    rw [placesAll, List.map_append, List.map_map, List.map_map, leavesAll,
      ← operands_places condition, ← operands_placesAll (next :: rest)]
    rfl

end

end Condition

namespace Filter

/-- Every operand that a query puts into its formula stands between two quotes there, and the
second closes what the first opens exactly if the operand is harmless. -/
theorem operand_closed_iff_harmless {query : Query} {condition : Condition Json}
    (asked : condition? query = .ok (some condition)) :
    condition.places.map Place.operand = condition.leaves ∧
      ∀ place ∈ condition.places, formula query = .ok place.text ∧
        (place.Closed ↔ Quoting.Harmless place.operand) := by
  refine ⟨condition.operands_places, ?_⟩
  intro place member
  refine ⟨?_, place.closed_iff⟩
  rw [formula, asked, condition.text_of_mem_places place member]
  rfl

theorem operand_closed_iff_harmless_alternatives :
    let condition : Condition Json := .anyOf [.equals "name" (.string "O'Brien"),
      .anyOf [.equals "path" (.string "C:\\"), .equals "path" (.number (.integer 7))]]
    let query : Query := [("$or", .array [.object [("name", .string "O'Brien")],
      .object [("path", .object [("$in", .array [.string "C:\\", .number (.integer 7)])])]])]
    condition? query = .ok (some condition) ∧ ∀ place ∈ condition.places,
      formula query = .ok place.text ∧ (place.Closed ↔ Quoting.Harmless place.operand) :=
  ⟨rfl, (operand_closed_iff_harmless rfl).2⟩

/-- A text that ends in a backslash, a quote behind a backslash, and a quote in a list or in
an object all break out of their literals. -/
theorem operands_not_closed :
    (∃ condition, condition? [("name", .string "C:\\")] = .ok (some condition) ∧
      ∃ place ∈ condition.places, ¬ place.Closed) ∧
    (∃ condition, condition? [("name", .string "\\' or")] = .ok (some condition) ∧
      ∃ place ∈ condition.places, ¬ place.Closed) ∧
    (∃ condition, condition? [("name", .object [("$lt", .array [.string "it's"])])] =
        .ok (some condition) ∧
      ∃ place ∈ condition.places, ¬ place.Closed) ∧
    ∃ condition, condition? [("name", .object [("$lt", .object [("it's", .null)])])] =
        .ok (some condition) ∧
      ∃ place ∈ condition.places, ¬ place.Closed := by
  refine ⟨?_, ?_, ?_, ?_⟩
  · refine ⟨_, rfl, _, List.mem_singleton_self _, ?_⟩
    decide
  · refine ⟨_, rfl, _, List.mem_singleton_self _, ?_⟩
    decide
  · refine ⟨_, rfl, _, List.mem_singleton_self _, ?_⟩
    decide
  · refine ⟨_, rfl, _, List.mem_singleton_self _, ?_⟩
    decide

end Filter
end TableClient
