import TableClient.Query.Operand
import TableClient.Query.Operator
/-! Conditions on records, and the formulas that express them. A condition is a tree over
its operands; its formula puts field names in braces and operands in quotes. A part of a
disjunction that is not a query stands in the formula as it is. -/
namespace TableClient

inductive Condition (α : Type)
  | equals (field : String) (operand : α)
  | compares (field : String) (comparison : Comparison) (operand : α)
  | holds (field : String) (operand : α)
  | negation (condition : Condition α)
  | allOf (conditions : List (Condition α))
  | anyOf (conditions : List (Condition α))
  | verbatim (text : String)

namespace Condition

def braced (field : String) : String := "\x7b" ++ field ++ "\x7d"

def quoted (operand : Json) : String := "\x27" ++ operandText operand ++ "\x27"

mutual

def formula : Condition Json → String
  | .equals field operand => braced field ++ " = " ++ quoted operand
  | .compares field comparison operand =>
    braced field ++ " " ++ comparison.sign ++ " " ++ quoted operand
  | .holds field operand =>
    "FIND(" ++ quoted operand ++ ", ARRAYJOIN(" ++ braced field ++ ", \x27,\x27)) > 0"
  | .negation condition => "NOT(" ++ formula condition ++ ")"
  | .allOf conditions => "AND(" ++ formulas conditions ++ ")"
  | .anyOf conditions => "OR(" ++ formulas conditions ++ ")"
  | .verbatim text => text

/-- The formulas of several conditions with commas between them. -/
def formulas : List (Condition Json) → String
  | [] => ""
  | [condition] => formula condition
  | condition :: next :: rest => formula condition ++ "," ++ formulas (next :: rest)

end

/-- The operands of a membership test: the items of a list, or the one value given. -/
def operands : Json → List Json
  | .array items => items
  | single => [single]

/-- The condition that an operator puts on a field. -/
def ofOperator (operator : Operator) (field : String) (operand : Json) : Condition Json :=
  match operator with
  | .holds => .holds field operand
  | .oneOf => .anyOf ((operands operand).map (.equals field))
  | .noneOf => .allOf ((operands operand).map fun value => .negation (.equals field value))
  | .compares comparison => .compares field comparison operand

/-- No condition for none, a condition itself, and a conjunction of several. -/
def conjunction : List (Condition Json) → Option (Condition Json)
  | [] => none
  | [condition] => some condition
  | conditions => some (.allOf conditions)

end Condition
end TableClient
