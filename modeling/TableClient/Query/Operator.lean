/-! The operators of a predicate and the symbols that stand for them. -/
namespace TableClient

inductive Comparison
  | less
  | atMost
  | greater
  | atLeast
  | differs
deriving DecidableEq, Repr

def Comparison.sign : Comparison → String
  | .less => "<"
  | .atMost => "<="
  | .greater => ">"
  | .atLeast => ">="
  | .differs => "!="

inductive Operator
  /-- A list field holds the operand. -/
  | holds
  /-- The field equals one of the operands. -/
  | oneOf
  /-- The field equals none of the operands. -/
  | noneOf
  | compares (comparison : Comparison)
deriving DecidableEq, Repr

namespace Operator

def symbol : Operator → String
  | .holds => "$on"
  | .oneOf => "$in"
  | .noneOf => "$nin"
  | .compares .less => "$lt"
  | .compares .atMost => "$lte"
  | .compares .greater => "$gt"
  | .compares .atLeast => "$gte"
  | .compares .differs => "$ne"

def all : List Operator :=
  [.holds, .oneOf, .noneOf, .compares .less, .compares .atMost, .compares .greater,
    .compares .atLeast, .compares .differs]

def ofSymbol? (symbol : String) : Option Operator :=
  all.find? fun operator => operator.symbol = symbol

theorem mem_all (operator : Operator) : operator ∈ all := by
  cases operator with
  | compares comparison => cases comparison <;> decide
  | _ => decide

theorem ofSymbol?_symbol (operator : Operator) : ofSymbol? operator.symbol = some operator := by
  cases operator with
  | compares comparison => cases comparison <;> decide
  | _ => decide

theorem symbol_of_ofSymbol? {symbol : String} {operator : Operator}
    (found : ofSymbol? symbol = some operator) : operator.symbol = symbol := by
  simpa using List.find?_some found

end Operator
end TableClient
