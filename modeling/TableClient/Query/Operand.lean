import TableClient.Json.Printer
/-! The plain text of a value, as it stands in formulas and in request parameters. A text
is itself, a list is its items joined by commas with nulls left empty, an object is its
compact JSON. Whole double-precision numbers below 10^21 show all their digits and no
point. Only an operand that is a text gets its quotes escaped. -/
namespace TableClient

namespace Json

/-- Whole numbers below this are written without a point. -/
def plainWholeLimit : Nat := 1000000000000000000000

def plainDouble (x : Double) : String :=
  if x.isZero then "0"
  else if x.isIntegral && x.truncate < plainWholeLimit then
    String.ofList (integerText (if x.negative then -x.truncate else x.truncate))
  else numberText (.double x)

def plainNumber : Number → String
  | .integer n => String.ofList (integerText n)
  | .double x => plainDouble x

mutual

def plainText : Json → String
  | .null => "null"
  | .bool true => "true"
  | .bool false => "false"
  | .number value => plainNumber value
  | .string text => text
  | .array items => plainItems items
  | .object members => compact (.object members)

/-- Items joined by commas; null leaves its place empty. -/
def plainItems : List Json → String
  | [] => ""
  | [item] => if item.isNull then "" else plainText item
  | item :: next :: rest =>
    (if item.isNull then "" else plainText item) ++ "," ++ plainItems (next :: rest)

end

end Json

/-- A quote inside a literal stands behind a backslash. -/
def escapeQuote (c : Char) : List Char := if c = '\x27' then ['\\', '\x27'] else [c]

/-- The text of an operand between its quotes. -/
def operandText : Json → String
  | .string text => String.ofList (text.toList.flatMap escapeQuote)
  | value => value.plainText

end TableClient
