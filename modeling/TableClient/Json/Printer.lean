import TableClient.Json.Basic
import TableClient.Double.Shortest
import TableClient.Text.Digits
/-! The text of JSON values: compact, or indented by two spaces a level. Double-precision
numbers have the fewest digits that read back, with a point as long as the exponent is
small and otherwise with a signed exponent. -/
namespace TableClient

/-- How double-precision numbers are laid out, for a number written d.ddd * 10^e. -/
structure DoubleLayout where
  /-- Exponents at or above this and below the next are written with a point alone. -/
  leastPointed : Int
  leastScientific : Int
  /-- Whole numbers keep a point and a zero. -/
  wholeSuffix : List Char
  exponentSign : List Char

namespace DoubleLayout

def zeros (count : Nat) : List Char := List.replicate count '0'

def naturalDigits (n : Nat) : List Char := Nat.toDigits 10 n

/-- Puts the point behind as many digits as the exponent asks for. -/
def pointed (layout : DoubleLayout) (digits : List Char) (exponent : Int) : List Char :=
  if exponent < 0 then '0' :: '.' :: (zeros ((-exponent).toNat - 1) ++ digits)
  else
    let places := exponent.toNat + 1
    if digits.length ≤ places then
      digits ++ zeros (places - digits.length) ++ layout.wholeSuffix
    else digits.take places ++ '.' :: digits.drop places

def scientificMantissa : List Char → List Char
  | [] => []
  | [digit] => [digit]
  | digit :: rest => digit :: '.' :: rest

def scientific (layout : DoubleLayout) (digits : List Char) (exponent : Int) : List Char :=
  scientificMantissa digits ++ 'e' ::
    ((if exponent < 0 then ['-'] else layout.exponentSign) ++ naturalDigits exponent.natAbs)

/-- The magnitude of a number. -/
def magnitude (layout : DoubleLayout) (x : Double) : List Char :=
  let decimal := x.shortest
  let digits := naturalDigits decimal.digits
  let exponent := decimal.exponent + digits.length - 1
  if layout.leastPointed ≤ exponent ∧ exponent < layout.leastScientific then
    layout.pointed digits exponent
  else layout.scientific digits exponent

def text (layout : DoubleLayout) (x : Double) : List Char :=
  (if x.negative then ['-'] else []) ++ layout.magnitude x

end DoubleLayout

namespace Json

/-- A number in JSON has a point below 10^16 and down to 10^-5. -/
def doubleLayout : DoubleLayout := ⟨-5, 16, ['.', '0'], ['+']⟩

def integerText (n : Int) : List Char :=
  (if n < 0 then ['-'] else []) ++ Nat.toDigits 10 n.natAbs

def numberText : Number → String
  | .integer n => String.ofList (integerText n)
  | .double x => String.ofList (doubleLayout.text x)

def hexDigit (n : Nat) : Char := if n < 10 then Char.ofNat (48 + n) else Char.ofNat (87 + n)

/-- Only quotes, backslashes and control characters are escaped. -/
def escapeChar (c : Char) : List Char :=
  if c = '"' then ['\\', '"']
  else if c = '\\' then ['\\', '\\']
  else if c = '\x08' then ['\\', 'b']
  else if c = '\x0c' then ['\\', 'f']
  else if c = '\n' then ['\\', 'n']
  else if c = '\r' then ['\\', 'r']
  else if c = '\t' then ['\\', 't']
  else if c.toNat < 0x20 then
    ['\\', 'u', '0', '0', hexDigit (c.toNat / 16), hexDigit (c.toNat % 16)]
  else [c]

def quoted (text : String) : String :=
  "\"" ++ String.ofList (text.toList.flatMap escapeChar) ++ "\""

def scalarText : Json → String
  | .null => "null"
  | .bool true => "true"
  | .bool false => "false"
  | .number value => numberText value
  | .string text => quoted text
  | .array _ | .object _ => ""

mutual

/-- The text without any blanks. -/
def compact : Json → String
  | .array items => "[" ++ compactItems items ++ "]"
  | .object members => "\x7b" ++ compactMembers members ++ "\x7d"
  | .null => scalarText .null
  | .bool value => scalarText (.bool value)
  | .number value => scalarText (.number value)
  | .string text => scalarText (.string text)

def compactItems : List Json → String
  | [] => ""
  | [item] => compact item
  | item :: next :: rest => compact item ++ "," ++ compactItems (next :: rest)

def compactMembers : List (String × Json) → String
  | [] => ""
  | [(key, value)] => quoted key ++ ":" ++ compact value
  | (key, value) :: next :: rest =>
    quoted key ++ ":" ++ compact value ++ "," ++ compactMembers (next :: rest)

end

def lineBreak (level : Nat) : String := "\n" ++ String.ofList (List.replicate (2 * level) ' ')

mutual

/-- The text with every item and member on a line of its own. -/
def prettyAt (level : Nat) : Json → String
  | .array [] => "[]"
  | .array (item :: rest) =>
    "[" ++ prettyItems (level + 1) (item :: rest) ++ lineBreak level ++ "]"
  | .object [] => "\x7b\x7d"
  | .object (member :: rest) =>
    "\x7b" ++ prettyMembers (level + 1) (member :: rest) ++ lineBreak level ++ "\x7d"
  | .null => scalarText .null
  | .bool value => scalarText (.bool value)
  | .number value => scalarText (.number value)
  | .string text => scalarText (.string text)

def prettyItems (level : Nat) : List Json → String
  | [] => ""
  | [item] => lineBreak level ++ prettyAt level item
  | item :: next :: rest =>
    lineBreak level ++ prettyAt level item ++ "," ++ prettyItems level (next :: rest)

def prettyMembers (level : Nat) : List (String × Json) → String
  | [] => ""
  | [(key, value)] => lineBreak level ++ quoted key ++ ": " ++ prettyAt level value
  | (key, value) :: next :: rest =>
    lineBreak level ++ quoted key ++ ": " ++ prettyAt level value ++ "," ++
      prettyMembers level (next :: rest)

end

def pretty (value : Json) : String := prettyAt 0 value

end Json
end TableClient
