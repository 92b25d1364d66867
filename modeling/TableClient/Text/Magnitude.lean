import TableClient.Text.Blank
import TableClient.Text.Digits
/-! Numbers given as text: counts, which are read from the digits at the start, and
magnitudes, of which only the sign matters. A magnitude is a decimal number with at least
one digit and perhaps a point and an exponent, or one of the words for infinity and for no
number; a decimal number below half of the least double-precision number counts as zero. -/
namespace TableClient.Text

/-- The count that the digits at the start of a text denote, if it fits 64 bits. -/
def digitsCount? (text : List Char) : Option UInt64 :=
  match spanDigits text with
  | ([], _) => none
  | (digits, _) =>
    let n := digitsValue digits
    if n < UInt64.size then some (UInt64.ofNat n) else none

def dropPlus : List Char → List Char
  | '+' :: rest => rest
  | text => text

/-- A count in front of anything else, behind white space and at most one plus sign. -/
def leadingCount? (text : String) : Option UInt64 :=
  digitsCount? (dropPlus (trimStart text.toList))

/-- A text that is a count and nothing else, with at most one plus sign. -/
def wholeCount? (text : String) : Option UInt64 :=
  let digits := dropPlus text.toList
  if digits.all Char.isDigit then digitsCount? digits else none

/-- A decimal number: digits times a power of ten. -/
structure Scaled where
  digits : List Char
  exponent : Int

def splitSign : List Char → Bool × List Char
  | '-' :: rest => (true, rest)
  | '+' :: rest => (false, rest)
  | text => (false, text)

def splitFraction : List Char → List Char × List Char
  | '.' :: rest => spanDigits rest
  | text => ([], text)

def exponentOf? : List Char → Option Int
  | [] => some 0
  | c :: rest =>
    if c = 'e' ∨ c = 'E' then
      let (negative, unsigned) := splitSign rest
      match spanDigits unsigned with
      | ([], _) => none
      | (digits, []) =>
        some (if negative then -(digitsValue digits : Int) else digitsValue digits)
      | (_, _ :: _) => none
    else none

def scaled? (text : List Char) : Option Scaled := do
  let (whole, afterWhole) := spanDigits text
  let (fraction, rest) := splitFraction afterWhole
  if whole.isEmpty && fraction.isEmpty then none
  else
    let exponent ← exponentOf? rest
    return ⟨whole ++ fraction, exponent - fraction.length⟩

/-- Whether a decimal number is above half of the least unit 2^-1074. Far from that bound
the count of digits decides, so that no large power is computed. -/
def Scaled.isPositive (number : Scaled) : Bool :=
  let n := digitsValue number.digits
  let width := (Nat.toDigits 10 n).length
  if n = 0 then false
  else if 0 ≤ number.exponent + width - 1 then true
  else if number.exponent + width ≤ -324 then false
  else Nat.pow 10 (-number.exponent).toNat < n <<< 1075

inductive Magnitude
  | finite (number : Scaled)
  | infinite
  | undefined

def magnitudeWord? (text : List Char) : Option Magnitude :=
  let word := String.ofList (text.map Char.toLower)
  if word = "inf" ∨ word = "infinity" then some .infinite
  else if word = "nan" then some .undefined
  else none

def magnitude? (text : List Char) : Option Magnitude :=
  match magnitudeWord? text with
  | some word => some word
  | none => (scaled? text).map .finite

/-- Whether a text denotes a number above zero, white space around it aside. -/
def isPositive (text : String) : Bool :=
  let (negative, unsigned) := splitSign (trim text.toList)
  match magnitude? unsigned with
  | some (.finite number) => !negative && number.isPositive
  | some .infinite => !negative
  | some .undefined | none => false

end TableClient.Text
