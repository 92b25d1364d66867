/-! Punycode: the characters of a label beyond ASCII as digits of base 36. They are taken
in increasing order, each given by how many states of a decoder lie between it and the
one before it, as a number of variable length whose digit thresholds adapt. -/
namespace TableClient.Url.Punycode

def digit (value : Nat) : Char :=
  if value < 26 then Char.ofNat (97 + value) else Char.ofNat (22 + value)

def digitValue? (c : Char) : Option Nat :=
  if 'a' ≤ c ∧ c ≤ 'z' then some (c.toNat - 97)
  else if 'A' ≤ c ∧ c ≤ 'Z' then some (c.toNat - 65)
  else if c.isDigit then some (c.toNat - 22)
  else none

/-- The threshold of the digit at a place; places count from 36 in steps of 36. -/
def threshold (place bias : Nat) : Nat :=
  if place ≤ bias then 1 else if bias + 26 ≤ place then 26 else place - bias

theorem threshold_bounds (place bias : Nat) :
    1 ≤ threshold place bias ∧ threshold place bias ≤ 26 := by
  unfold threshold
  split
  · omega
  · split <;> omega

def adaptSteps (delta place : Nat) : Nat :=
  if 455 < delta then adaptSteps (delta / 35) (place + 36)
  else place + 36 * delta / (delta + 38)
termination_by delta
decreasing_by exact Nat.div_lt_self (by omega) (by omega)

/-- The bias for the next number, from the one just coded. -/
def adapt (delta count : Nat) (isFirst : Bool) : Nat :=
  let damped := if isFirst then delta / 700 else delta / 2
  adaptSteps (damped + damped / count) 0

def encodeNumber (bias place value : Nat) : List Char :=
  let least := threshold place bias
  if value < least then [digit value]
  else
    digit (least + (value - least) % (36 - least)) ::
      encodeNumber bias (place + 36) ((value - least) / (36 - least))
termination_by value
decreasing_by
  have := threshold_bounds place bias
  calc
    (value - threshold place bias) / (36 - threshold place bias)
        ≤ value - threshold place bias := Nat.div_le_self _ _
    _ < value := by omega

structure Encoding where
  digits : List Char
  delta : Nat
  bias : Nat
  handled : Nat

/-- Passes one character of the label while the characters of one code point are coded. -/
def Encoding.pass (basicCount codePoint : Nat) (encoding : Encoding) (c : Char) : Encoding :=
  if c.toNat < codePoint then { encoding with delta := encoding.delta + 1 }
  else if c.toNat = codePoint then
    { digits := encoding.digits ++ encodeNumber encoding.bias 36 encoding.delta
      delta := 0
      bias := adapt encoding.delta (encoding.handled + 1) (encoding.handled == basicCount)
      handled := encoding.handled + 1 }
  else encoding

/-- Codes the given code points, which increase, from the first one not yet coded. -/
def encodeFrom (label : List Char) (basicCount : Nat) :
    List Nat → Nat → Encoding → List Char
  | [], _, encoding => encoding.digits
  | codePoint :: rest, next, encoding =>
    let skipped := { encoding with
      delta := encoding.delta + (codePoint - next) * (encoding.handled + 1) }
    let passed := label.foldl (Encoding.pass basicCount codePoint) skipped
    encodeFrom label basicCount rest (codePoint + 1) { passed with delta := passed.delta + 1 }

def isBasic (c : Char) : Bool := c.toNat < 0x80

def insertSorted (value : Nat) : List Nat → List Nat
  | [] => [value]
  | first :: rest =>
    if value < first then value :: first :: rest
    else if value = first then first :: rest
    else first :: insertSorted value rest

def encode (label : List Char) : List Char :=
  let basic := label.filter isBasic
  let others := (label.filter (!isBasic ·)).foldr (fun c sorted => insertSorted c.toNat sorted) []
  basic ++ (if basic.isEmpty then [] else ['-']) ++
    encodeFrom label basic.length others 0x80 ⟨[], 0, 72, basic.length⟩

/-- Reads a number, the digits of the least weight first. Weights fit 32 bits. -/
def decodeNumber (bias : Nat) : List Char → Nat → Nat → Nat → Option (Nat × List Char)
  | [], _, _, _ => none
  | c :: rest, place, weight, start =>
    match digitValue? c with
    | none => none
    | some value =>
      let least := threshold place bias
      let heavier := weight * (36 - least)
      if value < least then some (start + value * weight, rest)
      else if UInt32.size ≤ heavier then none
      else decodeNumber bias rest (place + 36) heavier (start + value * weight)

theorem length_decodeNumber {bias place weight start : Nat} {digits : List Char}
    {found : Nat × List Char} (read : decodeNumber bias digits place weight start = some found) :
    found.2.length < digits.length := by
  induction digits generalizing place weight start with
  | nil => simp [decodeNumber] at read
  | cons c rest ih =>
    unfold decodeNumber at read
    split at read
    · simp at read
    · simp only at read
      split at read
      · simp only [Option.some.injEq] at read
        simp [← read]
      · split at read
        · simp at read
        · have := ih read
          simp only [List.length_cons]
          omega

def decodeFrom (bias codePoint position : Nat) (label : List Char) :
    List Char → Option (List Char)
  | [] => some label
  | c :: rest =>
    match _read : decodeNumber bias (c :: rest) 36 1 position with
    | none => none
    | some (found, digits) =>
      let count := label.length + 1
      let next := codePoint + found / count
      if next.isValidChar then
        decodeFrom (adapt (found - position) count (position == 0)) next (found % count + 1)
          (label.insertIdx (found % count) (Char.ofNat next)) digits
      else none
termination_by digits => digits.length
decreasing_by
  have := length_decodeNumber _read
  simpa using this

/-- The basic characters stand in front of the last hyphen, if there are any. -/
def decode? (text : List Char) : Option (List Char) :=
  let digits := (text.reverse.takeWhile (· ≠ '-')).reverse
  match (text.take (text.length - digits.length)).dropLast with
  | [] => decodeFrom 72 0x80 0 [] text
  | basic => if basic.all isBasic then decodeFrom 72 0x80 0 basic digits else none

end TableClient.Url.Punycode
