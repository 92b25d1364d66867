/-! Digits: their values, the run of decimal ones at the start of a text, and the number that
digits denote. Only the ASCII digits count. -/
namespace TableClient.Text

def digitValue (c : Char) : Nat := c.toNat - '0'.toNat

/-- Extends a number by digits on its right. -/
def appendDigits (start : Nat) : List Char → Nat
  | [] => start
  | c :: rest => appendDigits (10 * start + digitValue c) rest

/-- The number a run of digits denotes. -/
def digitsValue (digits : List Char) : Nat := appendDigits 0 digits

/-- The digits at the start of a text and what follows them. -/
def spanDigits (text : List Char) : List Char × List Char :=
  (text.takeWhile Char.isDigit, text.dropWhile Char.isDigit)

/-- The text of a natural number. -/
def decimal (n : Nat) : String := String.ofList (Nat.toDigits 10 n)

/-- The value of a hexadecimal digit in either case. -/
def hexValue? (c : Char) : Option Nat :=
  if c.isDigit then some (c.toNat - '0'.toNat)
  else if 'a' ≤ c ∧ c ≤ 'f' then some (c.toNat - 'a'.toNat + 10)
  else if 'A' ≤ c ∧ c ≤ 'F' then some (c.toNat - 'A'.toNat + 10)
  else none

/-- The number that hexadecimal digits denote; none where another character stands. -/
def hexNumber? (digits : List Char) : Option Nat :=
  digits.foldlM (fun number c => (hexValue? c).map (16 * number + ·)) 0

theorem spanDigits_append (text : List Char) :
    (spanDigits text).1 ++ (spanDigits text).2 = text :=
  List.takeWhile_append_dropWhile

theorem length_spanDigits_le (text : List Char) :
    (spanDigits text).2.length ≤ text.length := by
  have h := congrArg List.length (spanDigits_append text)
  simp only [List.length_append] at h
  omega

end TableClient.Text
