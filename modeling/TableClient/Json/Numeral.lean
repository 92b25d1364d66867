import TableClient.Json.Basic
import TableClient.Text.Digits
/-! Numbers as they are written, and the numbers they denote. A numeral without a point or
an exponent is whole when it fits 64 bits, signed or unsigned; minus zero and all others
are double-precision. Those are computed from the digits that fit an unsigned 64-bit
significand, scaled by one rounded power of ten at a time, so the last bit may differ from
that of the nearest number. A magnitude past the largest number denotes nothing. -/
namespace TableClient.Json

structure Exponent where
  negative : Bool
  digits : List Char

structure Numeral where
  negative : Bool
  whole : List Char
  fraction : List Char
  exponent : Option Exponent
  hasPoint : Bool

namespace Numeral

/-- A whole part has no zero in front of other digits. -/
def scanWhole : List Char → Option (List Char × List Char)
  | '0' :: rest => if (rest.head?.any Char.isDigit) then none else some (['0'], rest)
  | text =>
    match Text.spanDigits text with
    | ([], _) => none
    | found => some found

def scanFraction : List Char → Option (List Char × Bool × List Char)
  | '.' :: rest =>
    match Text.spanDigits rest with
    | ([], _) => none
    | (digits, after) => some (digits, true, after)
  | text => some ([], false, text)

def scanSign : List Char → Bool × List Char
  | '-' :: rest => (true, rest)
  | '+' :: rest => (false, rest)
  | text => (false, text)

def scanExponent : List Char → Option (Option Exponent × List Char)
  | c :: rest =>
    if c = 'e' ∨ c = 'E' then
      let (negative, unsigned) := scanSign rest
      match Text.spanDigits unsigned with
      | ([], _) => none
      | (digits, after) => some (some ⟨negative, digits⟩, after)
    else some (none, c :: rest)
  | [] => some (none, [])

def scanUnsigned (negative : Bool) (text : List Char) : Option (Numeral × List Char) := do
  let (whole, afterWhole) ← scanWhole text
  let (fraction, hasPoint, afterFraction) ← scanFraction afterWhole
  let (exponent, rest) ← scanExponent afterFraction
  return (⟨negative, whole, fraction, exponent, hasPoint⟩, rest)

/-- The numeral at the start of a text, and what follows it. -/
def scan : List Char → Option (Numeral × List Char)
  | '-' :: rest => scanUnsigned true rest
  | text => scanUnsigned false text

theorem length_scanWhole {text digits after : List Char}
    (scanned : scanWhole text = some (digits, after)) : after.length < text.length := by
  unfold scanWhole at scanned
  split at scanned
  · split at scanned
    · simp at scanned
    · simp only [Option.some.injEq, Prod.mk.injEq] at scanned
      simp [scanned.2]
  · split at scanned
    · simp at scanned
    · rename_i nonempty
      simp only [Option.some.injEq] at scanned
      have parts := congrArg List.length (Text.spanDigits_append text)
      rw [scanned] at parts nonempty
      cases digits with
      | nil => exact absurd rfl (nonempty after)
      | cons first others =>
        simp only [List.length_append, List.length_cons] at parts
        omega

theorem length_scanFraction {text digits after : List Char} {hasPoint : Bool}
    (scanned : scanFraction text = some (digits, hasPoint, after)) :
    after.length ≤ text.length := by
  unfold scanFraction at scanned
  split at scanned
  · rename_i rest
    split at scanned
    · simp at scanned
    · rename_i found left _ spanned
      simp only [Option.some.injEq, Prod.mk.injEq] at scanned
      have shorter := Text.length_spanDigits_le rest
      simp only [spanned] at shorter
      simp only [List.length_cons, ← scanned.2.2]
      omega
  · simp only [Option.some.injEq, Prod.mk.injEq] at scanned
    simp [scanned.2.2]

theorem length_scanSign_le (text : List Char) : (scanSign text).2.length ≤ text.length := by
  unfold scanSign
  split <;> simp

theorem length_scanExponent {text after : List Char} {exponent : Option Exponent}
    (scanned : scanExponent text = some (exponent, after)) : after.length ≤ text.length := by
  unfold scanExponent at scanned
  split at scanned
  · rename_i c rest
    split at scanned
    · simp only at scanned
      split at scanned
      · simp at scanned
      · rename_i digits left _ spanned
        simp only [Option.some.injEq, Prod.mk.injEq] at scanned
        have shorter := Text.length_spanDigits_le (scanSign rest).2
        simp only [spanned] at shorter
        have unsigned := length_scanSign_le rest
        simp only [List.length_cons, ← scanned.2]
        omega
    · simp only [Option.some.injEq, Prod.mk.injEq] at scanned
      simp [← scanned.2]
  · simp only [Option.some.injEq, Prod.mk.injEq] at scanned
    simp [← scanned.2]

theorem length_scanUnsigned {negative : Bool} {text after : List Char} {numeral : Numeral}
    (scanned : scanUnsigned negative text = some (numeral, after)) :
    after.length < text.length := by
  simp only [scanUnsigned, Option.bind_eq_bind, Option.bind_eq_some_iff, Prod.exists] at scanned
  obtain ⟨_, _, whole, _, _, _, fraction, _, _, exponent, same⟩ := scanned
  simp only [Option.pure_def, Option.some.injEq, Prod.mk.injEq] at same
  have := length_scanWhole whole
  have := length_scanFraction fraction
  have := length_scanExponent exponent
  rw [← same.2]
  omega

theorem length_scan {text after : List Char} {numeral : Numeral}
    (scanned : scan text = some (numeral, after)) : after.length < text.length := by
  unfold scan at scanned
  split at scanned
  · have := length_scanUnsigned scanned
    simp only [List.length_cons]
    omega
  · exact length_scanUnsigned scanned

/-- Takes digits into the significand while it fits 64 bits; answers the digits left over. -/
def gather (significand : Nat) : List Char → Nat × List Char
  | [] => (significand, [])
  | c :: rest =>
    let next := 10 * significand + Text.digitValue c
    if next < UInt64.size then gather next rest else (significand, c :: rest)

/-- Divides by a power of ten, in steps that have a double-precision divisor each. -/
def scaleDown (x : Double) (places : Nat) : Option Double :=
  if places ≤ 308 then do x.div? (← Double.tenPow? places)
  else if x.isZero then some x
  else do scaleDown (← x.div? (← Double.tenPow? 308)) (places - 308)
termination_by places

/-- Multiplies by a power of ten; past 10^308 only zero stays finite. -/
def scaleUp (x : Double) (places : Nat) : Option Double :=
  if places ≤ 308 then do x.mul? (← Double.tenPow? places)
  else if x.isZero then some x
  else none

def scaled (significand : Nat) (exponent : Int) : Option Double := do
  let x ← Double.ofNat? significand
  if exponent < 0 then scaleDown x (-exponent).toNat else scaleUp x exponent.toNat

def signed (negative : Bool) (x : Double) : Number :=
  .double (if negative then x.neg else x)

/-- The largest written exponent that takes part in scaling. -/
def exponentLimit : Nat := UInt32.size / 2 - 1

def double? (numeral : Numeral) : Option Double := do
  let (kept, droppedWhole) := gather 0 numeral.whole
  let (significand, droppedFraction) := gather kept numeral.fraction
  let places : Int :=
    droppedWhole.length - (numeral.fraction.length - droppedFraction.length : Nat)
  match numeral.exponent with
  | none => scaled significand places
  | some ⟨negative, digits⟩ =>
    let size := Text.digitsValue digits
    if size ≤ exponentLimit then
      scaled significand (if negative then places - size else places + size)
    else if negative ∨ significand = 0 then some (Double.zero false)
    else none

/-- A whole number that fits 64 bits; minus zero is none. -/
def integer? (numeral : Numeral) : Option Int :=
  if numeral.hasPoint ∨ numeral.exponent.isSome then none
  else
    let magnitude := Text.digitsValue numeral.whole
    if numeral.negative then
      if magnitude = 0 ∨ UInt64.size / 2 < magnitude then none else some (-magnitude)
    else if magnitude < UInt64.size then some magnitude else none

/-- The number a numeral denotes, if any does. -/
def value? (numeral : Numeral) : Option Number :=
  match numeral.integer? with
  | some n => some (.integer n)
  | none => numeral.double?.map (signed numeral.negative)

/-- A natural number written out. -/
def ofNat (n : Nat) : Numeral := ⟨false, Nat.toDigits 10 n, [], none, false⟩

end Numeral
end TableClient.Json
