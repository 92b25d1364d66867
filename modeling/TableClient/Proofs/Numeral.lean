import TableClient.Json.Numeral
import TableClient.Proofs.Double
import TableClient.Proofs.Query.Counts
/-! Natural numbers that are written out, and what they are read as. One that fits 64 bits is read
as it is. A larger one becomes a double-precision number, if it is not past the largest of these.
The first digits are rounded, and so is their product with a power of ten, but never to a number
that would fit 64 bits. -/
namespace TableClient.Json.Numeral

open Text (digitValue appendDigits digitsValue)

/-- Digits are gathered into the number that they denote, or the first that is left out would have
made it too large. -/
theorem gather_cases (start : Nat) (fits : start < UInt64.size) (digits : List Char) :
    (gather start digits = (appendDigits start digits, []) ∧
      appendDigits start digits < UInt64.size) ∨
    ∃ kept c rest, gather start digits = (kept, c :: rest) ∧ c ∈ digits ∧
      UInt64.size ≤ 10 * kept + digitValue c := by
  induction digits generalizing start with
  | nil =>
    refine .inl ⟨rfl, ?_⟩
    exact fits
  | cons c rest ih =>
    by_cases next : 10 * start + digitValue c < UInt64.size
    · rw [gather, if_pos next]
      rcases ih _ next with whole | ⟨kept, d, left, same, member, large⟩
      · exact .inl whole
      · exact .inr ⟨kept, d, left, same, List.mem_cons_of_mem _ member, large⟩
    · rw [gather, if_neg next]
      exact .inr ⟨start, c, rest, rfl, List.mem_cons_self, Nat.le_of_not_lt next⟩

theorem digitValue_le {c : Char} (digit : c.isDigit) : digitValue c ≤ 9 := by
  simp only [Char.isDigit, ge_iff_le, Bool.and_eq_true, decide_eq_true_eq, UInt32.le_iff_toNat_le]
    at digit
  have upper : c.toNat ≤ 57 := digit.2
  have zero : '0'.toNat = 48 := rfl
  unfold digitValue
  omega

/-- The least significand that a digit can be left out behind. Its product with ten does not reach
2^64, but rounded to 53 bits it is larger, and then the product does. -/
def leastSignificand : Nat := UInt64.size / 10

theorem rounded_leastSignificand :
    Double.rounded (leastSignificand * Double.unitsPerOne) 1 =
      1844674407370955264 * Double.unitsPerOne := by
  decide +kernel

theorem rounded_ten : Double.rounded (10 * Double.unitsPerOne) 1 = 10 * Double.unitsPerOne := by
  decide +kernel

theorem rounded_leastProduct :
    Double.rounded (1844674407370955264 * Double.unitsPerOne * (10 * Double.unitsPerOne))
      Double.unitsPerOne = UInt64.size * Double.unitsPerOne := by
  decide +kernel

theorem unitsPerOne_pos : 0 < Double.unitsPerOne := by
  decide +kernel

/-- A significand that large, times ten or more, is beyond 64 bits also when it is rounded. -/
theorem scaled_large {significand places : Nat} {x : Double}
    (large : leastSignificand ≤ significand) (left : 0 < places)
    (finite : scaled significand places = some x) :
    x.negative = false ∧ UInt64.size ≤ x.truncate := by
  unfold scaled at finite
  obtain ⟨first, firstFinite, finite⟩ := Option.bind_eq_some_iff.mp finite
  rw [if_neg (by omega), Int.toNat_natCast, scaleUp] at finite
  obtain ⟨firstSign, firstUnits⟩ := Double.ofNat?_eq_some firstFinite
  have firstLarge : 1844674407370955264 * Double.unitsPerOne ≤ first.units := by
    rw [firstUnits, ← rounded_leastSignificand]
    exact Double.rounded_mono (Nat.mul_le_mul_right _ large)
  split at finite
  · obtain ⟨power, powerFinite, finite⟩ := Option.bind_eq_some_iff.mp finite
    obtain ⟨powerSign, powerUnits⟩ := Double.ofNat?_eq_some powerFinite
    have powerLarge : 10 * Double.unitsPerOne ≤ power.units := by
      rw [powerUnits, ← rounded_ten]
      apply Double.rounded_mono
      apply Nat.mul_le_mul_right
      exact Nat.le_self_pow (Nat.ne_of_gt left) 10
    obtain ⟨sign, units⟩ := Double.mul?_eq_some finite
    constructor
    · rw [sign, firstSign, powerSign]
      rfl
    · rw [Double.truncate, Nat.le_div_iff_mul_le unitsPerOne_pos, units, ← rounded_leastProduct]
      exact Double.rounded_mono (Nat.mul_le_mul firstLarge powerLarge)
  · -- Past 10^308 only zero would stay finite.
    split at finite
    · rename_i zero
      have none_held := Double.isZero_of_units zero
      have some_held := Nat.mul_pos (show 0 < 1844674407370955264 by decide) unitsPerOne_pos
      omega
    · cases finite

theorem value?_ofNat_of_lt {n : Nat} (fits : n < UInt64.size) :
    (ofNat n).value? = some (.integer n) := by
  have whole : (ofNat n).integer? = some (n : Int) := by
    unfold integer? ofNat
    simp [Text.digitsValue_toDigits, fits]
  rw [value?, whole]

/-- A number beyond 64 bits is read as one beyond 64 bits. -/
theorem value?_ofNat_of_le {n : Nat} {number : Number} (large : UInt64.size ≤ n)
    (read : (ofNat n).value? = some number) :
    ∃ x, number = .double x ∧ x.negative = false ∧ UInt64.size ≤ x.truncate := by
  have whole : (ofNat n).integer? = none := by
    unfold integer? ofNat
    simp [Text.digitsValue_toDigits, Nat.not_lt.mpr large]
  rw [value?, whole] at read
  obtain ⟨x, finite, rfl⟩ := Option.map_eq_some_iff.mp read
  refine ⟨x, rfl, ?_⟩
  rcases gather_cases 0 (by decide) (Nat.toDigits 10 n) with
    ⟨-, fits⟩ | ⟨kept, c, rest, same, member, past⟩
  · rw [show appendDigits 0 _ = _ from Text.digitsValue_toDigits n] at fits
    exact absurd fits (Nat.not_lt.mpr large)
  · have digit : digitValue c ≤ 9 := digitValue_le (Text.isDigit_of_mem_toDigits member)
    have least : leastSignificand ≤ kept := by
      have size : UInt64.size = 18446744073709551616 := rfl
      unfold leastSignificand
      omega
    have scaling : scaled kept (rest.length + 1 : Nat) = some x := by
      have gathered := finite
      unfold double? ofNat at gathered
      dsimp only at gathered
      rw [same] at gathered
      simpa [gather] using gathered
    exact scaled_large least (Nat.succ_pos _) scaling

end TableClient.Json.Numeral
