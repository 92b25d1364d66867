import TableClient.Double.Basic
/-! Rounding of ratios to double-precision numbers. How many units a result has is told by the
ratio, and a larger ratio is never rounded to a smaller number. So the result for one ratio bounds
those for all that are larger. -/
namespace TableClient.Double

/-- The units of the number nearest to a ratio of units, be it finite or not. -/
def rounded (numerator denominator : Nat) : Nat :=
  let shift := shiftFor (numerator / denominator)
  nearestEven numerator (denominator <<< shift) <<< shift

variable {numerator other denominator : Nat} {negative : Bool} {x y z : Double}

theorem div_le_nearestEven (numerator denominator : Nat) :
    numerator / denominator ≤ nearestEven numerator denominator := by
  unfold nearestEven
  dsimp only
  split
  · exact Nat.le_succ _
  · exact Nat.le_refl _

theorem nearestEven_le_succ_div (numerator denominator : Nat) :
    nearestEven numerator denominator ≤ numerator / denominator + 1 := by
  unfold nearestEven
  dsimp only
  split
  · exact Nat.le_refl _
  · exact Nat.le_succ _

theorem nearestEven_mono (below : numerator ≤ other) :
    nearestEven numerator denominator ≤ nearestEven other denominator := by
  have quotients : numerator / denominator ≤ other / denominator := Nat.div_le_div_right below
  rcases Nat.lt_or_eq_of_le quotients with apart | same
  · calc nearestEven numerator denominator
        _ ≤ numerator / denominator + 1 := nearestEven_le_succ_div _ _
        _ ≤ other / denominator := apart
        _ ≤ nearestEven other denominator := div_le_nearestEven _ _
  · -- With the same quotient the larger remainder is rounded up if the smaller one is.
    have remainders : numerator % denominator ≤ other % denominator := by
      have whole := Nat.div_add_mod numerator denominator
      have whole' := Nat.div_add_mod other denominator
      rw [same] at whole
      omega
    unfold nearestEven
    dsimp only
    rw [same]
    split <;> split <;> omega

theorem shiftFor_mono (below : numerator ≤ other) : shiftFor numerator ≤ shiftFor other := by
  unfold shiftFor
  split
  · exact Nat.zero_le _
  · rename_i nonzero
    have logs : numerator.log2 ≤ other.log2 :=
      (Nat.le_log2 (by omega)).mpr (Nat.le_trans (Nat.log2_self_le nonzero) below)
    rw [if_neg (by omega)]
    omega

/-- Shifted by so much, a magnitude has at most 53 bits. -/
theorem shiftFor_fits (magnitude : Nat) : magnitude >>> shiftFor magnitude < mantissaLimit := by
  rw [Nat.shiftRight_eq_div_pow, Nat.div_lt_iff_lt_mul (Nat.two_pow_pos _),
    show mantissaLimit = 2 ^ 53 from rfl, ← Nat.pow_add]
  by_cases zero : magnitude = 0
  · rw [zero]
    exact Nat.two_pow_pos _
  · rw [← Nat.log2_lt zero, shiftFor, if_neg zero]
    omega

/-- If it is shifted at all, it has all 53 bits. -/
theorem shiftFor_full {magnitude : Nat} (shifted : 0 < shiftFor magnitude) :
    mantissaLimit / 2 ≤ magnitude >>> shiftFor magnitude := by
  rw [Nat.shiftRight_eq_div_pow, Nat.le_div_iff_mul_le (Nat.two_pow_pos _),
    show mantissaLimit / 2 = 2 ^ 52 from rfl, ← Nat.pow_add]
  unfold shiftFor at shifted ⊢
  split at shifted
  · omega
  · rename_i nonzero
    rw [if_neg nonzero, ← Nat.le_log2 nonzero]
    omega

theorem rounded_mono (below : numerator ≤ other) :
    rounded numerator denominator ≤ rounded other denominator := by
  have shifts : shiftFor (numerator / denominator) ≤ shiftFor (other / denominator) :=
    shiftFor_mono (Nat.div_le_div_right below)
  unfold rounded
  dsimp only
  rw [Nat.shiftLeft_eq, Nat.shiftLeft_eq, Nat.shiftLeft_eq, Nat.shiftLeft_eq]
  rcases Nat.lt_or_eq_of_le shifts with apart | same
  · -- The smaller ratio ends at most where the mantissas of the next shift begin.
    have shorter := shiftFor_fits (numerator / denominator)
    have longer := shiftFor_full (Nat.zero_lt_of_lt apart)
    rw [Nat.shiftRight_eq_div_pow, Nat.div_div_eq_div_mul] at shorter longer
    generalize shiftFor (numerator / denominator) = shift at *
    generalize shiftFor (other / denominator) = shift' at *
    calc nearestEven numerator (denominator * 2 ^ shift) * 2 ^ shift
        _ ≤ mantissaLimit * 2 ^ shift :=
          Nat.mul_le_mul_right _ (Nat.le_trans (nearestEven_le_succ_div _ _) shorter)
        _ = mantissaLimit / 2 * 2 ^ (shift + 1) := by
          rw [Nat.pow_succ, Nat.mul_comm (2 ^ shift), ← Nat.mul_assoc]
          rfl
        _ ≤ mantissaLimit / 2 * 2 ^ shift' :=
          Nat.mul_le_mul_left _ (Nat.pow_le_pow_right (by decide) apart)
        _ ≤ nearestEven other (denominator * 2 ^ shift') * 2 ^ shift' :=
          Nat.mul_le_mul_right _ (Nat.le_trans longer (div_le_nearestEven _ _))
  · rw [same]
    exact Nat.mul_le_mul_right _ (nearestEven_mono below)

theorem ofParts?_eq_some {mantissa shift : Nat} (finite : ofParts? negative mantissa shift = some x) :
    x.negative = negative ∧ x.units = mantissa <<< shift := by
  unfold ofParts? at finite
  split at finite
  · obtain rfl := Option.some.inj finite
    exact ⟨rfl, rfl⟩
  · cases finite

/-- A finite result has the sign asked for and the units of the rounded ratio. -/
theorem ofUnitRatio?_eq_some (finite : ofUnitRatio? negative numerator denominator = some x) :
    x.negative = negative ∧ x.units = rounded numerator denominator := by
  unfold ofUnitRatio? at finite
  dsimp only at finite
  split at finite
  · rename_i carried
    obtain ⟨sign, units⟩ := ofParts?_eq_some finite
    refine ⟨sign, ?_⟩
    rw [units, rounded, carried, Nat.shiftLeft_eq, Nat.shiftLeft_eq, Nat.pow_succ,
      Nat.mul_comm (2 ^ _), ← Nat.mul_assoc]
    rfl
  · exact ofParts?_eq_some finite

theorem ofNat?_eq_some {n : Nat} (finite : ofNat? n = some x) :
    x.negative = false ∧ x.units = rounded (n * unitsPerOne) 1 :=
  ofUnitRatio?_eq_some finite

theorem mul?_eq_some (finite : mul? x y = some z) :
    z.negative = (x.negative != y.negative) ∧ z.units = rounded (x.units * y.units) unitsPerOne :=
  ofUnitRatio?_eq_some finite

theorem isZero_of_units {x : Double} (zero : x.isZero) : x.units = 0 := by
  have none_held : x.mantissa = 0 := by simpa [isZero] using zero
  rw [units, none_held, Nat.zero_shiftLeft]

end TableClient.Double
