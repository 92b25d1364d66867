import Mathlib.Data.List.TakeWhile
import TableClient.Query.Params
/-! Counts as directives give them and as requests carry them. A number and its decimal text
count the same, zero counts as absent, and a ceiling for a limit and a skip is their sum unless
that is larger than any count. -/
namespace TableClient

theorem Number.toCount?_ofCount (count : UInt64) : (Number.ofCount count).toCount? = some count := by
  have fits : count.toNat ≤ countLimit := Nat.le_sub_one_of_lt count.toNat_lt_size
  rw [ofCount, toCount?, Int.toNat_natCast, if_pos ⟨Int.natCast_nonneg _, fits⟩, UInt64.ofNat_toNat]

namespace Text

theorem appendDigits_eq (start : Nat) (digits : List Char) :
    appendDigits start digits = Nat.ofDigitChars 10 digits start := by
  induction digits generalizing start with
  | nil => rfl
  | cons c rest ih => exact ih _

theorem digitsValue_toDigits (n : Nat) : digitsValue (Nat.toDigits 10 n) = n := by
  rw [digitsValue, appendDigits_eq, Nat.ofDigitChars_toDigits (by decide) (by decide)]

theorem decimal_injective : Function.Injective decimal := by
  intro first second same
  have digits : Nat.toDigits 10 first = Nat.toDigits 10 second := String.ofList_injective same
  rw [← digitsValue_toDigits first, digits, digitsValue_toDigits]

theorem isDigit_of_mem_toDigits {n : Nat} {c : Char} (member : c ∈ Nat.toDigits 10 n) :
    c.isDigit := Nat.isDigit_of_mem_toDigits (by decide) (by decide) member

theorem spanDigits_of_isDigit {digits : List Char} (each : ∀ c ∈ digits, c.isDigit) :
    spanDigits digits = (digits, []) := by
  rw [spanDigits, List.takeWhile_eq_self_iff.mpr each, List.dropWhile_eq_nil_iff.mpr each]

/-- The digits of a number that does not fit 64 bits are no count. -/
theorem digitsCount?_toDigits (n : Nat) :
    digitsCount? (Nat.toDigits 10 n) = if n < UInt64.size then some (UInt64.ofNat n) else none := by
  rw [digitsCount?, spanDigits_of_isDigit fun c member => isDigit_of_mem_toDigits member]
  split
  · rename_i same
    exact absurd (Prod.mk.inj same).1 Nat.toDigits_ne_nil
  · rename_i same
    obtain ⟨rfl, -⟩ := Prod.mk.inj same
    rw [digitsValue_toDigits]

theorem not_isBlank_of_isDigit {c : Char} (digit : c.isDigit) : isBlank c = false := by
  simp only [Char.isDigit, ge_iff_le, Bool.and_eq_true, decide_eq_true_eq, UInt32.le_iff_toNat_le]
    at digit
  have lower : 48 ≤ c.toNat := digit.1
  have upper : c.toNat ≤ 57 := digit.2
  simp only [isBlank, Bool.or_eq_false_iff, Bool.and_eq_false_iff, decide_eq_false_iff_not,
    beq_eq_false_iff_ne]
  omega

theorem leadingCount?_decimal (n : Nat) :
    leadingCount? (decimal n) = if n < UInt64.size then some (UInt64.ofNat n) else none := by
  rw [leadingCount?, decimal, String.toList_ofList]
  cases digits : Nat.toDigits 10 n with
  | nil => exact absurd digits Nat.toDigits_ne_nil
  | cons first rest =>
    have digit : first.isDigit := isDigit_of_mem_toDigits (n := n) (by rw [digits]; simp)
    have solid : isBlank first = false := not_isBlank_of_isDigit digit
    have unsigned : dropPlus (first :: rest) = first :: rest := by
      unfold dropPlus
      split
      · rename_i same
        obtain ⟨rfl, -⟩ := List.cons.inj same
        exact absurd digit (by decide)
      · rfl
    rw [trimStart, List.dropWhile_cons, solid]
    rw [if_neg (by simp), unsigned, ← digits, digitsCount?_toDigits]

end Text

namespace Listing

/-- What a directive for a count may be: none, a whole number, a number whose fraction is dropped,
or decimal digits. -/
inductive Gives : Option Json → Nat → Prop
  | nothing : Gives none 0
  | integer : Gives (some (.number (.integer (n : Nat)))) n
  | double : x.negative = false → Gives (some (.number (.double x))) x.truncate
  | text : Gives (some (.string (Text.decimal n))) n

/-- A count is read in the same way in whatever form it is given. -/
theorem count_of_gives {value : Option Json} {n : Nat} (given : Gives value n)
    (fits : n < UInt64.size) : count value = (some (UInt64.ofNat n)).filter (0 < ·) := by
  have capped : min n countLimit = n := by
    unfold countLimit
    omega
  cases given with
  | nothing => rfl
  | integer => rw [count, numberCount, Int.toNat_natCast, capped]
  | double positive =>
    rw [count, numberCount, positive, capped]
    rfl
  | text => rw [count, Text.leadingCount?_decimal, if_pos fits]

theorem count_zero {value : Option Json} (given : Gives value 0) : count value = none := by
  rw [count_of_gives given (by decide)]
  rfl

theorem count_pos {value : Option Json} {n : Nat} (given : Gives value n) (fits : n < UInt64.size)
    (positive : 0 < n) : count value = some (UInt64.ofNat n) := by
  have above : 0 < UInt64.ofNat n := by
    rw [UInt64.lt_iff_toNat_lt, UInt64.toNat_ofNat_of_lt' fits]
    exact positive
  rw [count_of_gives given fits, Option.filter_some, if_pos (by simpa using above)]

/-- A count that stands in a directive is above zero. -/
theorem pos_of_count {value : Option Json} {n : UInt64} (counted : count value = some n) : 0 < n := by
  unfold count at counted
  split at counted
  · simpa using (Option.filter_eq_some_iff.mp counted).2
  · simpa using (Option.filter_eq_some_iff.mp counted).2
  · cases counted

/-- A skip alone is its own ceiling. -/
theorem ceiling_skip (skip : UInt64) : ceiling none (some skip) = some skip := by
  have fits : min skip.toNat countLimit = skip.toNat :=
    Nat.min_eq_left (Nat.le_sub_one_of_lt skip.toNat_lt_size)
  have none_is_zero : (0 : UInt64).toNat = 0 := rfl
  rw [ceiling, Option.getD_none, addCounts, none_is_zero, Nat.zero_add, fits, UInt64.ofNat_toNat]

/-- The ceiling for a limit and a skip is their sum, or else the largest count. -/
theorem ceiling_of_gives {limit skip : Option Json} {n m : Nat} (limited : Gives limit n)
    (skipped : Gives skip m) (positive : 0 < n) (fits : n < UInt64.size) (fits' : m < UInt64.size) :
    ∃ sum, ceiling (count limit) (count skip) = some sum ∧ sum.toNat = min (n + m) countLimit := by
  rw [count_pos limited fits positive]
  rcases Nat.eq_zero_or_pos m with rfl | above
  · rw [count_zero skipped]
    refine ⟨_, rfl, ?_⟩
    rw [UInt64.toNat_ofNat_of_lt' fits]
    unfold countLimit
    omega
  · rw [count_pos skipped fits' above]
    refine ⟨_, rfl, ?_⟩
    have capped : min (n + m) countLimit < UInt64.size := by
      unfold countLimit
      omega
    rw [addCounts, Option.getD_some, UInt64.toNat_ofNat_of_lt' fits, UInt64.toNat_ofNat_of_lt' fits',
      UInt64.toNat_ofNat_of_lt' capped]

end Listing
end TableClient
