import TableClient.Proofs.Numeral
import TableClient.Proofs.Query.Directives
/-! The same count given as a number and as text. Up to the largest count both forms are read alike.
Beyond it a number counts as the largest count, while its digits count as no directive at all. -/
namespace TableClient.Listing

/-- The numbers that stand for a natural one: those of its value, and the one that its digits are
read as. -/
inductive StandsFor : Number → Nat → Prop
  | integer : StandsFor (.integer (n : Nat)) n
  | double : x.isIntegral → (x.negative → x.isZero) → StandsFor (.double x) x.truncate
  | written : (Json.Numeral.ofNat n).value? = some number → StandsFor number n

def largestCount : UInt64 := UInt64.ofNat countLimit

variable {number : Number} {n : Nat} {query : Query} {key : String}

/-- A number that stands for one within the counts is read as this. -/
theorem count_of_lt (stands : StandsFor number n) (fits : n < UInt64.size) :
    count (some (.number number)) = (some (UInt64.ofNat n)).filter (0 < ·) := by
  cases stands with
  | integer => exact count_of_gives .integer fits
  | @double x _ signed =>
    cases sign : x.negative with
    | false => exact count_of_gives (.double sign) fits
    | true =>
      have zero : x.truncate = 0 := by
        rw [Double.truncate, Double.isZero_of_units (signed sign), Nat.zero_div]
      rw [zero, count, numberCount, if_pos sign]
      rfl
  | written read =>
    rw [Json.Numeral.value?_ofNat_of_lt fits] at read
    obtain rfl := Option.some.inj read
    exact count_of_gives .integer fits

theorem count_largest : (some largestCount).filter (0 < ·) = some largestCount := by
  decide +kernel

/-- A number that stands for a larger one is read as the largest count. -/
theorem count_of_le (stands : StandsFor number n) (large : UInt64.size ≤ n) :
    count (some (.number number)) = some largestCount := by
  have capped {m : Nat} (large : UInt64.size ≤ m) : min m countLimit = countLimit :=
    Nat.min_eq_right (Nat.le_trans (Nat.sub_le _ _) large)
  have unsigned {x : Double} (positive : x.negative = false) (large : UInt64.size ≤ x.truncate) :
      count (some (.number (.double x))) = some largestCount := by
    rw [count, numberCount, if_neg (by simp [positive]), capped large]
    exact count_largest
  cases stands with
  | integer =>
    rw [count, numberCount, Int.toNat_natCast, capped large]
    exact count_largest
  | @double x _ signed =>
    cases sign : x.negative with
    | false => exact unsigned sign large
    | true =>
      rw [Double.truncate, Double.isZero_of_units (signed sign), Nat.zero_div] at large
      exact absurd large (by decide)
  | written read =>
    obtain ⟨x, rfl, positive, large⟩ := Json.Numeral.value?_ofNat_of_le large read
    exact unsigned positive large

theorem count_text_of_le (large : UInt64.size ≤ n) :
    count (some (.string (Text.decimal n))) = none := by
  rw [count, Text.leadingCount?_decimal, if_neg (Nat.not_lt.mpr large)]
  rfl

theorem predicates_insert (directive : key ∈ directiveKeys) (query : Query) (value : Json) :
    predicates (Members.insert query key value) = predicates query := by
  induction query with
  | nil => exact predicates_cons_directive directive value []
  | cons member rest ih =>
    obtain ⟨first, held⟩ := member
    rw [Members.insert]
    split
    · rename_i same
      subst same
      rw [predicates_cons_directive directive, predicates_cons_directive directive]
    · by_cases own : first ∈ directiveKeys
      · rw [predicates_cons_directive own, predicates_cons_directive own, ih]
      · rw [predicates_cons own, predicates_cons own, ih]

/-- A limit that is as large as counts can be makes no difference exactly if the skip is as large. -/
theorem ceiling_largest_iff (skip : Option UInt64) :
    ceiling (some largestCount) skip = ceiling none skip ↔ skip = some largestCount := by
  cases skip with
  | none => simp [ceiling]
  | some skip =>
    have limit : largestCount.toNat = countLimit := by decide +kernel
    have sum : addCounts largestCount skip = largestCount := by
      rw [addCounts, limit, Nat.min_eq_right (Nat.le_add_right _ _)]
      rfl
    rw [ceiling_skip, ceiling, Option.getD_some, sum]
    exact eq_comm

def asked (query : Query) (key : String) (value : Json) :
    Except InvalidOperator (Option UInt64 × UInt64) :=
  (ofQuery (Members.insert query key value)).map fun listing =>
    (listing.selection.maxRecords, listing.skip)

theorem asked_limit (query : Query) (value : Json) :
    asked query "$limit" value = (Filter.formula (predicates query)).map fun _ =>
      (ceiling (count (some value)) (count (Members.get? query "$skip")),
        (count (Members.get? query "$skip")).getD 0) := by
  rw [asked, ofQuery_eq, predicates_insert (by decide)]
  cases Filter.formula (predicates query) with
  | error error => rfl
  | ok text =>
    simp only [Except.map, ofFormula, Members.get?_insert_self,
      Members.get?_insert_ne query value (show "$limit" ≠ "$skip" by decide)]

theorem asked_skip (query : Query) (value : Json) :
    asked query "$skip" value = (Filter.formula (predicates query)).map fun _ =>
      (ceiling (count (Members.get? query "$limit")) (count (some value)),
        (count (some value)).getD 0) := by
  rw [asked, ofQuery_eq, predicates_insert (by decide)]
  cases Filter.formula (predicates query) with
  | error error => rfl
  | ok text =>
    simp only [Except.map, ofFormula, Members.get?_insert_self,
      Members.get?_insert_ne query value (show "$skip" ≠ "$limit" by decide)]

/-- A count asks for the same as a number and as the text of its digits exactly if it is not beyond
the largest count, or is a limit beside a skip that alone raises the ceiling so far, or stands in a
query that is refused. Beyond the largest count the number is read as the largest, and the text as
none. -/
theorem number_counts_as_text_iff (query : Query) (counts : key = "$limit" ∨ key = "$skip")
    (stands : StandsFor number n) :
    (asked query key (.number number) = asked query key (.string (Text.decimal n)) ↔
      n < UInt64.size ∨
      key = "$limit" ∧ count (Members.get? query "$skip") = some largestCount ∨
      ∃ error, ofQuery query = .error error) ∧
    (UInt64.size ≤ n → count (some (.number number)) = some largestCount ∧
      count (some (.string (Text.decimal n))) = none) := by
  refine ⟨?_, fun large => ⟨count_of_le stands large, count_text_of_le large⟩⟩
  by_cases fits : n < UInt64.size
  · have same : count (some (.number number)) = count (some (.string (Text.decimal n))) := by
      rw [count_of_lt stands fits, count_of_gives .text fits]
    apply iff_of_true _ (.inl fits)
    rcases counts with rfl | rfl
    · rw [asked_limit, asked_limit, same]
    · rw [asked_skip, asked_skip, same]
  · have large : UInt64.size ≤ n := Nat.le_of_not_lt fits
    have refused : (∃ error, ofQuery query = .error error) ↔
        ∃ error, Filter.formula (predicates query) = .error error := by
      rw [ofQuery_eq]
      cases Filter.formula (predicates query) <;> simp [Except.map]
    rw [or_iff_right fits, refused]
    rcases counts with rfl | rfl
    · rw [asked_limit, asked_limit, count_of_le stands large, count_text_of_le large]
      cases Filter.formula (predicates query) with
      | error error => simp [Except.map]
      | ok text => simpa [Except.map] using ceiling_largest_iff _
    · rw [asked_skip, asked_skip, count_of_le stands large, count_text_of_le large]
      cases Filter.formula (predicates query) with
      | error error => simp [Except.map]
      | ok text =>
        have above : largestCount ≠ 0 := by decide +kernel
        simp [Except.map, above]

/-- The least number beyond the counts, as a limit: its digits are read as a double-precision
number, which widens the ceiling for a skip of three to the largest count, and as text they leave
it at three. -/
theorem number_counts_as_text_iff_written :
    let n := 18446744073709551616
    let number : Number := .double ⟨false, 4503599627370496, 1086, by decide⟩
    let query : Query := [("$limit", .null), ("a", .string "x"), ("$skip", .string "3")]
    StandsFor number n ∧
      asked query "$limit" (.number number) = .ok (some largestCount, 3) ∧
      asked query "$limit" (.string (Text.decimal n)) = .ok (some 3, 3) ∧
      asked query "$limit" (.number number) ≠ asked query "$limit" (.string (Text.decimal n)) := by
  intro n number query
  have stands : StandsFor number n := .written (by decide +kernel)
  obtain ⟨same, -⟩ := number_counts_as_text_iff query (.inl rfl : "$limit" = "$limit" ∨ _) stands
  refine ⟨stands, by decide +kernel, by decide +kernel, fun equal => ?_⟩
  rcases same.mp equal with fits | ⟨-, skips⟩ | ⟨error, refused⟩
  · exact absurd fits (by decide)
  · exact absurd skips (by decide +kernel)
  · cases refused

/-- A skip beyond the largest count drops the whole list as a number, and nothing as text. -/
theorem digits_beyond_counts_dropped :
    let n := 18446744073709551616
    let number : Number := .double ⟨false, 4503599627370496, 1086, by decide⟩
    StandsFor number n ∧
      ofQuery [("$skip", .number number)] =
        .ok ⟨⟨none, none, none, some largestCount⟩, largestCount⟩ ∧
      ofQuery [("$skip", .string (Text.decimal n))] = .ok ⟨⟨none, none, none, none⟩, 0⟩ := by
  intro n number
  exact ⟨.written (by decide +kernel), by decide +kernel, by decide +kernel⟩

end TableClient.Listing
