import TableClient.Query.Operand
/-! The characters of a number's text: digits, and the few marks of its layout. A formula puts
numbers between quotes as they are written, which is safe because no layout of a number uses a quote
or a backslash. -/
namespace TableClient

/-- No quote and no backslash stands in a text. -/
def Neutral (text : List Char) : Prop := '\x27' ∉ text ∧ '\\' ∉ text

instance (text : List Char) : Decidable (Neutral text) := inferInstanceAs (Decidable (_ ∧ _))

theorem Neutral.subset {part whole : List Char} (inside : part ⊆ whole) (neutral : Neutral whole) :
    Neutral part :=
  ⟨fun member => neutral.1 (inside member), fun member => neutral.2 (inside member)⟩

def Numeric (marks text : List Char) : Prop := ∀ c ∈ text, c.isDigit ∨ c ∈ marks

namespace Numeric

variable {marks front back text : List Char} {c : Char}

theorem append (first : Numeric marks front) (second : Numeric marks back) :
    Numeric marks (front ++ back) :=
  List.forall_mem_append.mpr ⟨first, second⟩

theorem cons (first : c.isDigit ∨ c ∈ marks) (later : Numeric marks text) :
    Numeric marks (c :: text) :=
  List.forall_mem_cons.mpr ⟨first, later⟩

theorem subset (inside : front ⊆ text) (numeric : Numeric marks text) : Numeric marks front :=
  fun c member => numeric c (inside member)

theorem of_marks (inside : text ⊆ marks) : Numeric marks text :=
  fun _ member => .inr (inside member)

theorem toDigits (n : Nat) : Numeric marks (Nat.toDigits 10 n) :=
  fun _ member => .inl (Nat.isDigit_of_mem_toDigits (by decide) (by decide) member)

theorem zeros (count : Nat) : Numeric marks (DoubleLayout.zeros count) := by
  intro c member
  obtain rfl := List.eq_of_mem_replicate member
  exact .inl (by decide)

theorem not_mem (numeric : Numeric marks text) (digit : c.isDigit = false) (mark : c ∉ marks) :
    c ∉ text := by
  intro member
  rcases numeric c member with shown | shown
  · rw [digit] at shown
    cases shown
  · exact mark shown

end Numeric

def DoubleLayout.marks (layout : DoubleLayout) : List Char :=
  ['-', '.', 'e'] ++ layout.wholeSuffix ++ layout.exponentSign

namespace DoubleLayout

variable {layout : DoubleLayout} {digits : List Char}

theorem numeric_wholeSuffix (layout : DoubleLayout) : Numeric layout.marks layout.wholeSuffix :=
  .of_marks fun _ member => by simp [marks, member]

theorem numeric_exponentSign (layout : DoubleLayout) : Numeric layout.marks layout.exponentSign :=
  .of_marks fun _ member => by simp [marks, member]

theorem numeric_minus (layout : DoubleLayout) : Numeric layout.marks ['-'] :=
  .of_marks fun _ member => by simp_all [marks]

theorem point_mem_marks (layout : DoubleLayout) : '.' ∈ layout.marks := by simp [marks]

theorem numeric_pointed (numeric : Numeric layout.marks digits) (exponent : Int) :
    Numeric layout.marks (layout.pointed digits exponent) := by
  have point := layout.point_mem_marks
  unfold pointed
  split
  · exact .cons (.inl (by decide)) (.cons (.inr point) (.append (.zeros _) numeric))
  · dsimp only
    split
    · exact .append (.append numeric (.zeros _)) layout.numeric_wholeSuffix
    · refine .append (numeric.subset (List.take_subset _ _)) ?_
      exact .cons (.inr point) (numeric.subset (List.drop_subset _ _))

theorem numeric_scientificMantissa (numeric : Numeric layout.marks digits) :
    Numeric layout.marks (scientificMantissa digits) := by
  match digits with
  | [] => exact numeric
  | [_] => exact numeric
  | digit :: next :: rest =>
    have others : Numeric layout.marks (next :: rest) := numeric.subset (List.subset_cons_self _ _)
    exact .cons (numeric digit List.mem_cons_self) (.cons (.inr layout.point_mem_marks) others)

theorem numeric_scientific (numeric : Numeric layout.marks digits) (exponent : Int) :
    Numeric layout.marks (layout.scientific digits exponent) := by
  have letter : 'e' ∈ layout.marks := by simp [marks]
  refine .append (numeric_scientificMantissa numeric) (.cons (.inr letter) ?_)
  refine .append ?_ (.toDigits _)
  split
  · exact layout.numeric_minus
  · exact layout.numeric_exponentSign

theorem numeric_text (layout : DoubleLayout) (x : Double) :
    Numeric layout.marks (layout.text x) := by
  refine .append ?_ ?_
  · split
    · exact layout.numeric_minus
    · exact .of_marks (List.nil_subset _)
  · unfold magnitude
    dsimp only
    split
    · exact numeric_pointed (.toDigits _) _
    · exact numeric_scientific (.toDigits _) _

end DoubleLayout

namespace Json

theorem numeric_integerText (n : Int) : Numeric doubleLayout.marks (integerText n) := by
  refine .append ?_ (.toDigits _)
  split
  · exact doubleLayout.numeric_minus
  · exact .of_marks (List.nil_subset _)

theorem numeric_numberText (value : Number) :
    Numeric doubleLayout.marks (numberText value).toList := by
  cases value with
  | integer n => exact String.toList_ofList ▸ numeric_integerText n
  | double x => exact String.toList_ofList ▸ doubleLayout.numeric_text x

theorem numeric_plainNumber (value : Number) :
    Numeric doubleLayout.marks (plainNumber value).toList := by
  cases value with
  | integer n => exact String.toList_ofList ▸ numeric_integerText n
  | double x =>
    change Numeric _ (plainDouble x).toList
    unfold plainDouble
    split
    · exact .toDigits 0
    · split
      · exact String.toList_ofList ▸ numeric_integerText _
      · exact numeric_numberText _

theorem neutral_of_numeric {text : List Char} (numeric : Numeric doubleLayout.marks text) :
    Neutral text :=
  ⟨numeric.not_mem (by decide) (by decide), numeric.not_mem (by decide) (by decide)⟩

theorem neutral_numberText (value : Number) : Neutral (numberText value).toList :=
  neutral_of_numeric (numeric_numberText value)

theorem neutral_plainNumber (value : Number) : Neutral (plainNumber value).toList :=
  neutral_of_numeric (numeric_plainNumber value)

end Json
end TableClient
