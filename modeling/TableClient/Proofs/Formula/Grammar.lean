import TableClient.Query.Condition
/-! The grammar of formulas, and why a text has at most one reading. Each judgment reads a
phrase at the start of a text and leaves the rest; a field ends at its first closing
brace, a literal at the first quote without a backslash in front of it. The first
character of a condition tells its form, so no two readings part ways. -/
namespace TableClient.Grammar

def Word (word : String) (text rest : List Char) : Prop := text = word.toList ++ rest

def Field (text : List Char) (field : String) (rest : List Char) : Prop :=
  text = '\x7b' :: field.toList ++ '\x7d' :: rest ∧ '\x7d' ∉ field.toList

/-- A literal behind its opening quote. A backslash and a quote stand for a quote, a quote
alone ends the literal, and every other character stands for itself. -/
inductive Literal : List Char → List Char → List Char → Prop
  | close : Literal ('\x27' :: rest) [] rest
  | quote : Literal text value rest → Literal ('\\' :: '\x27' :: text) ('\x27' :: value) rest
  | other : c ≠ '\x27' → (c = '\\' → text.head? ≠ some '\x27') → Literal text value rest →
      Literal (c :: text) (c :: value) rest

mutual

inductive Reads : List Char → Condition String → List Char → Prop
  | equals : Field text field sign → Word " = \x27" sign body → Literal body value rest →
      Reads text (.equals field (String.ofList value)) rest
  | compares : Field text field sign → Word (" " ++ comparison.sign ++ " \x27") sign body →
      Literal body value rest →
      Reads text (.compares field comparison (String.ofList value)) rest
  | holds : Word "FIND(\x27" text body → Literal body value join →
      Word ", ARRAYJOIN(" join list → Field list field tail →
      Word ", \x27,\x27)) > 0" tail rest →
      Reads text (.holds field (String.ofList value)) rest
  | negation : Word "NOT(" text body → Reads body condition close → Word ")" close rest →
      Reads text (.negation condition) rest
  | allOf : Word "AND(" text body → Arguments body conditions rest →
      Reads text (.allOf conditions) rest
  | anyOf : Word "OR(" text body → Arguments body conditions rest →
      Reads text (.anyOf conditions) rest

/-- Conditions with commas between them, and the closing parenthesis. -/
inductive Arguments : List Char → List (Condition String) → List Char → Prop
  | none : Word ")" text rest → Arguments text [] rest
  | first : Reads text condition tail → Further tail conditions rest →
      Arguments text (condition :: conditions) rest

inductive Further : List Char → List (Condition String) → List Char → Prop
  | none : Word ")" text rest → Further text [] rest
  | next : Word "," text body → Reads body condition tail → Further tail conditions rest →
      Further text (condition :: conditions) rest

end

theorem Word.unique (first : Word word text rest) (second : Word word text rest') :
    rest = rest' :=
  List.append_cancel_left (first.symm.trans second)

/-- A text is parted in one way at the first place where a character occurs. -/
theorem split_unique {front front' rest rest' : List Char} {c : Char} (absent : c ∉ front)
    (absent' : c ∉ front') (same : front ++ c :: rest = front' ++ c :: rest') :
    front = front' ∧ rest = rest' := by
  rcases List.append_eq_append_iff.mp same with ⟨middle, rfl, tail⟩ | ⟨middle, rfl, tail⟩
  · cases middle with
    | nil => exact ⟨(List.append_nil _).symm, (List.cons.inj tail).2⟩
    | cons d middle =>
      obtain rfl := (List.cons.inj tail).1
      exact absurd (by simp) absent'
  · cases middle with
    | nil => exact ⟨List.append_nil _, (List.cons.inj tail).2.symm⟩
    | cons d middle =>
      obtain rfl := (List.cons.inj tail).1
      exact absurd (by simp) absent

theorem Field.unique (first : Field text field rest) (second : Field text field' rest') :
    field = field' ∧ rest = rest' := by
  obtain ⟨rfl, absent⟩ := first
  obtain ⟨same, absent'⟩ := second
  obtain ⟨fields, rests⟩ := split_unique absent absent' (List.cons.inj same).2
  exact ⟨String.toList_inj.mp fields, rests⟩

theorem Literal.unique (first : Literal text value rest) (second : Literal text value' rest') :
    value = value' ∧ rest = rest' := by
  induction first generalizing value' with
  | close =>
    cases second with
    | close => exact ⟨rfl, rfl⟩
    | other quote => exact absurd rfl quote
  | quote _ ih =>
    cases second with
    | quote body =>
      obtain ⟨rfl, rfl⟩ := ih body
      exact ⟨rfl, rfl⟩
    | other _ escape => exact absurd rfl (escape rfl)
  | other quote escape _ ih =>
    cases second with
    | close => exact absurd rfl quote
    | quote => exact absurd rfl (escape rfl)
    | other _ _ body =>
      obtain ⟨rfl, rfl⟩ := ih body
      exact ⟨rfl, rfl⟩

def initial : Condition String → Option Char
  | .equals _ _ | .compares _ _ _ => '\x7b'
  | .holds _ _ => 'F'
  | .negation _ => 'N'
  | .allOf _ => 'A'
  | .anyOf _ => 'O'
  | .verbatim _ => none

theorem Reads.head (read : Reads text tree rest) : text.head? = initial tree := by
  cases read with
  | equals field | compares field =>
    rw [field.1]
    rfl
  | holds word | negation word | allOf word | anyOf word =>
    rw [word]
    rfl

theorem sign_unique {comparison comparison' : Comparison}
    (first : Word (" " ++ comparison.sign ++ " \x27") text rest)
    (second : Word (" " ++ comparison'.sign ++ " \x27") text rest') :
    comparison = comparison' ∧ rest = rest' := by
  have signs := first.symm.trans second
  cases comparison <;> cases comparison' <;>
    simp [Comparison.sign] at signs <;> exact ⟨rfl, signs⟩

/-- Equality is written with a sign of its own. -/
theorem not_equality_and_comparison {comparison : Comparison} (first : Word " = \x27" text rest)
    (second : Word (" " ++ comparison.sign ++ " \x27") text rest') : False := by
  have signs := first.symm.trans second
  cases comparison <;> simp [Comparison.sign] at signs

/-- No condition starts where an argument list is closed. -/
theorem Reads.not_close (read : Reads text tree rest) (close : Word ")" text rest') : False := by
  have head := read.head
  rw [close] at head
  cases tree <;> simp [initial] at head

mutual

theorem Reads.unique (first : Reads text tree rest) (second : Reads text tree' rest') :
    tree = tree' ∧ rest = rest' := by
  have heads := first.head.symm.trans second.head
  -- Of two forms only equality and comparison start alike; their signs tell them apart.
  match first with
  | .equals field sign literal =>
    cases second with
    | equals field' sign' literal' =>
      obtain ⟨rfl, rfl⟩ := field.unique field'
      obtain rfl := sign.unique sign'
      obtain ⟨rfl, rfl⟩ := literal.unique literal'
      exact ⟨rfl, rfl⟩
    | compares field' sign' =>
      obtain ⟨rfl, rfl⟩ := field.unique field'
      exact (not_equality_and_comparison sign sign').elim
    | holds | negation | allOf | anyOf => simp [initial] at heads
  | .compares field sign literal =>
    cases second with
    | equals field' sign' =>
      obtain ⟨rfl, rfl⟩ := field.unique field'
      exact (not_equality_and_comparison sign' sign).elim
    | compares field' sign' literal' =>
      obtain ⟨rfl, rfl⟩ := field.unique field'
      obtain ⟨rfl, rfl⟩ := sign_unique sign sign'
      obtain ⟨rfl, rfl⟩ := literal.unique literal'
      exact ⟨rfl, rfl⟩
    | holds | negation | allOf | anyOf => simp [initial] at heads
  | .holds find literal join field close =>
    cases second with
    | holds find' literal' join' field' close' =>
      obtain rfl := find.unique find'
      obtain ⟨rfl, rfl⟩ := literal.unique literal'
      obtain rfl := join.unique join'
      obtain ⟨rfl, rfl⟩ := field.unique field'
      exact ⟨rfl, close.unique close'⟩
    | equals | compares | negation | allOf | anyOf => simp [initial] at heads
  | .negation word body close =>
    cases second with
    | negation word' body' close' =>
      obtain rfl := word.unique word'
      obtain ⟨rfl, rfl⟩ := body.unique body'
      exact ⟨rfl, close.unique close'⟩
    | equals | compares | holds | allOf | anyOf => simp [initial] at heads
  | .allOf word arguments =>
    cases second with
    | allOf word' arguments' =>
      obtain rfl := word.unique word'
      obtain ⟨rfl, rfl⟩ := arguments.unique arguments'
      exact ⟨rfl, rfl⟩
    | equals | compares | holds | negation | anyOf => simp [initial] at heads
  | .anyOf word arguments =>
    cases second with
    | anyOf word' arguments' =>
      obtain rfl := word.unique word'
      obtain ⟨rfl, rfl⟩ := arguments.unique arguments'
      exact ⟨rfl, rfl⟩
    | equals | compares | holds | negation | allOf => simp [initial] at heads

theorem Arguments.unique (first : Arguments text trees rest)
    (second : Arguments text trees' rest') : trees = trees' ∧ rest = rest' := by
  match first with
  | .none close =>
    cases second with
    | none close' => exact ⟨rfl, close.unique close'⟩
    | first read => exact (read.not_close close).elim
  | .first read further =>
    cases second with
    | none close => exact (read.not_close close).elim
    | first read' further' =>
      obtain ⟨rfl, rfl⟩ := read.unique read'
      obtain ⟨rfl, rfl⟩ := further.unique further'
      exact ⟨rfl, rfl⟩

theorem Further.unique (first : Further text trees rest)
    (second : Further text trees' rest') : trees = trees' ∧ rest = rest' := by
  match first with
  | .none close =>
    cases second with
    | none close' => exact ⟨rfl, close.unique close'⟩
    | next comma => simp [Word] at close comma; simp [close] at comma
  | .next comma read further =>
    cases second with
    | none close => simp [Word] at close comma; simp [close] at comma
    | next comma' read' further' =>
      obtain rfl := comma.unique comma'
      obtain ⟨rfl, rfl⟩ := read.unique read'
      obtain ⟨rfl, rfl⟩ := further.unique further'
      exact ⟨rfl, rfl⟩

end

end TableClient.Grammar
