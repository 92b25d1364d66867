import TableClient.Proofs.Printer
/-! Where the literals of a formula end. A reader takes the character behind a backslash as
it is and ends a literal at the first quote that is left. Writing puts a backslash in
front of the quotes of a text, but none in front of its backslashes or of the quotes in a
list or an object. So a literal ends where its operand does exactly if the runs of
backslashes in the operand have the right parity. -/
namespace TableClient

namespace Quoting

/-- What stands behind the first quote that no backslash makes literal. -/
def afterLiteral : List Char → Option (List Char)
  | [] => none
  | '\x27' :: rest => some rest
  | '\\' :: _ :: rest => afterLiteral rest
  | _ :: rest => afterLiteral rest

def backslashesAtEnd (text : List Char) : Nat :=
  text.foldl (fun count c => if c = '\\' then count + 1 else 0) 0

/-- Each quote stands behind a run of backslashes whose length is even or odd as told by the
parity, and the run at the end of the text is even. -/
def Guarded (parity : Nat) (text : List Char) : Prop :=
  (∀ front back, text = front ++ '\x27' :: back → backslashesAtEnd front % 2 = parity) ∧
    backslashesAtEnd text % 2 = 0

/-- The operands whose literal ends where they do. The quotes of a text get a backslash more
than they have; those of a list keep the ones they have; an object shows its quotes bare. -/
def Harmless : Json → Prop
  | .null | .bool _ | .number _ => True
  | .string text => Guarded 0 text.toList
  | .array items => Guarded 1 (Json.plainItems items).toList
  | .object members => '\x27' ∉ (Json.compact (.object members)).toList

/-- A text whose backslashes each stand with the character behind them, which is no quote. -/
inductive Paired : List Char → Prop
  | nil : Paired []
  | single : c ≠ '\\' → Paired rest → Paired (c :: rest)
  | pair : c ≠ '\x27' → Paired rest → Paired ('\\' :: c :: rest)

variable {parity : Nat} {c : Char} {text rest back : List Char}

theorem length_afterLiteral (ended : afterLiteral text = some back) :
    back.length < text.length := by
  fun_induction afterLiteral text with
  | case1 => simp at ended
  | case2 rest =>
    obtain rfl := Option.some.inj ended
    simp
  | case3 _ rest ih =>
    have shorter := ih ended
    simp only [List.length_cons]
    omega
  | case4 _ rest _ _ ih =>
    have shorter := ih ended
    simp only [List.length_cons]
    omega

theorem afterLiteral_cons (quote : c ≠ '\x27') (backslash : c ≠ '\\') :
    afterLiteral (c :: rest) = afterLiteral rest := by
  rw [afterLiteral.eq_4 c rest quote (fun _ _ escapes => absurd escapes backslash)]

theorem backslashesAtEnd_cons (backslash : c ≠ '\\') :
    backslashesAtEnd (c :: rest) = backslashesAtEnd rest := by
  simp [backslashesAtEnd, backslash]

/-- Two backslashes more at the start of a run leave its parity. -/
theorem foldl_add_two (rest : List Char) (start : Nat) :
    rest.foldl (fun count c => if c = '\\' then count + 1 else 0) (start + 2) % 2 =
      rest.foldl (fun count c => if c = '\\' then count + 1 else 0) start % 2 := by
  induction rest generalizing start with
  | nil => simp
  | cons c rest ih =>
    by_cases same : c = '\\'
    · simpa [same] using ih (start + 1)
    · simp [same]

theorem backslashesAtEnd_escape (c : Char) :
    backslashesAtEnd ('\\' :: c :: rest) % 2 = backslashesAtEnd rest % 2 := by
  by_cases same : c = '\\'
  · simpa [backslashesAtEnd, same] using foldl_add_two rest 0
  · simp [backslashesAtEnd, same]

/-- A quote in a text is its first character or stands in the rest. -/
theorem forall_quote_cons {P : List Char → Prop} :
    (∀ front back, c :: rest = front ++ '\x27' :: back → P front) ↔
      (c = '\x27' → P []) ∧ ∀ front back, rest = front ++ '\x27' :: back → P (c :: front) := by
  constructor
  · intro all
    refine ⟨fun same => all [] rest (by simp [same]), ?_⟩
    intro front back split
    exact all (c :: front) back (by simp [split])
  · rintro ⟨first, later⟩ front back split
    cases front with
    | nil => exact first (List.cons.inj split).1
    | cons d front =>
      obtain ⟨rfl, inner⟩ := List.cons.inj split
      exact later front back inner

theorem guarded_nil : Guarded parity [] := by
  refine ⟨?_, rfl⟩
  intro front back split
  simp at split

theorem guarded_cons (backslash : c ≠ '\\') :
    Guarded parity (c :: rest) ↔ (c = '\x27' → parity = 0) ∧ Guarded parity rest := by
  unfold Guarded
  rw [forall_quote_cons, backslashesAtEnd_cons backslash]
  simp only [backslashesAtEnd_cons backslash, and_assoc]
  simp [backslashesAtEnd, eq_comm]

theorem guarded_escape (c : Char) :
    Guarded parity ('\\' :: c :: rest) ↔ (c = '\x27' → parity = 1) ∧ Guarded parity rest := by
  unfold Guarded
  rw [forall_quote_cons, forall_quote_cons, backslashesAtEnd_escape]
  simp only [backslashesAtEnd_escape, and_assoc]
  simp [backslashesAtEnd, eq_comm]

theorem not_guarded_backslash : ¬ Guarded parity ['\\'] := by
  rintro ⟨-, even⟩
  exact absurd even (by decide)

/-- A literal ends behind its text exactly if every quote in the text is made literal and
the quote behind it is not. -/
theorem afterLiteral_eq_iff (text back : List Char) :
    afterLiteral (text ++ '\x27' :: back) = some back ↔ Guarded 1 text := by
  fun_induction afterLiteral text with
  | case1 => exact iff_of_true rfl guarded_nil
  | case2 rest =>
    refine iff_of_false ?_ ?_
    · intro ended
      have short := congrArg List.length (Option.some.inj ended)
      simp at short
      omega
    · rw [guarded_cons (by decide)]
      simp
  | case3 c rest ih =>
    rw [guarded_escape]
    simpa [afterLiteral] using ih
  | case4 c rest quote escape ih =>
    by_cases backslash : c = '\\'
    · subst backslash
      cases rest with
      | cons d rest => exact absurd rfl (escape d rest rfl)
      | nil =>
        refine iff_of_false ?_ not_guarded_backslash
        intro ended
        have short := length_afterLiteral (show afterLiteral back = some back from ended)
        omega
    · rw [guarded_cons backslash, List.cons_append, afterLiteral_cons quote backslash, ih]
      exact (and_iff_right fun same => absurd same quote).symm

theorem guarded_of_neutral (neutral : Neutral text) : Guarded parity text := by
  induction text with
  | nil => exact guarded_nil
  | cons c rest ih =>
    have backslash : c ≠ '\\' := fun same => neutral.2 (by simp [same])
    have quote : c ≠ '\x27' := fun same => neutral.1 (by simp [same])
    exact (guarded_cons backslash).mpr
      ⟨fun same => absurd same quote, ih (neutral.subset (List.subset_cons_self _ _))⟩

theorem escapeQuote_of_ne (quote : c ≠ '\x27') : escapeQuote c = [c] := by
  simp [escapeQuote, quote]

/-- A backslash in front of each quote makes odd runs in front of quotes of even ones. -/
theorem guarded_escapeQuote (text : List Char) :
    Guarded 1 (text.flatMap escapeQuote) ↔ Guarded 0 text := by
  match text with
  | [] => exact iff_of_true guarded_nil guarded_nil
  | c :: rest =>
    have tail := guarded_escapeQuote rest
    rw [List.flatMap_cons]
    by_cases quote : c = '\x27'
    · subst quote
      rw [guarded_cons (by decide)]
      change Guarded 1 ('\\' :: '\x27' :: rest.flatMap escapeQuote) ↔ _
      rw [guarded_escape, tail]
      simp
    · rw [escapeQuote_of_ne quote]
      by_cases backslash : c = '\\'
      · subst backslash
        match rest with
        | [] => exact iff_of_false not_guarded_backslash not_guarded_backslash
        | d :: rest =>
          have behind := guarded_escapeQuote rest
          rw [guarded_escape, List.flatMap_cons]
          by_cases escaped : d = '\x27'
          · subst escaped
            refine iff_of_false ?_ (by simp)
            change ¬ Guarded 1 ('\\' :: '\\' :: '\x27' :: rest.flatMap escapeQuote)
            rw [guarded_escape, guarded_cons (by decide)]
            simp
          · rw [escapeQuote_of_ne escaped]
            change Guarded 1 ('\\' :: d :: rest.flatMap escapeQuote) ↔ _
            rw [guarded_escape, behind]
            simp [escaped]
      · change Guarded 1 (c :: rest.flatMap escapeQuote) ↔ _
        rw [guarded_cons backslash, guarded_cons backslash, tail]
        simp [quote]

theorem Paired.append (first : Paired text) (second : Paired back) : Paired (text ++ back) := by
  induction first with
  | nil => exact second
  | single backslash _ ih => exact .single backslash ih
  | pair quote _ ih => exact .pair quote ih

theorem Paired.of_neutral (neutral : Neutral text) : Paired text := by
  induction text with
  | nil => exact .nil
  | cons c rest ih =>
    have backslash : c ≠ '\\' := fun same => neutral.2 (by simp [same])
    exact .single backslash (ih (neutral.subset (List.subset_cons_self _ _)))

/-- No backslash of such a text makes a quote literal. -/
theorem Paired.guarded_iff (paired : Paired text) : Guarded 1 text ↔ '\x27' ∉ text := by
  induction paired with
  | nil => exact iff_of_true guarded_nil List.not_mem_nil
  | @single c rest backslash _ ih =>
    rw [guarded_cons backslash, ih, List.mem_cons, not_or]
    simp [eq_comm]
  | @pair c rest quote _ ih =>
    rw [guarded_escape, ih, List.mem_cons, List.mem_cons, not_or, not_or]
    simp [quote, Ne.symm quote]

theorem paired_escapeChar (c : Char) : Paired (Json.escapeChar c) := by
  rcases Json.escapeChar_cases c with
    ⟨letter, read, shown⟩ | ⟨low, shown⟩ | ⟨-, backslash, -, shown⟩
  · rw [shown]
    refine .pair ?_ .nil
    rintro rfl
    cases read
  · rw [shown]
    refine .pair (by decide) (.single (by decide) (.single (by decide) ?_))
    have first := (Json.hexDigit_ne (c.toNat / 16) (by omega)).2
    have second := (Json.hexDigit_ne (c.toNat % 16) (by omega)).2
    exact .single first (.single second .nil)
  · rw [shown]
    exact .single backslash .nil

theorem paired_quoted (text : String) : Paired (Json.quoted text).toList := by
  have inner : Paired (text.toList.flatMap Json.escapeChar) := by
    induction text.toList with
    | nil => exact .nil
    | cons c rest ih => exact (paired_escapeChar c).append ih
  simp only [Json.quoted, String.toList_append, String.toList_ofList]
  exact (Paired.append (.single (by decide) .nil) inner).append (.single (by decide) .nil)

theorem paired_scalarText (value : Json) : Paired value.scalarText.toList := by
  match value with
  | .null | .bool true | .bool false => exact .of_neutral (by decide)
  | .array _ | .object _ => exact .nil
  | .number value => exact .of_neutral (Json.neutral_numberText value)
  | .string text => exact paired_quoted text

theorem paired_compact (value : Json) : Paired value.compact.toList := by
  have marks : ∀ c ∈ ['[', ']', '\x7b', '\x7d', ',', ':'], Neutral [c] := by simp [Neutral]
  have composed : Json.Composed Paired :=
    ⟨paired_scalarText, fun c mark => .of_neutral (marks c mark), fun _ _ => Paired.append⟩
  exact composed.compact value

/-- The literal of an operand ends where the operand does exactly if the operand is harmless,
whatever stands behind the literal. -/
theorem afterLiteral_operandText_iff (operand : Json) (back : List Char) :
    afterLiteral ((operandText operand).toList ++ '\x27' :: back) = some back ↔
      Harmless operand := by
  rw [afterLiteral_eq_iff]
  match operand with
  | .null | .bool true | .bool false =>
    exact iff_of_true (guarded_of_neutral (by decide)) trivial
  | .number value => exact iff_of_true (guarded_of_neutral (Json.neutral_plainNumber value)) trivial
  | .string text =>
    simp only [operandText, String.toList_ofList]
    exact guarded_escapeQuote text.toList
  | .array items => exact Iff.rfl
  | .object members => exact (paired_compact (.object members)).guarded_iff

end Quoting
end TableClient
