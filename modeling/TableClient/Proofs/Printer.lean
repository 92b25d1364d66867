import TableClient.Json.Token
import TableClient.Proofs.Formula.NumberText
/-! What compact JSON text shows. It is put together from scalars and marks, none of which breaks a
line. A quoted text is read back from the text that it starts, so objects whose members start with
different keys have different texts. -/
namespace TableClient.Json

/-- A property of texts that scalars and marks have, and any two texts in a row that have it. -/
structure Composed (P : List Char → Prop) : Prop where
  scalar : ∀ value : Json, P value.scalarText.toList
  mark : ∀ c ∈ ['[', ']', '\x7b', '\x7d', ',', ':'], P [c]
  append : ∀ front back : List Char, P front → P back → P (front ++ back)

variable {P : List Char → Prop}

namespace Composed

theorem listed (composed : Composed P) {front back : String} (first : P front.toList)
    (later : P back.toList) : P (front ++ "," ++ back).toList := by
  simp only [String.toList_append]
  exact composed.append _ _ (composed.append _ _ first (composed.mark ',' (by decide))) later

theorem named (composed : Composed P) (key : String) {text : String} (value : P text.toList) :
    P (quoted key ++ ":" ++ text).toList := by
  have own : P (quoted key).toList := composed.scalar (.string key)
  simp only [String.toList_append]
  exact composed.append _ _ (composed.append _ _ own (composed.mark ':' (by decide))) value

mutual

theorem compact (composed : Composed P) (value : Json) : P value.compact.toList := by
  match value with
  | .null => exact composed.scalar .null
  | .bool value => exact composed.scalar (.bool value)
  | .number value => exact composed.scalar (.number value)
  | .string text => exact composed.scalar (.string text)
  | .array items =>
    simp only [Json.compact, String.toList_append]
    refine composed.append _ _ (composed.append _ _ ?_ (composed.compactItems items)) ?_
    · exact composed.mark '[' (by decide)
    · exact composed.mark ']' (by decide)
  | .object members =>
    simp only [Json.compact, String.toList_append]
    refine composed.append _ _ (composed.append _ _ ?_ (composed.compactMembers members)) ?_
    · exact composed.mark '\x7b' (by decide)
    · exact composed.mark '\x7d' (by decide)

theorem compactItems (composed : Composed P) (items : List Json) :
    P (Json.compactItems items).toList := by
  match items with
  | [] => exact composed.scalar (.array [])
  | [item] => exact composed.compact item
  | item :: next :: rest =>
    rw [Json.compactItems]
    exact composed.listed (composed.compact item) (composed.compactItems (next :: rest))

theorem compactMembers (composed : Composed P) (members : List (String × Json)) :
    P (Json.compactMembers members).toList := by
  match members with
  | [] => exact composed.scalar (.object [])
  | [(key, value)] =>
    rw [Json.compactMembers]
    exact composed.named key (composed.compact value)
  | (key, value) :: next :: rest =>
    rw [Json.compactMembers]
    exact composed.listed (composed.named key (composed.compact value))
      (composed.compactMembers (next :: rest))

end

end Composed

/-- A character of a quoted text stands as it is, or behind a backslash by a letter or its number. -/
theorem escapeChar_cases (c : Char) :
    (∃ letter, Token.simpleEscape? letter = some c ∧ escapeChar c = ['\\', letter]) ∨
      (c.toNat < 0x20 ∧ escapeChar c =
        ['\\', 'u', '0', '0', hexDigit (c.toNat / 16), hexDigit (c.toNat % 16)]) ∨
      (c ≠ '"' ∧ c ≠ '\\' ∧ ¬c.toNat < 0x20 ∧ escapeChar c = [c]) := by
  by_cases lettered : ∃ letter, Token.simpleEscape? letter = some c ∧ escapeChar c = ['\\', letter]
  · exact .inl lettered
  have other (letter d : Char) (read : Token.simpleEscape? letter = some d)
      (shown : escapeChar d = ['\\', letter]) : c ≠ d := by
    rintro rfl
    exact lettered ⟨letter, read, shown⟩
  have quote := other '"' '"' rfl rfl
  have backslash := other '\\' '\\' rfl rfl
  have back := other 'b' '\x08' rfl rfl
  have feed := other 'f' '\x0c' rfl rfl
  have line := other 'n' '\n' rfl rfl
  have carriage := other 'r' '\r' rfl rfl
  have tab := other 't' '\t' rfl rfl
  right
  by_cases low : c.toNat < 0x20
  · refine .inl ⟨low, ?_⟩
    simp only [escapeChar, quote, backslash, back, feed, line, carriage, tab, low, if_false,
      if_true]
  · refine .inr ⟨quote, backslash, low, ?_⟩
    simp only [escapeChar, quote, backslash, back, feed, line, carriage, tab, low, if_false]

theorem hexDigit_ne : ∀ n < 16, hexDigit n ≠ '\n' ∧ hexDigit n ≠ '\\' := by decide

theorem line_escapeChar (c : Char) : '\n' ∉ escapeChar c := by
  rcases escapeChar_cases c with ⟨letter, read, shown⟩ | ⟨low, shown⟩ | ⟨-, -, high, shown⟩
  · rw [shown]
    have other : letter ≠ '\n' := by
      rintro rfl
      cases read
    simp [other.symm]
  · have first := (hexDigit_ne (c.toNat / 16) (by omega)).1
    have second := (hexDigit_ne (c.toNat % 16) (by omega)).1
    rw [shown]
    simp [first.symm, second.symm]
  · rw [shown, List.mem_singleton]
    rintro rfl
    exact high (by decide)

theorem line_quoted (text : String) : '\n' ∉ (quoted text).toList := by
  have inner : '\n' ∉ text.toList.flatMap escapeChar := by
    rw [List.mem_flatMap]
    rintro ⟨c, -, member⟩
    exact line_escapeChar c member
  simp [quoted, inner]

theorem line_scalarText (value : Json) : '\n' ∉ value.scalarText.toList := by
  match value with
  | .null | .bool true | .bool false => decide
  | .array _ | .object _ => exact List.not_mem_nil
  | .number value => exact (numeric_numberText value).not_mem (by decide) (by decide)
  | .string text => exact line_quoted text

/-- Compact text is a single line. -/
theorem line_compact (value : Json) : '\n' ∉ value.compact.toList := by
  have composed : Composed fun text => '\n' ∉ text := by
    refine ⟨line_scalarText, by simp, ?_⟩
    intro front back first second member
    exact (List.mem_append.mp member).elim first second
  exact composed.compact value

theorem joinPieces_unit {unit : Nat} (low : unit < 0xD800) (pieces : List Token.Piece) :
    Token.joinPieces (.unit unit :: pieces) =
      (Token.joinPieces pieces).map (Char.ofNat unit :: ·) := by
  have high : Token.isHighUnit unit = false := by
    simp only [Token.isHighUnit, Bool.and_eq_false_iff, decide_eq_false_iff_not]
    omega
  have second : Token.isLowUnit unit = false := by
    simp only [Token.isLowUnit, Bool.and_eq_false_iff, decide_eq_false_iff_not]
    omega
  cases pieces with
  | nil => simp [Token.joinPieces, high, second]
  | cons piece rest => cases piece <;> simp [Token.joinPieces, high, second]

theorem hexUnit?_escape : ∀ n < 0x20,
    Token.hexUnit? '0' '0' (hexDigit (n / 16)) (hexDigit (n % 16)) = some n := by decide

/-- A reader of strings takes the character back. -/
theorem scanString_escapeChar (c : Char) {rest after : List Char} {pieces : List Token.Piece}
    (read : Token.scanString rest = some (pieces, after)) :
    ∃ piece, Token.scanString (escapeChar c ++ rest) = some (piece :: pieces, after) ∧
      Token.joinPieces (piece :: pieces) = (Token.joinPieces pieces).map (c :: ·) := by
  rcases escapeChar_cases c with
    ⟨letter, simple, shown⟩ | ⟨low, shown⟩ | ⟨quote, backslash, high, shown⟩
  · refine ⟨.char c, ?_, by rw [Token.joinPieces]⟩
    have other : letter ≠ 'u' := by
      rintro rfl
      cases simple
    rw [shown]
    simp [Token.scanString, other, simple, read]
  · refine ⟨.unit c.toNat, ?_, ?_⟩
    · rw [shown]
      simp [Token.scanString, hexUnit?_escape c.toNat low, read]
    · rw [joinPieces_unit (by omega), Char.ofNat_toNat]
  · refine ⟨.char c, ?_, by rw [Token.joinPieces]⟩
    rw [shown]
    simp [Token.scanString, backslash, high, read]

/-- A quoted text is read back, and what stands behind it. -/
theorem scanString_escaped (text back : List Char) :
    ∃ pieces, Token.scanString (text.flatMap escapeChar ++ '"' :: back) = some (pieces, back) ∧
      Token.joinPieces pieces = some text := by
  induction text with
  | nil => exact ⟨[], by simp [Token.scanString], by rw [Token.joinPieces]⟩
  | cons c rest ih =>
    obtain ⟨pieces, read, joined⟩ := ih
    obtain ⟨piece, first, later⟩ := scanString_escapeChar c read
    refine ⟨piece :: pieces, ?_, ?_⟩
    · rw [List.flatMap_cons, List.append_assoc, first]
    · rw [later, joined, Option.map_some]

theorem quoted_append_inj {first second : String} {back back' : List Char}
    (same : (quoted first).toList ++ back = (quoted second).toList ++ back') : first = second := by
  have escaped : first.toList.flatMap escapeChar ++ '"' :: back =
      second.toList.flatMap escapeChar ++ '"' :: back' := by
    simpa [quoted] using same
  obtain ⟨pieces, read, joined⟩ := scanString_escaped first.toList back
  obtain ⟨pieces', read', joined'⟩ := scanString_escaped second.toList back'
  obtain ⟨rfl, -⟩ := Prod.mk.inj (Option.some.inj (read.symm.trans (escaped ▸ read')))
  exact String.toList_inj.mp (Option.some.inj (joined.symm.trans joined'))

theorem compactMembers_cons (key : String) (value : Json) {rest : Members Json} (more : rest ≠ []) :
    compactMembers ((key, value) :: rest) =
      quoted key ++ ":" ++ value.compact ++ "," ++ compactMembers rest := by
  cases rest with
  | nil => exact absurd rfl more
  | cons next rest => exact compactMembers.eq_3 key value next rest

/-- Behind the same members the texts of others are the same only if they are so alone. -/
theorem compactMembers_of_append {front back back' : Members Json} (more : back ≠ [])
    (more' : back' ≠ [])
    (same : compactMembers (front ++ back) = compactMembers (front ++ back')) :
    compactMembers back = compactMembers back' := by
  induction front with
  | nil => exact same
  | cons member front ih =>
    obtain ⟨key, value⟩ := member
    rw [List.cons_append, List.cons_append,
      compactMembers_cons key value (List.append_ne_nil_of_right_ne_nil _ more),
      compactMembers_cons key value (List.append_ne_nil_of_right_ne_nil _ more'),
      String.append_right_inj] at same
    exact ih same

theorem compactMembers_starts (key : String) (value : Json) (rest : Members Json) :
    ∃ back, (compactMembers ((key, value) :: rest)).toList = (quoted key).toList ++ back := by
  cases rest with
  | nil => simp [compactMembers, String.append_assoc]
  | cons next rest => simp [compactMembers, String.append_assoc]

/-- The text of members tells the key of the first one. -/
theorem key_of_compactMembers {key key' : String} {value value' : Json} {rest rest' : Members Json}
    (same : compactMembers ((key, value) :: rest) = compactMembers ((key', value') :: rest')) :
    key = key' := by
  obtain ⟨back, shown⟩ := compactMembers_starts key value rest
  obtain ⟨back', shown'⟩ := compactMembers_starts key' value' rest'
  rw [same, shown'] at shown
  exact quoted_append_inj shown.symm

end TableClient.Json
