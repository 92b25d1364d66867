import TableClient.Json.Numeral
/-! The lexemes of JSON text. A numeral past the largest number and a string with half of a
surrogate pair are well formed and denote nothing; such a token carries no value, so that
a reader may skip it and no reader can use it. -/
namespace TableClient.Json

inductive Token
  | openArray
  | closeArray
  | openObject
  | closeObject
  | comma
  | colon
  | null
  | bool (value : Bool)
  | number (value : Option Number)
  | string (value : Option String)

namespace Token

def hexUnit? (a b c d : Char) : Option Nat := do
  let high := (← Text.hexValue? a) * 16 + (← Text.hexValue? b)
  return high * 256 + ((← Text.hexValue? c) * 16 + (← Text.hexValue? d))

/-- A piece of a string: a character, or a UTF-16 unit of an escape. -/
inductive Piece
  | char (c : Char)
  | unit (value : Nat)

def isHighUnit (unit : Nat) : Bool := 0xD800 ≤ unit && unit < 0xDC00

def isLowUnit (unit : Nat) : Bool := 0xDC00 ≤ unit && unit < 0xE000

def pairValue (high low : Nat) : Nat := 0x10000 + (high - 0xD800) * 0x400 + (low - 0xDC00)

/-- The characters of a string; none if half of a surrogate pair stands alone. -/
def joinPieces : List Piece → Option (List Char)
  | [] => some []
  | .char c :: rest => (joinPieces rest).map (c :: ·)
  | .unit high :: .unit low :: rest =>
    if isHighUnit high then
      if isLowUnit low then (joinPieces rest).map (Char.ofNat (pairValue high low) :: ·) else none
    else if isLowUnit high then none
    else (joinPieces (.unit low :: rest)).map (Char.ofNat high :: ·)
  | .unit unit :: rest =>
    if isHighUnit unit || isLowUnit unit then none
    else (joinPieces rest).map (Char.ofNat unit :: ·)
termination_by pieces => pieces.length

def simpleEscape? : Char → Option Char
  | '"' => some '"'
  | '\\' => some '\\'
  | '/' => some '/'
  | 'b' => some '\x08'
  | 'f' => some '\x0c'
  | 'n' => some '\n'
  | 'r' => some '\r'
  | 't' => some '\t'
  | _ => none

/-- The pieces up to the closing quote, and the text behind it. -/
def scanString : List Char → Option (List Piece × List Char)
  | [] => none
  | '"' :: rest => some ([], rest)
  | '\\' :: 'u' :: a :: b :: c :: d :: rest => do
    let unit ← hexUnit? a b c d
    let (pieces, after) ← scanString rest
    return (.unit unit :: pieces, after)
  | '\\' :: escape :: rest => do
    let c ← simpleEscape? escape
    let (pieces, after) ← scanString rest
    return (.char c :: pieces, after)
  | c :: rest =>
    if c = '\\' ∨ c.toNat < 0x20 then none
    else do
      let (pieces, after) ← scanString rest
      return (.char c :: pieces, after)

def isBlank (c : Char) : Bool := c = ' ' || c = '\t' || c = '\n' || c = '\r'

/-- The token that starts with a character, and the text behind it. -/
def scanOne (c : Char) (rest : List Char) : Option (Token × List Char) :=
  match c, rest with
  | '[', _ => some (.openArray, rest)
  | ']', _ => some (.closeArray, rest)
  | '\x7b', _ => some (.openObject, rest)
  | '\x7d', _ => some (.closeObject, rest)
  | ',', _ => some (.comma, rest)
  | ':', _ => some (.colon, rest)
  | 'n', 'u' :: 'l' :: 'l' :: after => some (.null, after)
  | 't', 'r' :: 'u' :: 'e' :: after => some (.bool true, after)
  | 'f', 'a' :: 'l' :: 's' :: 'e' :: after => some (.bool false, after)
  | '"', _ => do
    let (pieces, after) ← scanString rest
    return (.string ((joinPieces pieces).map String.ofList), after)
  | _, _ => do
    let (numeral, after) ← Numeral.scan (c :: rest)
    return (.number numeral.value?, after)

theorem length_scanString {text after : List Char} {pieces : List Piece}
    (scanned : scanString text = some (pieces, after)) : after.length < text.length := by
  fun_induction scanString text generalizing pieces after with
  | case1 => simp at scanned
  | case2 rest =>
    simp only [Option.some.injEq, Prod.mk.injEq] at scanned
    simp [scanned.2]
  | case3 a b c d rest ih =>
    simp only [Option.bind_eq_bind, Option.bind_eq_some_iff] at scanned
    obtain ⟨unit, _, ⟨found, left⟩, inner, same⟩ := scanned
    simp only [Option.pure_def, Option.some.injEq, Prod.mk.injEq] at same
    have := ih inner
    simp only [List.length_cons, ← same.2]
    omega
  | case4 escape rest _ ih =>
    simp only [Option.bind_eq_bind, Option.bind_eq_some_iff] at scanned
    obtain ⟨c, _, ⟨found, left⟩, inner, same⟩ := scanned
    simp only [Option.pure_def, Option.some.injEq, Prod.mk.injEq] at same
    have := ih inner
    simp only [List.length_cons, ← same.2]
    omega
  | case5 => simp at scanned
  | case6 c rest _ _ _ _ ih =>
    simp only [Option.bind_eq_bind, Option.bind_eq_some_iff] at scanned
    obtain ⟨⟨found, left⟩, inner, same⟩ := scanned
    simp only [Option.pure_def, Option.some.injEq, Prod.mk.injEq] at same
    have := ih inner
    simp only [List.length_cons, ← same.2]
    omega

theorem length_scanOne {c : Char} {rest after : List Char} {token : Token}
    (scanned : scanOne c rest = some (token, after)) : after.length ≤ rest.length := by
  unfold scanOne at scanned
  split at scanned
  all_goals try (simp only [Option.some.injEq, Prod.mk.injEq] at scanned
                 simp only [← scanned.2, List.length_cons]
                 omega)
  · simp only [Option.bind_eq_bind, Option.bind_eq_some_iff] at scanned
    obtain ⟨⟨pieces, left⟩, inner, same⟩ := scanned
    simp only [Option.pure_def, Option.some.injEq, Prod.mk.injEq] at same
    have := length_scanString inner
    simp only [← same.2]
    omega
  · simp only [Option.bind_eq_bind, Option.bind_eq_some_iff] at scanned
    obtain ⟨⟨numeral, left⟩, inner, same⟩ := scanned
    simp only [Option.pure_def, Option.some.injEq, Prod.mk.injEq] at same
    have := Numeral.length_scan inner
    simp only [List.length_cons] at this
    simp only [← same.2]
    omega

/-- All tokens of a text. -/
def scanAll : List Char → Option (List Token)
  | [] => some []
  | c :: rest =>
    if isBlank c then scanAll rest
    else
      match _found : scanOne c rest with
      | none => none
      | some (token, after) => (scanAll after).map (token :: ·)
termination_by text => text.length
decreasing_by
  · simp
  · have := length_scanOne _found
    simp only [List.length_cons]
    omega

end Token
end TableClient.Json
