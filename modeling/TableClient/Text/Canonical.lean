import TableClient.Text.Canonical.Pairs
import TableClient.Text.Canonical.Rank
/-! Texts in canonical composition, so that two ways to write the same characters become
one. All characters are taken apart, the marks behind each letter are put in the order of
their ranks, and then each letter takes up what follows it and makes one character with
it. -/
namespace TableClient.Text.Canonical

/-- The steps in which a character is taken apart; no character needs more of them. -/
def depth : Nat := 3

/-- A character taken apart: only the first of its parts has parts again. -/
def decompose : Nat → Char → List Char
  | 0, c => [c]
  | steps + 1, c =>
    match parts? c with
    | some (first, second) => decompose steps first ++ [second]
    | none => [c]

/-- Moves a mark behind all marks of lower rank that follow it. -/
def insertRanked (c : Char) : List Char → List Char
  | [] => [c]
  | next :: rest =>
    if 0 < rank next ∧ rank next < rank c then next :: insertRanked c rest else c :: next :: rest

/-- Puts marks in order; marks of one rank keep theirs, and no mark passes a letter. -/
def ordered (text : List Char) : List Char := text.foldr insertRanked []

/-- Whether marks, the last one first, keep a character from the letter in front of them. -/
def isBlocked (marks : List Char) (c : Char) : Bool := marks.head?.any fun last => rank c ≤ rank last

/-- Joins a letter to what follows it, behind the marks that stay, the last one first. -/
def joinFrom (letter : Char) (marks : List Char) : List Char → List Char
  | [] => letter :: marks.reverse
  | c :: rest =>
    match if isBlocked marks c then none else whole? letter c with
    | some whole => joinFrom whole marks rest
    | none =>
      if rank c = 0 then letter :: marks.reverse ++ joinFrom c [] rest
      else joinFrom letter (c :: marks) rest

/-- Marks in front of the first letter stay as they are. -/
def joined : List Char → List Char
  | [] => []
  | c :: rest => if rank c = 0 then joinFrom c [] rest else c :: joined rest

/-- The composed form of a text. In front of U+0300 nothing has to be taken apart or joined. -/
def compose (text : List Char) : List Char :=
  if text.all fun c => c.toNat < 0x300 then text
  else joined (ordered (text.flatMap (decompose depth)))

end TableClient.Text.Canonical
