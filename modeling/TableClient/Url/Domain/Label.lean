import TableClient.Text.Direction
import TableClient.Text.Joining
import TableClient.Text.Mark
import TableClient.Url.Domain.Folding
import TableClient.Url.Punycode
/-! The labels of a domain name, which has dots between them. A label beyond ASCII is
written in Punycode behind `xn--`, and one that is already written so must decode to a
folded label. No label starts with a mark, and the characters that join letters or keep
them apart stand only where they can be seen. -/
namespace TableClient.Url.Domain

structure Label where
  /-- The characters that are meant. -/
  characters : List Char
  /-- Their form in ASCII. -/
  written : List Char
deriving DecidableEq, Repr

/-- Characters that no domain may hold. -/
def isForbidden (c : Char) : Bool :=
  c.toNat ≤ 0x20 || c = '\x7f' || ['#', '/', ':', '<', '>', '?', '@', '[', '\\', ']', '^', '|',
    '%'].contains c

namespace Label

def isJoiner (c : Char) : Bool := c = '\u200d'

def isNonJoiner (c : Char) : Bool := c = '\u200c'

/-- How the nearest character joins that is not transparent. -/
def nearestJoining (characters : List Char) : Text.Joining :=
  ((characters.map Text.Joining.ofChar).find? (· ≠ .transparent)).getD .none

/-- Whether two sides of a text, each from the near end on, join where they meet. -/
def joins (before behind : List Char) : Bool :=
  [.left, .dual].contains (nearestJoining before) &&
    [.right, .dual].contains (nearestJoining behind)

/-- Whether a character may stand between what is before it, the last one first, and what is
behind it. A joiner follows a letter without its vowel; a non-joiner may also part letters. -/
def fitsBetween (before : List Char) (c : Char) (behind : List Char) : Bool :=
  if isJoiner c ∨ isNonJoiner c then
    before.head?.any (Text.Canonical.rank · = Text.Canonical.viramaRank) ||
      (isNonJoiner c && joins before behind)
  else true

def joinersFit (before : List Char) : List Char → Bool
  | [] => true
  | c :: rest => fitsBetween before c rest && joinersFit (c :: before) rest

def isSound (characters : List Char) : Bool :=
  !characters.head?.any Text.isMark && joinersFit [] characters

/-- The longest label that is put into Punycode. -/
def longestMeant : Nat := 1000

/-- The longest text that is read as Punycode. -/
def longestWritten : Nat := 2000

def ofFolded? (characters : List Char) : Option Label :=
  if characters.all Punycode.isBasic then some ⟨characters, characters⟩
  else if longestMeant < characters.length ∨ !isSound characters then none
  else some ⟨characters, 'x' :: 'n' :: '-' :: '-' :: Punycode.encode characters⟩

/-- Whether a label that was decoded is one that would be coded. -/
def isFolded (characters : List Char) : Bool :=
  !characters.all Punycode.isBasic && Folding.text? characters = some characters &&
    !characters.any (fun c => isForbidden c || c = '.')

/-- The label that is written in Punycode. -/
def ofCoded? (coded : List Char) : Option Label :=
  if longestWritten < coded.length ∨ coded.getLast? = some '-' then none
  else do
    let characters ← Punycode.decode? coded
    if isFolded characters && isSound characters then
      return ⟨characters, 'x' :: 'n' :: '-' :: '-' :: coded⟩
    else none

def read? : List Char → Option Label
  | 'x' :: 'n' :: '-' :: '-' :: coded => ofCoded? coded
  | characters => ofFolded? characters

/-- Whether the directions of a label that is written beside others from right to left cannot
be mistaken: it starts with a letter, holds nothing of the other direction and ends with a
letter or a number, and numbers are of one kind from right to left. -/
def directionsFit (label : Label) : Bool :=
  match label.characters.map Text.Direction.ofChar with
  | [] => true
  | first :: rest =>
    let tail := (rest.reverse.dropWhile (· = .mark)).reverse
    match first with
    | .leftToRight =>
      tail.all [.leftToRight, .europeanNumber, .neutral, .mark].contains &&
        tail.getLast?.all [.leftToRight, .europeanNumber].contains
    | .rightToLeft =>
      tail.all [.rightToLeft, .arabicNumber, .europeanNumber, .neutral, .mark].contains &&
        tail.getLast?.all [.rightToLeft, .europeanNumber, .arabicNumber].contains &&
        !(tail.contains .europeanNumber && tail.contains .arabicNumber)
    | _ => false

end Label
end TableClient.Url.Domain
