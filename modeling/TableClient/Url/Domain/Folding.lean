import TableClient.Text.Canonical
import TableClient.Url.Domain.Folding.Table
/-! Names made equal: capitals become small, forms kept for compatibility become the
characters that they stand for, characters of no width are left out, and the rest is
composed. A character that no name may hold is refused. -/
namespace TableClient.Url.Domain.Folding

/-- What becomes of the characters of a run. -/
inductive Rule
  | kept
  | refused
  | dropped
  | up (distance : Nat)
  | down (distance : Nat)
  /-- Capitals and their small letters in turn. -/
  | paired
  | listed (texts : List (List Char))
deriving DecidableEq, Repr

namespace Rule

def readListed? (value : List Char) : Option Rule := do
  let texts ← (Text.splitOn (· == ',') value).mapM fun text =>
    (Text.splitOn (· == '.') text).mapM Text.hexNumber?
  return .listed (texts.map (·.map Char.ofNat))

def read? : List Char → Option Rule
  | ['+'] => some .kept
  | ['!'] => some .refused
  | ['-'] => some .dropped
  | ['~'] => some .paired
  | '>' :: distance => (Text.hexNumber? distance).map .up
  | '<' :: distance => (Text.hexNumber? distance).map .down
  | value => readListed? value

/-- What becomes of a character by the rule of a run that starts at a code point. -/
def result? (rule : Rule) (start : Nat) (c : Char) : Option (List Char) :=
  match rule with
  | .kept => some [c]
  | .refused => none
  | .dropped => some []
  | .up distance => some [Char.ofNat (c.toNat + distance)]
  | .down distance => some [Char.ofNat (c.toNat - distance)]
  | .paired => some [if (c.toNat - start) % 2 = 0 then Char.ofNat (c.toNat + 1) else c]
  | .listed texts => texts[c.toNat - start]?

end Rule

def runs : Array (Text.Run Rule) :=
  Text.Run.ofLines Rule.read? (alphabets ++ symbols ++ ideographs ++ supplementary)

/-- What becomes of a character; none if it is refused. -/
def char? (c : Char) : Option (List Char) :=
  if c.toNat < 0x80 then some [c.toLower]
  else (Text.Run.find? runs c.toNat).bind fun run => run.value.result? run.start c

def text? (text : List Char) : Option (List Char) := do
  return Text.Canonical.compose (← text.mapM char?).flatten

end TableClient.Url.Domain.Folding
