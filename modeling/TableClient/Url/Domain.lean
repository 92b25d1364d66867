import TableClient.Text.Split
import TableClient.Url.Domain.Label
/-! Domain names in their ASCII form: folded, and then each label for itself. Once a label
calls for writing from right to left, the directions of all labels have to fit. -/
namespace TableClient.Url.Domain

def directionsFit (labels : List Label) : Bool :=
  !labels.any (·.characters.any Text.Direction.callsRight) || labels.all Label.directionsFit

/-- The ASCII form of a name; none if it holds a character or a label that it may not. -/
def toAscii? (name : List Char) : Option (List Char) := do
  let folded ← Folding.text? name
  let labels ← (Text.splitOn (· == '.') folded).mapM Label.read?
  if !folded.any isForbidden && directionsFit labels then
    return Text.joinWith ['.'] (labels.map Label.written)
  else none

/-- The name that the bytes of a host write. -/
def ofBytes? (bytes : List UInt8) : Option (List Char) :=
  (String.fromUTF8? (ByteArray.mk bytes.toArray)).map String.toList

end TableClient.Url.Domain
