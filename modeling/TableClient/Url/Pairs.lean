import TableClient.Url.Percent
/-! Pairs of texts in a query: `key=value` joined by `&`. Letters, digits and `*-._` stand
for themselves and a space is a plus sign. -/
namespace TableClient.Url.Pairs

def inPair : Percent.Allowed := fun c =>
  c.isAlphanum || c = '*' || c = '-' || c = '.' || c = '_'

def encodeChar (c : Char) : List Char :=
  if c = ' ' then ['+'] else Percent.encodeChar inPair c

def encodeText (text : String) : List Char := text.toList.flatMap encodeChar

def encodePair (pair : String × String) : List Char :=
  encodeText pair.1 ++ '=' :: encodeText pair.2

def encode : List (String × String) → List Char
  | [] => []
  | [pair] => encodePair pair
  | pair :: next :: rest => encodePair pair ++ '&' :: encode (next :: rest)

/-- Pairs behind those that a query already has; a query of no text is none. -/
def append (query : Option String) (pairs : List (String × String)) : Option String :=
  let present := (query.getD "").toList
  let added := encode pairs
  let both := if present.isEmpty || added.isEmpty then present ++ added else present ++ '&' :: added
  if both.isEmpty then none else some (String.ofList both)

end TableClient.Url.Pairs
