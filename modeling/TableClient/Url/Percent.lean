import TableClient.Text.Digits
/-! Percent-encoding. A text is its UTF-8 bytes; a byte outside the allowed ones is a
percent sign and two upper-case hexadecimal digits. Bytes of other characters than ASCII
are never allowed. Decoding takes such a group for its byte and every other character for
its own bytes, so it undoes any encoding that encodes the percent sign. -/
namespace TableClient.Url.Percent

/-- Which ASCII characters a part of a URL may hold as they are. -/
abbrev Allowed := Char → Bool

def isControl (c : Char) : Bool := c.toNat < 0x20 || 0x7F ≤ c.toNat

def allowedBut (excluded : List Char) : Allowed := fun c => !isControl c && !excluded.contains c

def inOpaque : Allowed := allowedBut []

def inFragment : Allowed := allowedBut [' ', '"', '<', '>', '\x60']

def inQuery : Allowed := allowedBut [' ', '"', '#', '<', '>']

def inSpecialQuery : Allowed := allowedBut [' ', '"', '#', '<', '>', '\x27']

/-- The characters that mark the parts of a URL, or that a path may not show. -/
def pathMarks : List Char := [' ', '"', '<', '>', '\x60', '#', '?', '\x7b', '\x7d']

def inPath : Allowed := allowedBut pathMarks

def inUserinfo : Allowed :=
  allowedBut (pathMarks ++ ['/', ':', ';', '=', '@', '[', '\\', ']', '^', '|'])

/-- A name within a path: neither slashes nor groups that look encoded. -/
def inSegment : Allowed := allowedBut (pathMarks ++ ['/', '%'])

/-- A backslash separates the path of some schemes too. -/
def inSpecialSegment : Allowed := allowedBut (pathMarks ++ ['/', '%', '\\'])

def hexDigit (n : Nat) : Char := if n < 10 then Char.ofNat (48 + n) else Char.ofNat (55 + n)

def encodeByte (byte : UInt8) : List Char :=
  ['%', hexDigit (byte.toNat / 16), hexDigit (byte.toNat % 16)]

def encodeChar (allowed : Allowed) (c : Char) : List Char :=
  if c.toNat < 0x80 ∧ allowed c then [c] else (String.utf8EncodeChar c).flatMap encodeByte

def encode (allowed : Allowed) (text : List Char) : List Char :=
  text.flatMap (encodeChar allowed)

def groupByte? (high low : Char) : Option UInt8 := do
  return UInt8.ofNat (16 * (← Text.hexValue? high) + (← Text.hexValue? low))

/-- The bytes that a text stands for. -/
def decode : List Char → List UInt8
  | [] => []
  | '%' :: high :: low :: rest =>
    match groupByte? high low with
    | some byte => byte :: decode rest
    | none => String.utf8EncodeChar '%' ++ decode (high :: low :: rest)
  | c :: rest => String.utf8EncodeChar c ++ decode rest

end TableClient.Url.Percent
