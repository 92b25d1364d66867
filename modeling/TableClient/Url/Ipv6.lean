import TableClient.Url.Ipv4
/-! IPv6 addresses: eight pieces of up to four hexadecimal digits, one run of zero pieces
left out as `::`, and perhaps the last two pieces in IPv4 form. Written out, the first
longest run of at least two zero pieces is left out. -/
namespace TableClient.Url.Ipv6

def piece? (text : List Char) : Option Nat :=
  if text.isEmpty ∨ 4 < text.length then none else Ipv4.readIn? 16 0 text

/-- A byte of the IPv4 form: decimal, without a zero in front. -/
def byte? : List Char → Option Nat
  | [] => none
  | ['0'] => some 0
  | '0' :: _ => none
  | digits => do
    let value ← Ipv4.readIn? 10 0 digits
    if value < 256 then some value else none

def ipv4Pieces? (text : List Char) : Option (List Nat) := do
  match ← (Text.splitOn (· == '.') text).mapM byte? with
  | [a, b, c, d] => some [256 * a + b, 256 * c + d]
  | _ => none

/-- The pieces between colons; only the last may have the IPv4 form. -/
def pieces? : List (List Char) → Option (List Nat)
  | [] => some []
  | [last] => if last.contains '.' then ipv4Pieces? last else (piece? last).map ([·])
  | text :: next :: rest => do return (← piece? text) :: (← pieces? (next :: rest))

def side? (text : List Char) : Option (List Nat) :=
  if text.isEmpty then some [] else pieces? (Text.splitOn (· == ':') text)

/-- The texts in front of and behind the first `::`. -/
def splitGap : List Char → Option (List Char × List Char)
  | ':' :: ':' :: rest => some ([], rest)
  | c :: rest => (splitGap rest).map fun (front, behind) => (c :: front, behind)
  | [] => none

def parse? (text : List Char) : Option (List Nat) :=
  match splitGap text with
  | none => do
    let pieces ← side? text
    if pieces.length = 8 then some pieces else none
  | some (front, behind) => do
    let left ← if front.contains '.' then none else side? front
    let right ← side? behind
    if left.length + right.length ≤ 7 then
      some (left ++ List.replicate (8 - left.length - right.length) 0 ++ right)
    else none

def zeroRun : List Nat → Nat
  | 0 :: rest => zeroRun rest + 1
  | _ => 0

/-- The position and length of the first longest run of zeros, from a position on. -/
def longestRun (position : Nat) : List Nat → Nat × Nat
  | [] => (position, 0)
  | piece :: rest =>
    let here := zeroRun (piece :: rest)
    let later := longestRun (position + 1) rest
    if later.2 ≤ here then (position, here) else later

def hexText (piece : Nat) : List Char := Nat.toDigits 16 piece

def joined (pieces : List Nat) : List Char := Text.joinWith [':'] (pieces.map hexText)

def text (pieces : List Nat) : List Char :=
  let (position, length) := longestRun 0 pieces
  if length < 2 then joined pieces
  else joined (pieces.take position) ++ [':', ':'] ++ joined (pieces.drop (position + length))

end TableClient.Url.Ipv6
