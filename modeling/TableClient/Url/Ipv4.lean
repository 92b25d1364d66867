import TableClient.Text.Digits
import TableClient.Text.Split
/-! IPv4 addresses as a URL may write them: up to four numbers, decimal, octal behind a
zero or hexadecimal behind `0x`, of which the last fills all bytes that are left. A host
whose last part is a number must be such an address. -/
namespace TableClient.Url.Ipv4

def digitIn? (base : Nat) (c : Char) : Option Nat :=
  let value :=
    if c.isDigit then c.toNat - 48
    else if 'a' ≤ c ∧ c ≤ 'f' then c.toNat - 87
    else if 'A' ≤ c ∧ c ≤ 'F' then c.toNat - 55
    else base
  if value < base then some value else none

def readIn? (base : Nat) (start : Nat) : List Char → Option Nat
  | [] => some start
  | c :: rest => do readIn? base (base * start + (← digitIn? base c)) rest

/-- A number of an address; a mark of its base alone is zero. -/
def number? : List Char → Option Nat
  | [] => none
  | '0' :: 'x' :: rest | '0' :: 'X' :: rest => readIn? 16 0 rest
  | '0' :: next :: rest => readIn? 8 0 (next :: rest)
  | digits => readIn? 10 0 digits

/-- The parts of a host, without the empty one behind a last dot. -/
def parts (host : List Char) : List (List Char) :=
  let all := Text.splitOn (· == '.') host
  if all.getLast? = some [] ∧ 1 < all.length then all.dropLast else all

/-- Whether the last part of a host is a number. -/
def endsInNumber (host : List Char) : Bool :=
  match (parts host).getLast? with
  | none => false
  | some last => (!last.isEmpty && last.all Char.isDigit) || (number? last).isSome

def bytesValue (start : Nat) : List Nat → Nat
  | [] => start
  | byte :: rest => bytesValue (256 * start + byte) rest

/-- The address that a host writes, as a number of 32 bits. -/
def parse? (host : List Char) : Option Nat := do
  let numbers ← (parts host).mapM number?
  let last ← numbers.getLast?
  let front := numbers.dropLast
  if 3 < front.length ∨ front.any (255 < ·) then none
  else
    let room := 1 <<< (8 * (4 - front.length))
    if last < room then some (bytesValue 0 front * room + last) else none

def text (address : Nat) : List Char :=
  let byte (place : Nat) : List Char := Nat.toDigits 10 ((address >>> (8 * place)) % 256)
  Text.joinWith ['.'] [byte 3, byte 2, byte 1, byte 0]

end TableClient.Url.Ipv4
