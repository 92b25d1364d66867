import TableClient.Double.Basic
import TableClient.Members
/-! JSON values. Numbers are whole or double-precision, and the two never compare equal;
objects keep their members in order. That no object repeats a key is a predicate beside
the type. -/
namespace TableClient

inductive Number
  | integer (value : Int)
  | double (value : Double)
deriving DecidableEq, Repr

inductive Json
  | null
  | bool (value : Bool)
  | number (value : Number)
  | string (value : String)
  | array (items : List Json)
  | object (members : List (String × Json))
deriving Repr

/-- The largest count: counts are unsigned 64-bit numbers. -/
def countLimit : Nat := UInt64.size - 1

namespace Number

/-- Below, equal to or above zero is all that a sign shows; a zero of either sign is none. -/
def isPositive : Number → Bool
  | .integer n => 0 < n
  | .double x => x.isPositive

def isZero : Number → Bool
  | .integer n => n == 0
  | .double x => x.isZero

def ofCount (count : UInt64) : Number := .integer count.toNat

/-- A whole number that fits a count. -/
def toCount? : Number → Option UInt64
  | .integer n => if 0 ≤ n ∧ n.toNat ≤ countLimit then some (UInt64.ofNat n.toNat) else none
  | .double _ => none

end Number

namespace Json

def ofCount (count : UInt64) : Json := .number (Number.ofCount count)

def string? : Json → Option String
  | .string text => some text
  | _ => none

theorem string?_eq_some {value : Json} {text : String} :
    value.string? = some text ↔ value = .string text := by
  cases value <;> simp [string?]

def object? : Json → Option (Members Json)
  | .object members => some members
  | _ => none

def isNull : Json → Bool
  | .null => true
  | _ => false

/-- What counts as a yes: anything but null, false, zero and empty text. -/
def isTruthy : Json → Bool
  | .null => false
  | .bool value => value
  | .number value => !value.isZero
  | .string text => text ≠ ""
  | .array _ | .object _ => true

mutual

/-- No object inside the value repeats a key. -/
def DistinctKeys : Json → Prop
  | .array items => DistinctKeysAll items
  | .object members => Members.Distinct members ∧ DistinctKeysMembers members
  | _ => True

def DistinctKeysAll : List Json → Prop
  | [] => True
  | item :: rest => DistinctKeys item ∧ DistinctKeysAll rest

def DistinctKeysMembers : List (String × Json) → Prop
  | [] => True
  | (_, value) :: rest => DistinctKeys value ∧ DistinctKeysMembers rest

end

end Json
end TableClient
