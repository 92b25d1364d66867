import TableClient.Query.Filter
import TableClient.Text.Magnitude
/-! What one list request asks for: a formula, an order, the fields to show and a ceiling
on the number of records. A query carries these as directives beside its predicates. The
backend can limit a list and cannot skip, so a skip raises the ceiling and the caller
drops the records at the front. -/
namespace TableClient

inductive Direction
  | ascending
  | descending
deriving DecidableEq, Repr

def Direction.text : Direction → String
  | .ascending => "asc"
  | .descending => "desc"

structure SortKey where
  field : String
  direction : Direction
deriving DecidableEq, Repr

structure Selection where
  formula : Option String
  sort : Option (List SortKey)
  fields : Option (List String)
  maxRecords : Option UInt64
deriving DecidableEq, Repr

namespace Selection

def empty : Selection := ⟨none, none, none, none⟩

def isEmpty (selection : Selection) : Bool :=
  selection.formula.isNone && selection.sort.isNone && selection.fields.isNone &&
    selection.maxRecords.isNone

end Selection

/-- A selection and the number of records to drop from its answer. -/
structure Listing where
  selection : Selection
  skip : UInt64
deriving DecidableEq, Repr

namespace Listing

/-- The members of a query that are no predicates. -/
def directiveKeys : List String := ["$limit", "$sort", "$select", "$skip"]

def predicates (query : Query) : Query :=
  query.filter fun (key, _) => !directiveKeys.contains key

/-- Only what is above zero sorts upward. -/
def direction : Json → Direction
  | .number value => if value.isPositive then .ascending else .descending
  | .string text => if Text.isPositive text then .ascending else .descending
  | .bool true => .ascending
  | _ => .descending

/-- The record id is no field to sort by. -/
def sortKeys (members : Members Json) : List SortKey :=
  (members.filter fun (field, _) => field ≠ "id").map fun (field, value) =>
    ⟨field, direction value⟩

def sort : Option Json → Option (List SortKey)
  | some (.object members) => some (sortKeys members)
  | _ => none

def fields : Option Json → Option (List String)
  | some (.array items) => some (items.map Json.plainText)
  | some (.string text) => some [text]
  | _ => none

/-- The whole part of a positive number, at most the largest count. -/
def numberCount : Number → UInt64
  | .integer n => UInt64.ofNat (min n.toNat countLimit)
  | .double x => if x.negative then 0 else UInt64.ofNat (min x.truncate countLimit)

/-- A count given as a number or as text; zero counts as absent. -/
def count : Option Json → Option UInt64
  | some (.number value) => some (numberCount value) |>.filter (0 < ·)
  | some (.string text) => (Text.leadingCount? text).filter (0 < ·)
  | _ => none

/-- A sum of counts, at most the largest. -/
def addCounts (a b : UInt64) : UInt64 := UInt64.ofNat (min (a.toNat + b.toNat) countLimit)

/-- The ceiling for a limit and a skip: a skip alone asks for as many records as it drops. -/
def ceiling (limit skip : Option UInt64) : Option UInt64 :=
  match skip with
  | none => limit
  | some skip => some (addCounts (limit.getD 0) skip)

/-- A formula of no text asks for nothing. -/
def nonEmptyFormula (formula : String) : Option String :=
  if formula = "" then none else some formula

def ofQuery (query : Query) : Except InvalidOperator Listing := do
  let formula ← Filter.formula (predicates query)
  let skip := count (Members.get? query "$skip")
  return {
    selection := {
      formula := nonEmptyFormula formula
      sort := sort (Members.get? query "$sort")
      fields := fields (Members.get? query "$select")
      maxRecords := ceiling (count (Members.get? query "$limit")) skip }
    skip := skip.getD 0 }

end Listing
end TableClient
