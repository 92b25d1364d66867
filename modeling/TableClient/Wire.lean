import TableClient.Json.Source
import TableClient.Query.Selection
import TableClient.Record
/-! The JSON form of every value that is sent or received. A structure is written as an
object; it is read from an object, of which unknown members are passed over and known ones
may not repeat, or from an array of its parts in order. One item or a batch is read as a
batch if every item of an array can be read, and else as one item; all of it must be
readable, passed over or not. -/
namespace TableClient

namespace Json.Source

def string? : Source → Option String
  | .string text => some text
  | _ => none

def bool? : Source → Option Bool
  | .bool value => some value
  | _ => none

def count? : Source → Option UInt64
  | .number value => value.toCount?
  | _ => none

def array? (item : Source → Option α) : Source → Option (List α)
  | .array items => items.mapM item
  | _ => none

/-- An object that stands for a map: a repeated key has its last value. -/
def map? : Source → Option (Members Json)
  | .object members => (memberValues? members).map Members.ofPairs
  | _ => none

def nullable? (part : Source → Option α) : Source → Option (Option α)
  | .null => some none
  | source => (part source).map some

/-- Whether no part is unreadable. -/
def isReadable (source : Source) : Bool := source.value?.isSome

/-- The value of a key that may occur once: none if it repeats. -/
def once? (members : List (String × Source)) (key : String) : Option (Option Source) :=
  match members.filter fun (name, _) => name = key with
  | [] => some none
  | [(_, value)] => some (some value)
  | _ :: _ :: _ => none

/-- The value of a key that must occur once. -/
def required? (members : List (String × Source)) (key : String) : Option Source :=
  (once? members key).join

end Json.Source

open Json (Source)

namespace Record

def toJson (record : Record) : Json :=
  .object ((record.id.toList.map fun id => ("id", .string id)) ++
    [("fields", .object record.fields)])

def idPart? : Option Source → Option (Option String)
  | none => some none
  | some source => source.nullable? Source.string?

def fieldsPart? : Option Source → Option Fields
  | none => some []
  | some source => source.map?

def ofParts? (id fields : Option Source) : Option Record := do
  return ⟨← idPart? id, ← fieldsPart? fields⟩

/-- A record from its object or its array; missing parts are none and no fields. -/
def ofSource? : Source → Option Record
  | .object members => do ofParts? (← Source.once? members "id") (← Source.once? members "fields")
  | .array [] => ofParts? none none
  | .array [id] => ofParts? (some id) none
  | .array [id, fields] => ofParts? (some id) (some fields)
  | _ => none

end Record

namespace OneOrMany

variable {α : Type}

def toJson (item : α → Json) : OneOrMany α → Json
  | .one value => item value
  | .many values => .array (values.map item)

def manyOfSource? (item : Source → Option α) (source : Source) : Option (OneOrMany α) :=
  (source.array? item).map .many

def oneOfSource? (item : Source → Option α) (source : Source) : Option (OneOrMany α) :=
  (item source).map .one

def ofSource? (item : Source → Option α) (source : Source) : Option (OneOrMany α) :=
  if source.isReadable then
    match manyOfSource? item source with
    | some items => some items
    | none => oneOfSource? item source
  else none

end OneOrMany

/-- The data of a write: one flat record or a batch. -/
def FlatRecord.oneOrManyOfSource? (source : Source) : Option (OneOrMany FlatRecord) :=
  OneOrMany.ofSource? Source.map? source

namespace Wire

def recordsKey : String := "records"

/-- Records under the one key `records`: a list answer, or the body of a write. -/
def recordsToJson (records : List Record) : Json :=
  .object [(recordsKey, .array (records.map Record.toJson))]

def records? : Source → Option (List Record) := Source.array? Record.ofSource?

/-- Records that may be null or missing. -/
def recordsPart? : Option Source → Option (List Record)
  | none => some []
  | some source => (source.nullable? records?).map (·.getD [])

/-- The answer to a list request; without records it is empty. -/
def listOfSource? : Source → Option (List Record)
  | .object members => do recordsPart? (← Source.once? members recordsKey)
  | .array [] => some []
  | .array [part] => recordsPart? (some part)
  | _ => none

/-- The body of a write; the records must be there. -/
def payloadOfSource? : Source → Option (List Record)
  | .object members => do records? (← Source.required? members recordsKey)
  | .array [part] => records? part
  | _ => none

/-- The answer to a write. -/
def writtenOfSource? : Source → Option (OneOrMany Record)
  | .object members => do
    OneOrMany.ofSource? Record.ofSource? (← Source.required? members recordsKey)
  | .array [part] => OneOrMany.ofSource? Record.ofSource? part
  | _ => none

end Wire

namespace Removal

def toJson : Removal → Json
  | .deleted id confirmed => .object [("id", .string id), ("deleted", .bool confirmed)]
  | .passthrough answer => answer

def deletedOfParts? (id confirmed : Source) : Option Removal := do
  return .deleted (← id.string?) (← confirmed.bool?)

def deletedOfSource? : Source → Option Removal
  | .object members => do
    deletedOfParts? (← Source.required? members "id") (← Source.required? members "deleted")
  | .array [id, confirmed] => deletedOfParts? id confirmed
  | _ => none

/-- A confirmation if it has that form, and else any value. -/
def ofSource? (source : Source) : Option Removal := do
  let answer ← source.value?
  match deletedOfSource? source with
  | some removal => return removal
  | none => return .passthrough answer

end Removal

namespace Direction

def ofText? (text : String) : Option Direction :=
  if text = "asc" then some .ascending
  else if text = "desc" then some .descending
  else none

/-- The name of a direction, or an object with that name as its one key and null under it. -/
def ofSource? : Source → Option Direction
  | .string text => ofText? text
  | .object [(text, .null)] => ofText? text
  | _ => none

end Direction

namespace SortKey

def toJson (key : SortKey) : Json :=
  .object [("field", .string key.field), ("direction", .string key.direction.text)]

def ofParts? (field direction : Source) : Option SortKey := do
  return ⟨← field.string?, ← Direction.ofSource? direction⟩

def ofSource? : Source → Option SortKey
  | .object members => do
    ofParts? (← Source.required? members "field") (← Source.required? members "direction")
  | .array [field, direction] => ofParts? field direction
  | _ => none

end SortKey

namespace Selection

def optionToJson (part : α → Json) : Option α → Json
  | none => .null
  | some value => part value

def toJson (selection : Selection) : Json :=
  .object [
    ("filter_formula", optionToJson .string selection.formula),
    ("sort", optionToJson (fun keys => .array (keys.map SortKey.toJson)) selection.sort),
    ("fields", optionToJson (fun names => .array (names.map .string)) selection.fields),
    ("max_records", optionToJson .ofCount selection.maxRecords)]

def part? (part : Source → Option α) : Option Source → Option (Option α)
  | none => some none
  | some source => source.nullable? part

def ofParts? (formula sort fields maxRecords : Option Source) : Option Selection := do
  return {
    formula := ← part? Source.string? formula
    sort := ← part? (Source.array? SortKey.ofSource?) sort
    fields := ← part? (Source.array? Source.string?) fields
    maxRecords := ← part? Source.count? maxRecords }

def ofSource? : Source → Option Selection
  | .object members => do
    ofParts? (← Source.once? members "filter_formula") (← Source.once? members "sort")
      (← Source.once? members "fields") (← Source.once? members "max_records")
  | .array [formula, sort, fields, maxRecords] =>
    ofParts? (some formula) (some sort) (some fields) (some maxRecords)
  | _ => none

end Selection
end TableClient
