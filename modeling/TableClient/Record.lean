import TableClient.Json.Basic
/-! Records in the two shapes they have. The backend keeps an id beside a bag of fields;
an application sees one flat object that starts with the id. A field named `id` overrides
the record's own id in the flat shape, at the place of the latter. -/
namespace TableClient

abbrev Fields := Members Json

/-- The flat shape of a record. -/
abbrev FlatRecord := Members Json

structure Record where
  id : Option String
  fields : Fields
deriving Repr

/-- The key of a record's id. -/
def idKey : String := "id"

namespace Record

def flat (record : Record) : FlatRecord :=
  match record.id with
  | some id => Members.insertAll [(idKey, .string id)] record.fields
  | none => Members.insertAll [] record.fields

/-- All members become fields, the one named `id` included; the record has no id yet. -/
def ofFlat (data : FlatRecord) : Record := ⟨none, data⟩

end Record

/-- A single item, or a batch of items in order. -/
inductive OneOrMany (α : Type)
  | one (item : α)
  | many (items : List α)
deriving Repr

namespace OneOrMany

variable {α β : Type}

def toList : OneOrMany α → List α
  | .one item => [item]
  | .many items => items

def length (items : OneOrMany α) : Nat := items.toList.length

def isEmpty (items : OneOrMany α) : Bool := items.length == 0

def map (f : α → β) : OneOrMany α → OneOrMany β
  | .one item => .one (f item)
  | .many items => .many (items.map f)

end OneOrMany

/-- What came of deleting one record. -/
inductive Removal
  | deleted (id : String) (confirmed : Bool)
  /-- The backend answered something else. -/
  | passthrough (answer : Json)
deriving Repr

/-- The answer to a delete request confirms the deletion if its member `deleted` says yes. -/
def Removal.ofAnswer (id : String) (answer : Json) : Removal :=
  match answer.object? with
  | some members =>
    match Members.get? members "deleted" with
    | some confirmation => if confirmation.isTruthy then .deleted id true else .passthrough answer
    | none => .passthrough answer
  | none => .passthrough answer

end TableClient
