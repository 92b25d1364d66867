import TableClient.Backend
/-! Records of one table in their flat shape: find, get, create, patch, update and remove
over any backend. Nothing is kept between calls and nothing is tried twice; the first
failure ends a call and is its result. What is logged of a call, and the counters and timings
kept of it, are left out: no result depends on them. -/
namespace TableClient

inductive ServiceError
  | query (error : InvalidOperator)
  | backend (error : BackendError)
deriving DecidableEq, Repr

def ServiceError.message : ServiceError → String
  | .query error => error.message
  | .backend error => error.message

/-- An operation on a backend's state that may fail; the state is kept either way. -/
abbrev Action (σ α : Type) := ExceptT ServiceError (StateM σ) α

/-- An empty id counts as absent. -/
def nonEmptyId? (id : Option String) : Option String := id.filter (· ≠ "")

theorem nonEmptyId?_some {id : String} (named : id ≠ "") : nonEmptyId? (some id) = some id := by
  simp [nonEmptyId?, named]

/-- The members at their positions, counted from the given one. -/
def positional (start : Nat) : List FlatRecord → Fields
  | [] => []
  | item :: rest => (Text.decimal start, .object item) :: positional (start + 1) rest

/-- The records that a patch sends. With an id, one record takes the data as its fields, or
a batch of data as fields named by position. Without an id each item of a batch is sent
as it is, and a single one is sent without any fields. -/
def patchRecords (id : Option String) (data : OneOrMany FlatRecord) : List Record :=
  match nonEmptyId? id, data with
  | some id, .one item => [⟨some id, item⟩]
  | some id, .many items => [⟨some id, positional 0 items⟩]
  | none, .many items => items.map Record.ofFlat
  | none, .one _ => [⟨id, []⟩]

/-- The data of an update: its id, if there is one, is written into it. -/
def updateData (id : Option String) (data : FlatRecord) : FlatRecord :=
  match nonEmptyId? id with
  | some id => Members.insert data idKey (.string id)
  | none => data

namespace Service

variable {σ : Type}

def run {α : Type} (action : Action σ α) (state : σ) : Except ServiceError α × σ :=
  StateT.run action state

def raise {α : Type} (error : ServiceError) : Action σ α := throw error

/-- A backend's way of answering, with its failures as those of the service. -/
def perform {α : Type} (answer : σ → Except BackendError α × σ) : Action σ α :=
  ExceptT.mk fun state =>
    match answer state with
    | (.ok value, next) => (.ok value, next)
    | (.error error, next) => (.error (.backend error), next)

def send (backend : Backend σ) (request : Request) : Action σ request.Answer :=
  perform (backend.call request)

def find (backend : Backend σ) (query : Query) : Action σ (List FlatRecord) :=
  match Listing.ofQuery query with
  | .error error => raise (.query error)
  | .ok listing => do
    let records ← send backend (.query listing.selection.params)
    return (records.map Record.flat).drop listing.skip.toNat

def get (backend : Backend σ) (id : String) : Action σ FlatRecord := do
  return (← send backend (.fetch id)).flat

/-- The first record of an answer to a write. -/
def first (records : OneOrMany Record) : Action σ Record :=
  match records.toList with
  | record :: _ => pure record
  | [] => raise (.backend (.decode "response contained no records"))

def createOne (backend : Backend σ) (data : FlatRecord) : Action σ FlatRecord := do
  return (← first (← send backend (.write .post [Record.ofFlat data]))).flat

/-- Creates one record after the other. -/
def createAll (backend : Backend σ) : List FlatRecord → Action σ (List FlatRecord)
  | [] => pure []
  | data :: rest => do
    let created ← createOne backend data
    return created :: (← createAll backend rest)

def create (backend : Backend σ) : OneOrMany FlatRecord → Action σ (OneOrMany FlatRecord)
  | .one data => do return .one (← createOne backend data)
  | .many items => do return .many (← createAll backend items)

def patch (backend : Backend σ) (id : Option String) (data : OneOrMany FlatRecord) :
    Action σ (OneOrMany FlatRecord) := do
  return (← send backend (.write .patch (patchRecords id data))).map Record.flat

def update (backend : Backend σ) (id : Option String) (data : FlatRecord) :
    Action σ FlatRecord := do
  return (← first (← send backend (.write .put [Record.ofFlat (updateData id data)]))).flat

def removeOne (backend : Backend σ) (id : String) : Action σ Removal := do
  return Removal.ofAnswer id (← send backend (.delete id))

/-- The ids of flat records; a record without one that is text has no id to delete by. -/
def listedIds : List FlatRecord → Except BackendError (List String)
  | [] => .ok []
  | record :: rest =>
    match (Members.get? record idKey).bind Json.string? with
    | some id => (listedIds rest).map (id :: ·)
    | none => .error (.decode "listed record has no string id")

/-- Deletes every record that a query finds. -/
def removeAll (backend : Backend σ) (query : Query) : Action σ (List Removal) := do
  let matched ← find backend query
  match listedIds matched with
  | .error error => raise (.backend error)
  | .ok ids => do
    let answers ← perform (backend.deleteAll ids)
    return List.zipWith Removal.ofAnswer ids answers

def remove (backend : Backend σ) (id : Option String) (query : Query) :
    Action σ (OneOrMany Removal) :=
  match nonEmptyId? id with
  | some id => do return .one (← removeOne backend id)
  | none => do return .many (← removeAll backend query)

end Service
end TableClient
