import TableClient.Backend
/-! A table in memory. It keeps records in the order in which they were created, honours
the ceiling of a list request and no other parameter, and logs every request. Failures
can be set for a kind of request. A request counts as in flight from its start to its
end; with latency the deletes of one operation all start before the first one ends, and
those behind a failure never end. -/
namespace TableClient

structure Memory where
  records : List Record
  /-- The requests received, first to last. -/
  log : List Request
  failures : List (RequestKind × BackendError)
  /-- Whether a write is answered with its first record alone. -/
  answersOne : Bool
  hasLatency : Bool
  inFlight : Nat
  maxInFlight : Nat
  /-- How many records were created so far. -/
  created : Nat

namespace Memory

def ofRecords (records : List Record) (hasLatency : Bool) : Memory :=
  { records, log := [], failures := [], answersOne := false, hasLatency, inFlight := 0
    maxInFlight := 0, created := 0 }

def fail (memory : Memory) (kind : RequestKind) (error : BackendError) : Memory :=
  { memory with failures := (kind, error) :: memory.failures }

def clearFailures (memory : Memory) : Memory := { memory with failures := [] }

def respondOne (memory : Memory) (answersOne : Bool) : Memory := { memory with answersOne }

/-- The failure set last for a kind of request. -/
def failure? (memory : Memory) (kind : RequestKind) : Option BackendError :=
  (memory.failures.find? fun (failing, _) => failing = kind).map Prod.snd

def start (memory : Memory) (request : Request) : Memory :=
  { memory with
    log := memory.log ++ [request]
    inFlight := memory.inFlight + 1
    maxInFlight := max memory.maxInFlight (memory.inFlight + 1) }

def finish (memory : Memory) : Memory := { memory with inFlight := memory.inFlight - 1 }

/-- The ceiling among the parameters of a list request. -/
def ceiling? (params : Params) : Option UInt64 :=
  match Members.get? params Selection.ceilingKey with
  | some (.number value) => value.toCount?
  | _ => none

def listed (memory : Memory) (params : Params) : List Record :=
  match ceiling? params with
  | some ceiling => memory.records.take ceiling.toNat
  | none => memory.records

def find? (records : List Record) (id : String) : Option Record :=
  records.find? fun record => record.id = some id

def deleteAnswer (id : String) : Json := .object [("id", .string id), ("deleted", .bool true)]

def delete (memory : Memory) (id : String) : Except BackendError Json × Memory :=
  let kept := memory.records.filter fun record => record.id ≠ some id
  if kept.length = memory.records.length then (.error (.notFound id), memory)
  else (.ok (deleteAnswer id), { memory with records := kept })

/-- The answer to a write, from the records written. -/
def shape (memory : Memory) : List Record → OneOrMany Record
  | [] => .many []
  | record :: rest => if memory.answersOne then .one record else .many (record :: rest)

/-- New records with the ids that come next. -/
def newRecords (newId : Nat → String) (next : Nat) : List Record → List Record
  | [] => []
  | record :: rest => ⟨some (newId next), record.fields⟩ :: newRecords newId (next + 1) rest

def post (newId : Nat → String) (memory : Memory) (payload : List Record) :
    OneOrMany Record × Memory :=
  let added := newRecords newId memory.created payload
  (memory.shape added,
    { memory with
      records := memory.records ++ added
      created := memory.created + payload.length })

/-- The record that a written one is meant for: by its id, or else by a field `id`. -/
def target? (record : Record) : Except BackendError String :=
  match record.id with
  | some id => .ok id
  | none =>
    match (Members.get? record.fields idKey).bind Json.string? with
    | some id => .ok id
    | none => .error (.status 422 "record id required")

/-- Changes the first record with an id; answers it as it is then. -/
def change (write : Fields → Fields) (id : String) :
    List Record → Option (Record × List Record)
  | [] => none
  | record :: rest =>
    if record.id = some id then
      let changed := { record with fields := write record.fields }
      some (changed, changed :: rest)
    else (change write id rest).map fun (changed, others) => (changed, record :: others)

/-- New fields in place of the old, or over them. -/
def writeFields (replaces : Bool) (written stored : Fields) : Fields :=
  if replaces then written else Members.insertAll stored written

/-- Writes records one after the other; those in front of a failure stay written. -/
def writeAll (replaces : Bool) : List Record → List Record →
    Except BackendError (List Record) × List Record
  | table, [] => (.ok [], table)
  | table, record :: rest =>
    match target? record with
    | .error error => (.error error, table)
    | .ok id =>
      match change (writeFields replaces record.fields) id table with
      | none => (.error (.notFound id), table)
      | some (changed, next) =>
        match writeAll replaces next rest with
        | (.error error, last) => (.error error, last)
        | (.ok others, last) => (.ok (changed :: others), last)

def overwrite (memory : Memory) (replaces : Bool) (payload : List Record) :
    Except BackendError (OneOrMany Record) × Memory :=
  let (result, records) := writeAll replaces memory.records payload
  (result.map memory.shape, { memory with records })

/-- Answers a request from the table alone. -/
def answer (newId : Nat → String) (memory : Memory) :
    (request : Request) → Except BackendError request.Answer × Memory
  | .query params => (.ok (memory.listed params), memory)
  | .fetch id =>
    match find? memory.records id with
    | some record => (.ok record, memory)
    | none => (.error (.notFound id), memory)
  | .delete id => memory.delete id
  | .write .post payload =>
    let (written, next) := memory.post newId payload
    (.ok written, next)
  | .write .patch payload => memory.overwrite false payload
  | .write .put payload => memory.overwrite true payload

/-- Ends a request that has started: a failure set for its kind comes before any effect. -/
def complete (newId : Nat → String) (memory : Memory) (request : Request) :
    Except BackendError request.Answer × Memory :=
  let ended := memory.finish
  match ended.failure? request.kind with
  | some error => (.error error, ended)
  | none => ended.answer newId request

def call (newId : Nat → String) (request : Request) (memory : Memory) :
    Except BackendError request.Answer × Memory :=
  (memory.start request).complete newId request

def startAll (memory : Memory) (ids : List String) : Memory :=
  ids.foldl (fun memory id => memory.start (.delete id)) memory

/-- Ends started deletes in their order, up to the first failure. -/
def completeAll (newId : Nat → String) : List String → Memory →
    Except BackendError (List Json) × Memory :=
  Backend.deleteInTurn fun request memory => memory.complete newId request

def deleteAll (newId : Nat → String) (ids : List String) (memory : Memory) :
    Except BackendError (List Json) × Memory :=
  if memory.hasLatency then completeAll newId ids (memory.startAll ids)
  else Backend.deleteInTurn (call newId) ids memory

/-- The table as a backend; the n-th created record gets the n-th new id. -/
def backend (newId : Nat → String) : Backend Memory := ⟨call newId, deleteAll newId⟩

end Memory
end TableClient
