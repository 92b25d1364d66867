import TableClient.Query.Params
import TableClient.Record
/-! What a table's backend can be asked, what it answers, and how it fails. A backend acts
on a state of its own and answers one request at a time. Deleting many records is one
operation here because the requests run at once: whether those behind a failure have been
started is the backend's matter. -/
namespace TableClient

inductive BackendError
  | notFound (text : String)
  | status (code : Nat) (body : String)
  | request (text : String)
  | decode (text : String)
  | config (text : String)
  | internal (text : String)
deriving DecidableEq, Repr

def BackendError.message : BackendError → String
  | .notFound text => "not_found: " ++ text
  | .status code body => "status " ++ Text.decimal code ++ ": " ++ body
  | .request text => "request: " ++ text
  | .decode text => "decode: " ++ text
  | .config text => "config: " ++ text
  | .internal text => "internal: " ++ text

/-- The three ways of writing records: new ones, some fields, or all fields. -/
inductive WriteKind
  | post
  | patch
  | put
deriving DecidableEq, Repr

inductive RequestKind
  | query
  | fetch
  | delete
  | write (kind : WriteKind)
deriving DecidableEq, Repr

inductive Request
  | query (params : Params)
  | fetch (id : String)
  | delete (id : String)
  | write (kind : WriteKind) (records : List Record)

namespace Request

def kind : Request → RequestKind
  | .query _ => .query
  | .fetch _ => .fetch
  | .delete _ => .delete
  | .write kind _ => .write kind

/-- What a request is answered with. -/
abbrev Answer : Request → Type
  | .query _ => List Record
  | .fetch _ => Record
  | .delete _ => Json
  | .write _ _ => OneOrMany Record

end Request

structure Backend (σ : Type) where
  call : (request : Request) → σ → Except BackendError request.Answer × σ
  /-- Deletes the given ids at once; the answers are in the order of the ids. -/
  deleteAll : List String → σ → Except BackendError (List Json) × σ

namespace Backend

variable {σ : Type}

/-- Deletes one id after the other, up to the first failure. -/
def deleteInTurn (call : (request : Request) → σ → Except BackendError request.Answer × σ) :
    List String → σ → Except BackendError (List Json) × σ
  | [], state => (.ok [], state)
  | id :: rest, state =>
    match call (.delete id) state with
    | (.error error, next) => (.error error, next)
    | (.ok answer, next) =>
      match deleteInTurn call rest next with
      | (.error error, last) => (.error error, last)
      | (.ok answers, last) => (.ok (answer :: answers), last)

/-- A backend whose calls are complete when they are made. -/
def immediate (call : (request : Request) → σ → Except BackendError request.Answer × σ) :
    Backend σ :=
  ⟨call, deleteInTurn call⟩

end Backend
end TableClient
