import TableClient.Backend
import TableClient.Wire
/-! A backend that answers from a script: for each kind of request a queue of replies, used
up front to back. A reply that cannot be read as an answer of its kind, and an empty
queue, are failures of the script. -/
namespace TableClient

inductive Reply
  | value (value : Json)
  | failure (error : BackendError)

structure Script where
  replies : List (RequestKind × Reply)
  /-- The requests received, first to last. -/
  log : List Request

namespace Script

/-- Takes out the first reply for a kind of request. -/
def take (kind : RequestKind) :
    List (RequestKind × Reply) → Option (Reply × List (RequestKind × Reply))
  | [] => none
  | (waiting, reply) :: rest =>
    if waiting = kind then some (reply, rest)
    else (take kind rest).map fun (found, others) => (found, (waiting, reply) :: others)

/-- Reads a value as the answer to a request. -/
def answer? (value : Json) : (request : Request) → Option request.Answer
  | .query _ => Wire.listOfSource? (.ofJson value)
  | .fetch _ => Record.ofSource? (.ofJson value)
  | .delete _ => some value
  | .write _ _ => OneOrMany.ofSource? Record.ofSource? (.ofJson value)

def reply (request : Request) : Reply → Except BackendError request.Answer
  | .failure error => .error error
  | .value value =>
    match answer? value request with
    | some answer => .ok answer
    | none => .error (.internal "bad scripted response")

def call (request : Request) (script : Script) :
    Except BackendError request.Answer × Script :=
  let logged := { script with log := script.log ++ [request] }
  match take request.kind script.replies with
  | none => (.error (.internal "no scripted response"), logged)
  | some (found, replies) => (reply request found, { logged with replies })

def backend : Backend Script := Backend.immediate call

end Script
end TableClient
