import TableClient.Config
import TableClient.Url.Pairs
import TableClient.Wire
/-! The backend behind a URL: what is sent for a request, and what an answer means. How
messages travel, and how long they may take, is not said here. An exchange takes one message
and answers it, or fails to; a key that no header can hold makes every request fail unsent. -/
namespace TableClient

namespace Http

inductive Method
  | get
  | delete
  | post
  | patch
  | put
deriving DecidableEq, Repr

def Method.name : Method → String
  | .get => "GET"
  | .delete => "DELETE"
  | .post => "POST"
  | .patch => "PATCH"
  | .put => "PUT"

structure Message where
  method : Method
  url : Url
  authorization : Option String
  /-- JSON text. -/
  body : Option String

structure Answer where
  status : Nat
  body : String

/-- Takes a message; answers it, or says why it could not be delivered. -/
abbrev Exchange (σ : Type) := Message → σ → Except String Answer × σ

/-- The table of a configuration, whose URL is known. -/
structure Table where
  url : Url
  apiKey : Option String

def Table.ofConfig (config : Config) : Except BackendError Table :=
  config.tableUrl.map fun url => ⟨url, config.apiKey⟩

def methodOf : WriteKind → Method
  | .post => .post
  | .patch => .patch
  | .put => .put

/-- Characters that a header may hold: no controls but the tab. -/
def isHeaderChar (c : Char) : Bool := c = '\t' || (0x20 ≤ c.toNat && c.toNat ≠ 0x7F)

def bearer (key : String) : String := "Bearer " ++ key

namespace Table

def message (table : Table) : Request → Message
  | .query params =>
    let url := { table.url with query := Url.Pairs.append table.url.query (Params.queryPairs params) }
    ⟨.get, url, table.apiKey.map bearer, none⟩
  | .fetch id => ⟨.get, Config.recordUrl table.url id, table.apiKey.map bearer, none⟩
  | .delete id => ⟨.delete, Config.recordUrl table.url id, table.apiKey.map bearer, none⟩
  | .write kind records =>
    ⟨methodOf kind, table.url, table.apiKey.map bearer, some (Wire.recordsToJson records).compact⟩

def hasLegalKey (table : Table) : Bool := table.apiKey.all fun key => key.toList.all isHeaderChar

end Table

/-- Reads the body of an answer to a request. -/
def decode? (body : String) : (request : Request) → Option request.Answer
  | .query _ => (Json.Source.parse? body).bind Wire.listOfSource?
  | .fetch _ => (Json.Source.parse? body).bind Record.ofSource?
  | .delete _ => Json.parse? body
  | .write _ _ => (Json.Source.parse? body).bind Wire.writtenOfSource?

/-- What an answer means: only the statuses 200 to 299 carry a result. -/
def interpret (request : Request) (answer : Answer) : Except BackendError request.Answer :=
  if answer.status = 404 then .error (.notFound answer.body)
  else if 200 ≤ answer.status ∧ answer.status < 300 then
    match decode? answer.body request with
    | some value => .ok value
    | none => .error (.decode "error decoding response body")
  else .error (.status answer.status answer.body)

variable {σ : Type}

def call (exchange : Exchange σ) (table : Table) (request : Request) (state : σ) :
    Except BackendError request.Answer × σ :=
  if table.hasLegalKey then
    match exchange (table.message request) state with
    | (.ok answer, next) => (interpret request answer, next)
    | (.error reason, next) => (.error (.request reason), next)
  else (.error (.request "builder error"), state)

/-- Sends every delete before it looks at an answer. This is a simplification: deletes that run at
once are given up when the first failure arrives, so a server may see fewer of them than are sent
here, and of several failures it is the first to arrive that counts, not the first in the list. -/
def sendAll (exchange : Exchange σ) (table : Table) :
    List String → σ → List (Except BackendError Json) × σ
  | [], state => ([], state)
  | id :: rest, state =>
    let (answer, next) := call exchange table (.delete id) state
    let (answers, last) := sendAll exchange table rest next
    (answer :: answers, last)

/-- All answers, or the first failure among them. -/
def collect {α : Type} : List (Except BackendError α) → Except BackendError (List α)
  | [] => .ok []
  | answer :: rest => do return (← answer) :: (← collect rest)

def backend (exchange : Exchange σ) (table : Table) : Backend σ where
  call := call exchange table
  deleteAll ids state :=
    let (answers, next) := sendAll exchange table ids state
    (collect answers, next)

/-- The exchange of a client that reaches no server. -/
def unreachable : Exchange σ := fun _ state => (.error "error sending request", state)

end Http
end TableClient
