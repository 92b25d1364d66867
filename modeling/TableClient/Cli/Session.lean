import TableClient.Backend.Http
import TableClient.Cli.Arguments
import TableClient.Service
/-! What a command does and prints. A formula is compiled without a table; every other
command first needs a base, a table and a root that is a URL, then its JSON arguments, and
only then the backend. A dash as a JSON argument stands for the standard input. -/
namespace TableClient.Cli

inductive SessionError
  | missingBase
  | missingTable
  /-- The text that is no JSON, without white space around it. -/
  | unreadable (text : String)
  | notQuery (value : Json)
  | notRecord (value : Json)
  | notRecords
  | service (error : ServiceError)

def SessionError.message : SessionError → String
  | .missingBase => "--base (or TABULA_BASE_ID) is required"
  | .missingTable => "--table (or TABULA_TABLE) is required"
  | .unreadable text => "parsing JSON argument: " ++ text
  | .notQuery value => "query must be a JSON object, got " ++ value.compact
  | .notRecord value => "record must be a JSON object, got " ++ value.compact
  | .notRecords => "expected a JSON object or an array of objects"
  | .service error => error.message

/-- Where a table is, by the settings of the command line. -/
def configOf (settings : Settings) : Except SessionError Config :=
  match settings.base, settings.table with
  | none, _ => .error .missingBase
  | some _, none => .error .missingTable
  | some base, some table => .ok {
      apiRoot := settings.apiRoot.getD Config.defaultApiRoot
      baseId := base
      table
      apiKey := Config.nonEmptyKey? settings.apiKey
      timeoutSeconds := settings.timeoutSeconds }

def connect (settings : Settings) : Except SessionError Http.Table := do
  match Http.Table.ofConfig (← configOf settings) with
  | .ok table => return table
  | .error error => .error (.service (.backend error))

/-- The value of a JSON argument. -/
def readJson (input argument : String) : Except SessionError Json :=
  let text := if argument = "-" then input else argument
  match Json.parse? text with
  | some value => .ok value
  | none => .error (.unreadable (String.ofList (Text.trim text.toList)))

def readQuery (input : String) : Option String → Except SessionError Query
  | none => .ok []
  | some argument => do
    match ← readJson input argument with
    | .object query => return query
    | value => .error (.notQuery value)

def readRecord (input argument : String) : Except SessionError FlatRecord := do
  match ← readJson input argument with
  | .object record => return record
  | value => .error (.notRecord value)

def readRecords (input argument : String) : Except SessionError (OneOrMany FlatRecord) := do
  match FlatRecord.oneOrManyOfSource? (.ofJson (← readJson input argument)) with
  | some records => return records
  | none => .error .notRecords

/-- The width to which the id of a record is filled up. -/
def idWidth : Nat := 18

def padded (text : String) : String :=
  text ++ String.ofList (List.replicate (idWidth - text.length) ' ')

/-- A record as one line: its id, or a dash, and its other members. -/
def recordLine (record : FlatRecord) : String :=
  let id := ((Members.get? record idKey).bind Json.string?).getD "-"
  padded id ++ " " ++ (Json.object (Members.swapRemove record idKey)).compact ++ "\n"

def removalLine : Removal → String
  | .deleted id _ => "- " ++ id ++ "\n"
  | .passthrough answer => "? " ++ answer.compact ++ "\n"

def joinLines (line : α → String) : List α → String
  | [] => ""
  | item :: rest => line item ++ joinLines line rest

def printList (format : OutputFormat) (line : α → String) (json : α → Json)
    (items : List α) : String :=
  match format with
  | .human => joinLines line items
  | .json => (Json.array (items.map json)).pretty ++ "\n"

def printRecords (format : OutputFormat) (records : List FlatRecord) : String :=
  printList format recordLine .object records

def printRemovals (format : OutputFormat) (removals : List Removal) : String :=
  printList format removalLine Removal.toJson removals

def skipLine (skip : UInt64) : String :=
  if skip = 0 then "" else "skip (client-side): " ++ Text.decimal skip.toNat ++ "\n"

def pairLine (pair : String × String) : String := pair.1 ++ "=" ++ pair.2 ++ "\n"

def printListing (format : OutputFormat) (listing : Listing) : String :=
  let params := listing.selection.params
  match format with
  | .human =>
    "formula: " ++ listing.selection.formula.getD "(none)" ++ "\n" ++ skipLine listing.skip ++
      joinLines pairLine (Params.queryPairs params)
  | .json => (Json.object params).pretty ++ "\n"

variable {σ : Type}

/-- A command on a backend: its arguments are read before anything is sent. -/
def perform {α β : Type} (arguments : Except SessionError α) (action : α → Action σ β)
    (print : β → String) (state : σ) : Except SessionError String × σ :=
  match arguments with
  | .error error => (.error error, state)
  | .ok given =>
    match Service.run (action given) state with
    | (.ok value, next) => (.ok (print value), next)
    | (.error error, next) => (.error (.service error), next)

/-- What a query asks of a table, printed. -/
def compile (format : OutputFormat) (input query : String) : Except SessionError String := do
  match Listing.ofQuery (← readQuery input (some query)) with
  | .ok listing => return printListing format listing
  | .error error => .error (.service (.query error))

def onBackend (backend : Backend σ) (format : OutputFormat) (input : String)
    (command : Command) (state : σ) : Except SessionError String × σ :=
  let records := printRecords format
  match command with
  | .find query => perform (readQuery input query) (Service.find backend) records state
  | .get id => perform (.ok id) (Service.get backend) (fun record => records [record]) state
  | .create data =>
    perform (readRecords input data) (Service.create backend) (fun made => records made.toList) state
  | .patch id data =>
    perform (readRecords input data) (Service.patch backend id)
      (fun patched => records patched.toList) state
  | .update id data =>
    perform (readRecord input data) (Service.update backend id) (fun record => records [record]) state
  | .remove id query =>
    perform (readQuery input query) (Service.remove backend id)
      (fun removed => printRemovals format removed.toList) state
  | .formula query => (compile format input query, state)

/-- Runs a command; answers what it prints. -/
def run (exchange : Http.Exchange σ) (invocation : Invocation) (input : String) (state : σ) :
    Except SessionError String × σ :=
  let format := invocation.settings.output
  match invocation.command with
  | .formula query => (compile format input query, state)
  | command =>
    match connect invocation.settings with
    | .error error => (.error error, state)
    | .ok table => onBackend (Http.backend exchange table) format input command state

/-- Whether a command reads the standard input. -/
def readsInput : Command → Bool
  | .find query | .remove _ query => query = some "-"
  | .create data | .patch _ data | .update _ data => data = "-"
  | .formula query => query = "-"
  | .get _ => false

def versionText : String := "tabulactl 0.0.0\n"

def helpText : String :=
  "Usage: tabulactl [OPTIONS] <COMMAND>\n\nCommands:\n" ++
    joinLines (fun command => "  " ++ command.text ++ "\n") CommandName.all ++ "\nOptions:\n" ++
    joinLines (fun option => "  --" ++ option.long ++ "\n") OptionName.shared

/-- The exit statuses of a run that fails and of arguments that cannot be read. -/
def failureStatus : UInt32 := 1

def usageStatus : UInt32 := 2

end TableClient.Cli
