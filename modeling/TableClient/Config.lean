import TableClient.Backend
import TableClient.Url.Parser
/-! Where a table lives and how to reach it. The table's URL is the root of the API with
the base and the table as two more path segments; an empty last segment of the root is
dropped first, and its query and fragment stay at the end. -/
namespace TableClient

structure Config where
  apiRoot : String
  baseId : String
  table : String
  /-- Sent as a bearer token with every request. -/
  apiKey : Option String
  timeoutSeconds : Option UInt64
deriving DecidableEq, Repr

namespace Config

def defaultApiRoot : String := "https://api.airtable.com/v0"

def ofTable (baseId table : String) : Config := ⟨defaultApiRoot, baseId, table, none, none⟩

/-- An empty key counts as absent. -/
def nonEmptyKey? (key : Option String) : Option String := key.filter (· ≠ "")

/-- The names of the settings that the environment may hold. -/
def apiRootVariable : String := "TABULA_API_ROOT"

def baseIdVariable : String := "TABULA_BASE_ID"

def tableVariable : String := "TABULA_TABLE"

def apiKeyVariable : String := "TABULA_API_KEY"

def timeoutVariable : String := "TABULA_TIMEOUT_SECS"

def unset (name : String) : BackendError := .config (name ++ " is not set")

/-- The settings of an environment; a timeout that is no count is absent. -/
def ofEnvironment (lookup : String → Option String) : Except BackendError Config :=
  match lookup baseIdVariable, lookup tableVariable with
  | none, _ => .error (unset baseIdVariable)
  | some _, none => .error (unset tableVariable)
  | some baseId, some table => .ok {
      apiRoot := (lookup apiRootVariable).getD defaultApiRoot
      baseId
      table
      apiKey := nonEmptyKey? (lookup apiKeyVariable)
      timeoutSeconds := (lookup timeoutVariable).bind Text.wholeCount? }

/-- The root without an empty last segment. -/
def trimmedRoot (root : Url) : Url :=
  match root.path with
  | .segments path => { root with path := .segments path.popIfEmpty }
  | .opaqueText _ => root

def tableUrl (config : Config) : Except BackendError Url :=
  match Url.parse config.apiRoot with
  | .error error =>
    .error (.config ("invalid api root " ++ config.apiRoot ++ ": " ++ error.message))
  | .ok root =>
    match root.path with
    | .opaqueText _ => .error (.config ("api root cannot be a base: " ++ config.apiRoot))
    | .segments _ => .ok (((trimmedRoot root).push config.baseId).push config.table)

/-- The URL of a record is that of its table with the id as one more segment. -/
def recordUrl (tableUrl : Url) (id : String) : Url := tableUrl.push id

end Config
end TableClient
