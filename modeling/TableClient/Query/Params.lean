import TableClient.Query.Selection
/-! The parameters of a list request, and their form as pairs of texts in a URL. An empty
formula and a ceiling of zero are left out; sort keys are numbered from zero. In pairs a
list repeats its key, so an empty list leaves no trace. -/
namespace TableClient

abbrev Params := Members Json

namespace Selection

def formulaKey : String := "filterByFormula"

def ceilingKey : String := "maxRecords"

def fieldsKey : String := "fields[]"

def sortFieldKey (index : Nat) : String := "sort[" ++ Text.decimal index ++ "][field]"

def sortDirectionKey (index : Nat) : String := "sort[" ++ Text.decimal index ++ "][direction]"

def formulaParam : Option String → Params
  | some formula => if formula = "" then [] else [(formulaKey, .string formula)]
  | none => []

def ceilingParam : Option UInt64 → Params
  | some ceiling => if ceiling = 0 then [] else [(ceilingKey, .ofCount ceiling)]
  | none => []

def fieldsParam : Option (List String) → Params
  | some fields => [(fieldsKey, .array (fields.map .string))]
  | none => []

def sortParams (index : Nat) : List SortKey → Params
  | [] => []
  | key :: rest =>
    (sortFieldKey index, .string key.field) ::
      (sortDirectionKey index, .string key.direction.text) :: sortParams (index + 1) rest

def params (selection : Selection) : Params :=
  formulaParam selection.formula ++ ceilingParam selection.maxRecords ++
    fieldsParam selection.fields ++ sortParams 0 (selection.sort.getD [])

end Selection

namespace Params

def pairsOf (key : String) : Json → List (String × String)
  | .array items => items.map fun item => (key, item.plainText)
  | value => [(key, value.plainText)]

/-- The parameters as pairs of texts. -/
def queryPairs (params : Params) : List (String × String) :=
  params.flatMap fun (key, value) => pairsOf key value

end Params
end TableClient
