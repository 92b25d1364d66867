import TableClient.Query.Condition
/-! The condition that a query puts on records. The members of a query are conditions on
the fields they name, all of which must hold; a list under `$or` takes the place of all
its siblings and asks for one of its parts. Parts without any condition are left out, and
a part that is no query enters the formula as plain text. An object under a field holds
operators and operands. A list under a field is read as operators named by position, so
an empty one says nothing and any other is refused at its first position. -/
namespace TableClient

abbrev Query := Members Json

/-- A symbol under a field that names no operator. -/
structure InvalidOperator where
  operator : String
  field : String
deriving DecidableEq, Repr

def InvalidOperator.message (error : InvalidOperator) : String :=
  "invalid operator " ++ error.operator ++ " for field " ++ error.field

namespace Filter

/-- The key whose list holds alternatives. -/
def alternativesKey : String := "$or"

/-- The conditions of the operators under one field. -/
def ofOperators (field : String) : List (String × Json) →
    Except InvalidOperator (List (Condition Json))
  | [] => .ok []
  | (symbol, operand) :: rest =>
    match Operator.ofSymbol? symbol with
    | none => .error ⟨symbol, field⟩
    | some operator => do
      return Condition.ofOperator operator field operand :: (← ofOperators field rest)

/-- The conditions of one member. -/
def ofMember (field : String) : Json → Except InvalidOperator (List (Condition Json))
  | .object operators => ofOperators field operators
  | .array [] => .ok []
  | .array (_ :: _) => .error ⟨"0", field⟩
  | literal => .ok [.equals field literal]

/-- The conditions of all members but the alternatives. -/
def ofMembers : List (String × Json) → Except InvalidOperator (List (Condition Json))
  | [] => .ok []
  | (field, value) :: rest =>
    if field = alternativesKey then ofMembers rest
    else do return (← ofMember field value) ++ (← ofMembers rest)

/-- The condition of a query, given the parts of its alternatives if it has them. -/
def ofParts (parts : Option (Except InvalidOperator (List (Condition Json)))) (query : Query) :
    Except InvalidOperator (Option (Condition Json)) :=
  match parts with
  | some parts => parts.map fun conditions => some (.anyOf conditions)
  | none => (ofMembers query).map Condition.conjunction

/-- A part of the alternatives that is no query; an empty text says nothing. -/
def ofText (text : String) : Option (Condition Json) :=
  if text = "" then none else some (.verbatim text)

mutual

/-- The parts of the alternatives of a query, if it has any. -/
def alternatives? : List (String × Json) →
    Option (Except InvalidOperator (List (Condition Json)))
  | [] => none
  | (key, value) :: rest =>
    if key = alternativesKey then
      match value with
      | .array parts => some (ofAlternatives parts)
      | _ => none
    else alternatives? rest

def ofAlternatives : List Json → Except InvalidOperator (List (Condition Json))
  | [] => .ok []
  | part :: rest => do
    let condition ← ofAlternative part
    return condition.toList ++ (← ofAlternatives rest)

def ofAlternative : Json → Except InvalidOperator (Option (Condition Json))
  | .object query => ofParts (alternatives? query) query
  | other => .ok (ofText other.plainText)

end

/-- The condition of a query; none if it asks for nothing. -/
def condition? (query : Query) : Except InvalidOperator (Option (Condition Json)) :=
  ofParts (alternatives? query) query

/-- The formula of a query, empty if it asks for nothing. -/
def formula (query : Query) : Except InvalidOperator String :=
  (condition? query).map fun
    | some condition => condition.formula
    | none => ""

end Filter
end TableClient
