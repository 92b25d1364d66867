import TableClient.Json.Token
/-! JSON text as a tree. Objects keep the members as written, repeats included. A subtree
that is well formed and denotes no value (a numeral past the largest number, half of a
surrogate pair, nesting past the limit) is unreadable: a reader may pass over it, as over
any member that it does not know, but cannot read it. Reading a whole value gives each key
its last value at the place where the key came first. -/
namespace TableClient.Json

inductive Source
  | null
  | bool (value : Bool)
  | number (value : Number)
  | string (value : String)
  | array (items : List Source)
  | object (members : List (String × Source))
  | unreadable

namespace Source

/-- How many arrays and objects may stand inside each other, the outermost included. -/
def nestingLimit : Nat := 127

/-- An array or object whose end has not come yet, the last part first. -/
inductive Frame
  | array (done : List Source)
  | object (done : List (Option String × Source)) (key : Option String)

/-- What may come next. -/
inductive Place
  | value
  | firstItem
  | firstKey
  | key
  | colon
  | separator
  | finished (value : Source)

structure Assembly where
  frames : List Frame
  place : Place

namespace Assembly

def start : Assembly := ⟨[], .value⟩

/-- Hands a complete value to the innermost frame. -/
def put (value : Source) : List Frame → Assembly
  | [] => ⟨[], .finished value⟩
  | .array done :: outer => ⟨.array (value :: done) :: outer, .separator⟩
  | .object done key :: outer => ⟨.object ((key, value) :: done) key :: outer, .separator⟩

/-- The members of a complete object; none if a key is unreadable. -/
def members? (done : List (Option String × Source)) : Option (List (String × Source)) :=
  done.reverse.mapM fun (key, value) => key.map (·, value)

def arrayValue (depth : Nat) (done : List Source) : Source :=
  if nestingLimit < depth then .unreadable else .array done.reverse

def objectValue (depth : Nat) (done : List (Option String × Source)) : Source :=
  if nestingLimit < depth then .unreadable
  else
    match members? done with
    | some members => .object members
    | none => .unreadable

def putValue (frames : List Frame) : Token → Option Assembly
  | .openArray => some ⟨.array [] :: frames, .firstItem⟩
  | .openObject => some ⟨.object [] none :: frames, .firstKey⟩
  | .null => some (put .null frames)
  | .bool value => some (put (.bool value) frames)
  | .number (some value) => some (put (.number value) frames)
  | .string (some value) => some (put (.string value) frames)
  | .number none | .string none => some (put .unreadable frames)
  | .closeArray | .closeObject | .comma | .colon => none

/-- Ends the innermost frame. -/
def close : List Frame → Token → Option Assembly
  | .array done :: outer, .closeArray => some (put (arrayValue (outer.length + 1) done) outer)
  | .object done _ :: outer, .closeObject => some (put (objectValue (outer.length + 1) done) outer)
  | _, _ => none

def putKey : List Frame → Token → Option Assembly
  | .object done _ :: outer, .string key => some ⟨.object done key :: outer, .colon⟩
  | _, _ => none

def afterComma : List Frame → Option Assembly
  | .array done :: outer => some ⟨.array done :: outer, .value⟩
  | .object done key :: outer => some ⟨.object done key :: outer, .key⟩
  | [] => none

/-- Takes one token; none where the token may not stand. -/
def step (assembly : Assembly) (token : Token) : Option Assembly :=
  match assembly.place, token with
  | .value, _ => putValue assembly.frames token
  | .firstItem, .closeArray => close assembly.frames token
  | .firstItem, _ => putValue assembly.frames token
  | .firstKey, .closeObject => close assembly.frames token
  | .firstKey, _ => putKey assembly.frames token
  | .key, _ => putKey assembly.frames token
  | .colon, .colon => some ⟨assembly.frames, .value⟩
  | .colon, _ => none
  | .separator, .comma => afterComma assembly.frames
  | .separator, _ => close assembly.frames token
  | .finished _, _ => none

def run (assembly : Assembly) : List Token → Option Assembly
  | [] => some assembly
  | token :: rest =>
    match step assembly token with
    | some next => run next rest
    | none => none

end Assembly

/-- The tree of a text that is one JSON value. -/
def parse? (text : String) : Option Source := do
  let assembly ← Assembly.start.run (← Token.scanAll text.toList)
  match assembly.place with
  | .finished value => some value
  | _ => none

mutual

/-- The value a tree denotes, if all of it can be read. -/
def value? : Source → Option Json
  | .null => some .null
  | .bool value => some (.bool value)
  | .number value => some (.number value)
  | .string value => some (.string value)
  | .array items => (values? items).map .array
  | .object members => (memberValues? members).map fun pairs => .object (Members.ofPairs pairs)
  | .unreadable => none

def values? : List Source → Option (List Json)
  | [] => some []
  | item :: rest => do return (← value? item) :: (← values? rest)

def memberValues? : List (String × Source) → Option (List (String × Json))
  | [] => some []
  | (key, value) :: rest => do return (key, ← value? value) :: (← memberValues? rest)

end

mutual

/-- A value seen as text that was written for it. -/
def ofJson : Json → Source
  | .null => .null
  | .bool value => .bool value
  | .number value => .number value
  | .string value => .string value
  | .array items => .array (ofItems items)
  | .object members => .object (ofMembers members)

def ofItems : List Json → List Source
  | [] => []
  | item :: rest => ofJson item :: ofItems rest

def ofMembers : List (String × Json) → List (String × Source)
  | [] => []
  | (key, value) :: rest => (key, ofJson value) :: ofMembers rest

end

end Source

/-- The value written by a text. -/
def parse? (text : String) : Option Json := do (← Source.parse? text).value?

end TableClient.Json
