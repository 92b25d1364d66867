import TableClient.Config
/-! The command line. Options that every command knows may stand before or after the
command's name, in either place once; a value given after it wins over one given before
it, and both win over the environment. A double dash ends the options, a single one is an
ordinary value. -/
namespace TableClient.Cli

inductive OutputFormat
  | human
  | json
deriving DecidableEq, Repr

def OutputFormat.ofText? (text : String) : Option OutputFormat :=
  if text = "human" then some .human
  else if text = "json" then some .json
  else none

inductive OptionName
  | output
  | apiRoot
  | base
  | table
  | apiKey
  | timeout
  | id
  | query
deriving DecidableEq, Repr

namespace OptionName

def long : OptionName → String
  | .output => "output"
  | .apiRoot => "api-root"
  | .base => "base"
  | .table => "table"
  | .apiKey => "api-key"
  | .timeout => "timeout-secs"
  | .id => "id"
  | .query => "query"

/-- The options of every command. -/
def shared : List OptionName := [.output, .apiRoot, .base, .table, .apiKey, .timeout]

/-- Whether a value may be given to an option. -/
def accepts (name : OptionName) (value : String) : Bool :=
  match name with
  | .output => (OutputFormat.ofText? value).isSome
  | .timeout => (Text.wholeCount? value).isSome
  | _ => true

end OptionName

inductive CommandName
  | find
  | get
  | create
  | patch
  | update
  | remove
  | formula
deriving DecidableEq, Repr

namespace CommandName

def all : List CommandName := [.find, .get, .create, .patch, .update, .remove, .formula]

def text : CommandName → String
  | .find => "find"
  | .get => "get"
  | .create => "create"
  | .patch => "patch"
  | .update => "update"
  | .remove => "remove"
  | .formula => "formula"

def ofText? (text : String) : Option CommandName := all.find? fun command => command.text = text

def options : CommandName → List OptionName
  | .find => [.query]
  | .patch | .update => [.id]
  | .remove => [.id, .query]
  | .get | .create | .formula => []

/-- How many values of its own the command takes. -/
def valueCount : CommandName → Nat
  | .find | .remove => 0
  | .get | .create | .patch | .update | .formula => 1

end CommandName

inductive Command
  | find (query : Option String)
  | get (id : String)
  | create (data : String)
  | patch (id : Option String) (data : String)
  | update (id : Option String) (data : String)
  | remove (id query : Option String)
  | formula (query : String)
deriving DecidableEq, Repr

structure Settings where
  output : OutputFormat
  apiRoot : Option String
  base : Option String
  table : Option String
  apiKey : Option String
  timeoutSeconds : Option UInt64
deriving DecidableEq, Repr

structure Invocation where
  settings : Settings
  command : Command
deriving DecidableEq, Repr

/-- Why no command is run. -/
inductive Halt
  | version
  | help
  | usage
deriving DecidableEq, Repr

abbrev Given := List (OptionName × String)

namespace Given

def value? (given : Given) (name : OptionName) : Option String :=
  (List.find? (fun (other, _) => other = name) given).map Prod.snd

/-- Adds an option that was not given before, with a value that it takes. -/
def add (given : Given) (name : OptionName) (value : String) : Except Halt Given :=
  if (value? given name).isSome ∨ !name.accepts value then .error .usage
  else .ok ((name, value) :: given)

end Given

/-- The parts of one argument. -/
inductive Argument
  /-- A long option, perhaps with a value behind `=`. -/
  | long (name : String) (value : Option String)
  /-- A short option and the text behind its letter. -/
  | short (letter : Char) (rest : List Char)
  | endOfOptions
  | plain (value : String)
deriving DecidableEq, Repr

namespace Argument

def longParts (text : List Char) : Argument :=
  match Text.spanUntil (· == '=') text with
  | (name, []) => .long (String.ofList name) none
  | (name, _ :: value) => .long (String.ofList name) (some (String.ofList value))

def ofText (text : String) : Argument :=
  match text.toList with
  | ['-', '-'] => .endOfOptions
  | '-' :: '-' :: rest => longParts rest
  | '-' :: letter :: rest => .short letter rest
  | _ => .plain text

/-- Whether an argument can be the value of the option in front of it. -/
def isValue (text : String) : Bool :=
  match ofText text with
  | .plain _ => true
  | _ => false

/-- The value behind a short option's letter: with or without an equals sign. -/
def shortValue : List Char → Option String
  | [] => none
  | '=' :: value => some (String.ofList value)
  | value => some (String.ofList value)

end Argument

/-- An option's value: given with it, or else the next argument. -/
def takeValue (given : Given) (name : OptionName) (attached : Option String)
    (rest : List String) : Except Halt (Given × List String) :=
  match attached, rest with
  | some value, _ => (given.add name value).map (·, rest)
  | none, value :: others =>
    if Argument.isValue value then (given.add name value).map (·, others) else .error .usage
  | none, [] => .error .usage

def findLong? (known : List OptionName) (name : String) : Option OptionName :=
  known.find? fun option => option.long = name

/-- The options that end the reading of arguments where they are met. -/
def haltOfLong? (knowsVersion : Bool) (name : String) (value : Option String) : Option Halt :=
  if name = "help" then some (if value.isNone then .help else .usage)
  else if name = "version" ∧ knowsVersion then some (if value.isNone then .version else .usage)
  else none

def haltOfShort? (knowsVersion : Bool) (letter : Char) : Option Halt :=
  if letter = 'h' then some .help
  else if letter = 'V' ∧ knowsVersion then some .version
  else none

/-- Reads one option; answers the options given and the arguments left. -/
def takeOption (known : List OptionName) (knowsVersion : Bool) (given : Given)
    (argument : Argument) (rest : List String) : Except Halt (Given × List String) :=
  match argument with
  | .long name value =>
    match haltOfLong? knowsVersion name value with
    | some halt => .error halt
    | none =>
      match findLong? known name with
      | some option => takeValue given option value rest
      | none => .error .usage
  | .short letter attached =>
    match haltOfShort? knowsVersion letter with
    | some halt => .error halt
    | none =>
      if letter = 'o' then takeValue given .output (Argument.shortValue attached) rest
      else .error .usage
  | .endOfOptions | .plain _ => .error .usage

theorem rest_of_map_add {given next : Given} {name : OptionName} {value : String}
    {rest left : List String}
    (taken : (given.add name value).map (fun all => (all, rest)) = .ok (next, left)) :
    left = rest := by
  cases added : given.add name value with
  | error halt => simp [added, Except.map] at taken
  | ok all =>
    simp only [added, Except.map, Except.ok.injEq, Prod.mk.injEq] at taken
    exact taken.2.symm

theorem length_takeValue {given next : Given} {name : OptionName} {attached : Option String}
    {rest left : List String} (taken : takeValue given name attached rest = .ok (next, left)) :
    left.length ≤ rest.length := by
  unfold takeValue at taken
  split at taken
  · exact Nat.le_of_eq (congrArg List.length (rest_of_map_add taken))
  · split at taken
    · rw [rest_of_map_add taken]
      simp
    · simp at taken
  · simp at taken

theorem length_takeOption {known : List OptionName} {knowsVersion : Bool} {given next : Given}
    {argument : Argument} {rest left : List String}
    (taken : takeOption known knowsVersion given argument rest = .ok (next, left)) :
    left.length ≤ rest.length := by
  unfold takeOption at taken
  split at taken
  · split at taken
    · simp at taken
    · split at taken
      · exact length_takeValue taken
      · simp at taken
  · split at taken
    · simp at taken
    · split at taken
      · exact length_takeValue taken
      · simp at taken
  · simp at taken
  · simp at taken

/-- In the place of a command's name, the wish for help. -/
def helpWord : String := "help"

/-- Help is given on the program or on one of its commands. -/
def haltOfHelp : List String → Halt
  | [] => .help
  | [name] => if name = helpWord ∨ (CommandName.ofText? name).isSome then .help else .usage
  | _ => .usage

/-- The options in front of the command's name, the command, and the arguments behind it. -/
def readFront (given : Given) : List String → Except Halt (Given × CommandName × List String)
  | [] => .error .usage
  | text :: rest =>
    match Argument.ofText text with
    | .plain name =>
      match CommandName.ofText? name with
      | some command => .ok (given, command, rest)
      | none => .error (if name = helpWord then haltOfHelp rest else .usage)
    | .endOfOptions => .error .usage
    | argument =>
      match _taken : takeOption OptionName.shared true given argument rest with
      | .ok (next, left) => readFront next left
      | .error halt => .error halt
termination_by arguments => arguments.length
decreasing_by
  have := length_takeOption _taken
  simp only [List.length_cons]
  omega

/-- The options and at most `room` plain values behind the command's name, first to last. -/
def readBehind (known : List OptionName) (given : Given) (room : Nat) :
    List String → Except Halt (Given × List String)
  | [] => .ok (given, [])
  | text :: rest =>
    match Argument.ofText text with
    | .plain value =>
      if room = 0 then .error .usage
      else (readBehind known given (room - 1) rest).map fun (all, values) => (all, value :: values)
    | .endOfOptions => if room < rest.length then .error .usage else .ok (given, rest)
    | argument =>
      match _taken : takeOption known false given argument rest with
      | .ok (next, left) => readBehind known next room left
      | .error halt => .error halt
termination_by arguments => arguments.length
decreasing_by
  · simp
  · have := length_takeOption _taken
    simp only [List.length_cons]
    omega

/-- The command with its options and its value, if it takes one. -/
def commandOf (name : CommandName) (given : Given) (values : List String) :
    Except Halt Command :=
  let id := given.value? .id
  let query := given.value? .query
  match name, values with
  | .find, [] => .ok (.find query)
  | .get, [value] => .ok (.get value)
  | .create, [value] => .ok (.create value)
  | .patch, [value] => .ok (.patch id value)
  | .update, [value] => .ok (.update id value)
  | .remove, [] => .ok (.remove id query)
  | .formula, [value] => .ok (.formula value)
  | _, _ => .error .usage

/-- A setting given behind the command, in front of it, or by the environment. -/
def setting (front behind : Given) (lookup : String → Option String) (name : OptionName)
    (fallback : String) : Option String :=
  behind.value? name <|> front.value? name <|> lookup fallback

/-- The environment is read in both places; its timeout must be a count where none is given. -/
def acceptsEnvironment (given : Given) (lookup : String → Option String) : Bool :=
  (given.value? .timeout).isSome ||
    (lookup Config.timeoutVariable).all fun text => (Text.wholeCount? text).isSome

def settingsOf (front behind : Given) (lookup : String → Option String) : Settings where
  output := ((behind.value? .output <|> front.value? .output).bind OutputFormat.ofText?).getD .human
  apiRoot := setting front behind lookup .apiRoot Config.apiRootVariable
  base := setting front behind lookup .base Config.baseIdVariable
  table := setting front behind lookup .table Config.tableVariable
  apiKey := setting front behind lookup .apiKey Config.apiKeyVariable
  timeoutSeconds :=
    (setting front behind lookup .timeout Config.timeoutVariable).bind Text.wholeCount?

/-- Reads the arguments of the program. -/
def parse (arguments : List String) (lookup : String → Option String) :
    Except Halt Invocation := do
  let (front, name, rest) ← readFront [] arguments
  let (behind, values) ←
    readBehind (OptionName.shared ++ name.options) [] name.valueCount rest
  let command ← commandOf name behind values
  if acceptsEnvironment behind lookup && acceptsEnvironment front lookup then
    return ⟨settingsOf front behind lookup, command⟩
  else .error .usage

end TableClient.Cli
