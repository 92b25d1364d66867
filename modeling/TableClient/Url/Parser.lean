import TableClient.Url.Basic
/-! Reading URLs. Control characters and spaces around a text and line breaks and tabs
within it are dropped; these only part a drive from what is behind it, so a file's text is
read with them. The scheme decides how the rest is read: a web scheme takes any slashes
for the start of its authority, a file takes two, any other scheme exactly two. -/
namespace TableClient.Url

namespace Parser

def isOuterBlank (c : Char) : Bool := c.toNat ≤ 0x20

def trimmed (text : String) : List Char :=
  let front := text.toList.dropWhile isOuterBlank
  (front.reverse.dropWhile isOuterBlank).reverse

def isSchemeChar (c : Char) : Bool := c.isAlphanum || c = '+' || c = '-' || c = '.'

/-- The scheme of a text and what follows its colon. -/
def splitScheme? (text : List Char) : Option (String × List Char) :=
  let name := text.takeWhile isSchemeChar
  match name, text.dropWhile isSchemeChar with
  | first :: _, ':' :: rest =>
    if first.isAlpha then some (String.ofList (name.map Char.toLower), rest) else none
  | _, _ => none

def isSlash (c : Char) : Bool := c = '/' || c = '\\'

/-- Whether a character ends the authority. -/
def endsAuthority (kind : SchemeKind) (c : Char) : Bool :=
  c = '/' || c = '?' || c = '#' || (c = '\\' && kind.isSpecial)

/-- The user information in front of the last `@`, if there is any. -/
def splitUserinfo (authority : List Char) : Option (List Char) × List Char :=
  if authority.contains '@' then
    let behind := (authority.reverse.takeWhile (· ≠ '@')).reverse
    (some (authority.take (authority.length - behind.length - 1)), behind)
  else (none, authority)

def userinfo (text : List Char) : List Char × List Char :=
  let (name, password) := Text.spanUntil (· == ':') text
  (Percent.encode Percent.inUserinfo name, Percent.encode Percent.inUserinfo (password.drop 1))

/-- A host and what follows it; a colon in brackets is part of the host. -/
def splitHost (inBrackets : Bool) : List Char → List Char × List Char
  | [] => ([], [])
  | c :: rest =>
    if c = ':' ∧ !inBrackets then ([], c :: rest)
    else
      let (host, after) := splitHost (c = '[' || (inBrackets && c ≠ ']')) rest
      (c :: host, after)

def host (kind : SchemeKind) (text : List Char) : Except ParseError (Option Host) :=
  if text.isEmpty then
    if kind = .web then .error .emptyHost else .ok none
  else if kind.isSpecial then (Host.ofWeb text).map some
  else (Host.ofOpaque text).map some

/-- The digits behind the colon, at most the largest port; the scheme's own is left out. -/
def port (scheme : String) : List Char → Except ParseError (Option Nat)
  | ':' :: digits =>
    if digits.isEmpty then .ok none
    else
      let number := Text.digitsValue digits
      if !digits.all Char.isDigit ∨ 65535 < number then .error .invalidPort
      else .ok (if defaultPort? scheme = some number then none else some number)
  | _ => .ok none

/-- A port ends at a backslash under every scheme. -/
def cutPort (text : List Char) : List Char × List Char :=
  match text with
  | ':' :: rest =>
    let (digits, after) := Text.spanUntil (· == '\\') rest
    (':' :: digits, after)
  | _ => (text, [])

def authority (scheme : String) (text : List Char) :
    Except ParseError (Authority × List Char) := do
  let kind := SchemeKind.ofName scheme
  let (user, rest) := splitUserinfo text
  let (hostText, behind) := splitHost false rest
  let (username, password) := userinfo (user.getD [])
  let found ← host kind hostText
  let (portText, after) := cutPort behind
  if found.isNone ∧ (!portText.isEmpty ∨ !username.isEmpty ∨ !password.isEmpty) then
    .error .emptyHost
  else return (⟨username, password, found, ← port scheme portText⟩, after)

/-- An `@` with neither a name in front nor a host behind it. -/
def isBareAt (text : List Char) (after : List Char) : Bool :=
  (splitUserinfo text).1 = some [] && (splitUserinfo text).2.isEmpty && !after.isEmpty

structure Tail where
  path : List Char
  query : Option (List Char)
  fragment : Option (List Char)

/-- What stands in front of the query and the fragment, and those cleaned. -/
def splitTail (text : List Char) : Tail :=
  let (front, marked) := Text.spanUntil (· == '#') text
  let (path, queried) := Text.spanUntil (· == '?') front
  ⟨path, if queried.isEmpty then none else some (Path.cleaned (queried.drop 1)),
    if marked.isEmpty then none else some (Path.cleaned (marked.drop 1))⟩

def queryAllowed (kind : SchemeKind) : Percent.Allowed :=
  if kind.isSpecial then Percent.inSpecialQuery else Percent.inQuery

def withTail (scheme : String) (authority : Option Authority) (path : PathForm) (tail : Tail) :
    Url where
  scheme := scheme
  authority := authority
  isHeldApart :=
    match authority, path with
    | none, .segments path => path.startsWithSlashes
    | _, _ => false
  path := path
  query := tail.query.map fun text =>
    String.ofList (Percent.encode (queryAllowed (SchemeKind.ofName scheme)) text)
  fragment := tail.fragment.map fun text => String.ofList (Percent.encode Percent.inFragment text)

/-- The path behind an authority. -/
def pathBehind (kind : SchemeKind) (text : List Char) : Path.Reading :=
  match text.dropWhile Path.isDropped with
  | [] => ⟨if kind.isSpecial then [[]] else [], false⟩
  | c :: rest =>
    if Path.isSeparator kind c then Path.ofText kind rest else Path.ofText kind (c :: rest)

/-- What follows the two slashes. -/
def afterSlashes (scheme : String) (text : List Char) : Except ParseError Url := do
  let kind := SchemeKind.ofName scheme
  let (authorityText, rest) := Text.spanUntil (endsAuthority kind) text
  if isBareAt authorityText rest then .error .emptyHost
  else
    let (found, after) ← authority scheme authorityText
    let tail := splitTail (after ++ rest)
    return withTail scheme (some found) (.segments (pathBehind kind tail.path).path) tail

def localHost (text : List Char) : Except ParseError (Option Host) :=
  if text.isEmpty then .ok none
  else do
    let found ← Host.ofWeb text
    return if found = .name "localhost" then none else some found

def hostlessFile (text : List Char) : Url :=
  let tail := splitTail text
  withTail "file" (some .none) (.segments (Path.ofText .file tail.path).path) tail

/-- A file's host and path. A drive in the host's place belongs to the path, and where there
is no host the path's first slash counts as a segment. -/
def fileAfterSlashes (text : List Char) : Except ParseError Url := do
  let (front, rest) := Text.spanUntil (endsAuthority .file) text
  let hostText := Path.cleaned front
  if Path.isDrive hostText then return hostlessFile text
  else
    match ← localHost hostText with
    | none => return hostlessFile rest
    | some found =>
      let tail := splitTail rest
      let reading := pathBehind .file tail.path
      let host := if reading.hasDrive then none else some found
      return withTail "file" (some { Authority.none with host }) (.segments reading.path) tail

/-- A file without a host. -/
def localFile (text : List Char) : Url :=
  let tail := splitTail text
  withTail "file" (some .none) (.segments (pathBehind .file tail.path).path) tail

/-- What follows a slash, if a text starts with one. -/
def behindSlash? (text : List Char) : Option (List Char) :=
  match text.dropWhile Path.isDropped with
  | c :: rest => if isSlash c then some rest else none
  | [] => none

def file (text : List Char) : Except ParseError Url :=
  match (behindSlash? text).bind behindSlash? with
  | some rest => fileAfterSlashes rest
  | none => .ok (localFile text)

/-- A scheme that is no scheme of the web. -/
def other (scheme : String) (text : List Char) : Except ParseError Url :=
  match text with
  | '/' :: '/' :: rest => afterSlashes scheme rest
  | '/' :: rest =>
    let tail := splitTail rest
    .ok (withTail scheme none (.segments (Path.ofText .other tail.path).path) tail)
  | _ =>
    let tail := splitTail text
    let path := Percent.encode Percent.inOpaque tail.path
    .ok (withTail scheme none (.opaqueText path) tail)

end Parser

/-- The URL that a text writes. -/
def parse (text : String) : Except ParseError Url :=
  let trimmed := Parser.trimmed text
  match Parser.splitScheme? (Path.cleaned trimmed) with
  | none => .error .noBase
  | some (scheme, rest) =>
    match SchemeKind.ofName scheme with
    | .web => Parser.afterSlashes scheme (rest.dropWhile Parser.isSlash)
    | .file => Parser.file ((trimmed.dropWhile (· ≠ ':')).drop 1)
    | .other => Parser.other scheme rest

end TableClient.Url
