import TableClient.Url.Percent
import TableClient.Text.Split
/-! The path of a URL as its segments. Every segment has a slash in front, so the path `/`
is one empty segment and a path of no text has none. A segment of one dot adds nothing
and one of two dots takes the segment before it away; either leaves an empty segment if
it comes last. -/
namespace TableClient.Url

inductive SchemeKind
  /-- The scheme of local files. -/
  | file
  /-- A scheme of the web. -/
  | web
  | other
deriving DecidableEq, Repr

namespace SchemeKind

def ofName (name : String) : SchemeKind :=
  if name = "file" then .file
  else if ["http", "https", "ws", "wss", "ftp"].contains name then .web
  else .other

/-- Whether paths always start with a slash and backslashes count as slashes. -/
def isSpecial (kind : SchemeKind) : Bool := kind ≠ .other

def segmentAllowed (kind : SchemeKind) : Percent.Allowed :=
  if kind.isSpecial then Percent.inSpecialSegment else Percent.inSegment

end SchemeKind

abbrev Path := List (List Char)

namespace Path

def isSingleDot (segment : List Char) : Bool :=
  let lower := segment.map Char.toLower
  lower = ['.'] || lower = ['%', '2', 'e']

def isDoubleDot (segment : List Char) : Bool :=
  match segment.map Char.toLower with
  | ['.', '.'] | ['.', '%', '2', 'e'] | ['%', '2', 'e', '.'] => true
  | ['%', '2', 'e', '%', '2', 'e'] => true
  | _ => false

/-- Line breaks and tabs are no part of a URL. -/
def isDropped (c : Char) : Bool := c = '\t' || c = '\n' || c = '\r'

def cleaned (text : List Char) : List Char := text.filter (!isDropped ·)

def isDriveMark (c : Char) : Bool := c = ':' || c = '|'

def isDrive : List Char → Bool
  | [letter, mark] => letter.isAlpha && isDriveMark mark
  | _ => false

/-- Whether a segment is a drive, perhaps with a backslash and more behind it. -/
def startsWithDrive : List Char → Bool
  | [letter, mark] | letter :: mark :: '\\' :: _ => letter.isAlpha && isDriveMark mark
  | _ => false

/-- Takes the last segment away; a drive stays. -/
def shorten (path : Path) : Path :=
  if path.getLast?.any startsWithDrive then path else path.dropLast

/-- Whether a segment is the drive at the start of a file's path. -/
def isFrontDrive (kind : SchemeKind) (path : Path) (segment : List Char) : Bool :=
  kind = .file && path.isEmpty && isDrive segment

/-- A drive at the start of a file's path is written with a colon. -/
def normalSegment (kind : SchemeKind) (path : Path) (segment : List Char) : List Char :=
  if isFrontDrive kind path segment then segment.take 1 ++ [':'] else segment

/-- A drive at the start of a file's path, if dropped characters part it from more of its
segment, and what is behind it. -/
def splitDrive? (kind : SchemeKind) (path : Path) (text : List Char) :
    Option (List Char × List Char) :=
  let (front, behind) := Text.spanUntil (· == ':') text
  let drive := cleaned front ++ [':']
  let rest := behind.drop 1
  if isFrontDrive kind path drive ∧ rest.head?.any isDropped ∧ !(cleaned rest).isEmpty then
    some (drive, rest)
  else none

/-- Adds the segment that a text writes; `isLast` if none follows it. What is parted from a
drive is a segment of its own, even if it is dots. -/
def add (kind : SchemeKind) (allowed : Percent.Allowed) (path : Path) (text : List Char)
    (isLast : Bool) : Path :=
  let segment := Percent.encode allowed (cleaned text)
  if isDoubleDot segment then
    if isLast then shorten path ++ [[]] else shorten path
  else if isSingleDot segment then
    if isLast then path ++ [[]] else path
  else
    match splitDrive? kind path text with
    | some (drive, rest) => path ++ [drive, Percent.encode allowed (cleaned rest)]
    | none => path ++ [normalSegment kind path segment]

/-- Empty segments in front of others. -/
def dropEmptyFront : Path → Path
  | [] :: next :: rest => dropEmptyFront (next :: rest)
  | path => path

def settle (kind : SchemeKind) (path : Path) : Path :=
  match kind with
  | .file => dropEmptyFront path
  | _ => path

structure Reading where
  path : Path
  /-- Whether the path started with a drive at any time; such a file has no host. -/
  hasDrive : Bool

namespace Reading

def add (kind : SchemeKind) (reading : Reading) (text : List Char) (isLast : Bool) : Reading where
  path := Path.add kind Percent.inPath reading.path text isLast
  hasDrive := reading.hasDrive || isFrontDrive kind reading.path (cleaned text)

def addAll (kind : SchemeKind) (reading : Reading) : List (List Char) → Reading
  | [] => reading
  | [text] => reading.add kind text true
  | text :: next :: rest => addAll kind (reading.add kind text false) (next :: rest)

end Reading

def isSeparator (kind : SchemeKind) (c : Char) : Bool := c = '/' || (c = '\\' && kind.isSpecial)

/-- Reads a path whose first slash is left out. -/
def ofText (kind : SchemeKind) (text : List Char) : Reading :=
  let reading := Reading.addAll kind ⟨[], false⟩ (Text.splitOn (isSeparator kind) text)
  { reading with path := settle kind reading.path }

/-- Adds a name as one segment. Names of one or two dots add nothing, and the first name
takes the place of the empty segment of the path `/`. -/
def push (kind : SchemeKind) (path : Path) (name : String) : Path :=
  if name = "." ∨ name = ".." then path
  else
    let front := if path = [[]] then [] else path
    settle kind (add kind kind.segmentAllowed front name.toList true)

/-- Drops an empty last segment, unless it is the only one. -/
def popIfEmpty (path : Path) : Path :=
  if path.getLast? = some [] ∧ 1 < path.length then path.dropLast else path

/-- Whether the text of a path starts with two slashes. -/
def startsWithSlashes : Path → Bool
  | [] :: _ :: _ => true
  | _ => false

def text (path : Path) : List Char := path.flatMap ('/' :: ·)

end Path
end TableClient.Url
