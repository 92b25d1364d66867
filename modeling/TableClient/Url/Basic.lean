import TableClient.Url.Host
import TableClient.Url.Path
import TableClient.Text.Digits
/-! URLs and their text. A path is a text of its own where a scheme is followed by no
slash; such a URL has no segments to add to. Without an authority, a path that starts with
two slashes when it is read is held apart from the scheme for good. -/
namespace TableClient.Url

inductive PathForm
  | segments (path : Path)
  | opaqueText (text : List Char)
deriving DecidableEq, Repr

/-- User information, host and port. -/
structure Authority where
  username : List Char
  password : List Char
  host : Option Host
  port : Option Nat
deriving DecidableEq, Repr

end Url

open Url in
structure Url where
  scheme : String
  authority : Option Authority
  /-- Whether `/.` stands in front of the path. -/
  isHeldApart : Bool
  path : PathForm
  query : Option String
  fragment : Option String
deriving DecidableEq, Repr

namespace Url

/-- The port that a scheme stands for. -/
def defaultPort? (scheme : String) : Option Nat :=
  if scheme = "http" ∨ scheme = "ws" then some 80
  else if scheme = "https" ∨ scheme = "wss" then some 443
  else if scheme = "ftp" then some 21
  else none

def kind (url : Url) : SchemeKind := SchemeKind.ofName url.scheme

namespace Authority

def none : Authority := ⟨[], [], Option.none, Option.none⟩

def userinfoText (authority : Authority) : List Char :=
  if authority.username.isEmpty ∧ authority.password.isEmpty then []
  else
    authority.username ++
      (if authority.password.isEmpty then [] else ':' :: authority.password) ++ ['@']

def text (authority : Authority) : String :=
  "//" ++ String.ofList authority.userinfoText ++ (authority.host.map Host.text).getD "" ++
    (authority.port.map fun port => ":" ++ Text.decimal port).getD ""

end Authority

def pathText (url : Url) : List Char :=
  match url.path with
  | .segments path => Path.text path
  | .opaqueText text => text

def queryText (url : Url) : String := (url.query.map ("?" ++ ·)).getD ""

def text (url : Url) : String :=
  url.scheme ++ ":" ++ (url.authority.map Authority.text).getD "" ++
    (if url.isHeldApart then "/." else "") ++ String.ofList url.pathText ++ url.queryText ++
    (url.fragment.map ("#" ++ ·)).getD ""

/-- What a request names: path and query. -/
def target (url : Url) : String := String.ofList url.pathText ++ url.queryText

/-- Adds a name to the path, if the path has segments. -/
def push (url : Url) (name : String) : Url :=
  match url.path with
  | .segments path => { url with path := .segments (Path.push url.kind path name) }
  | .opaqueText _ => url

end Url
end TableClient
