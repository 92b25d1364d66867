import TableClient.Url.Domain
import TableClient.Url.Ipv6
import TableClient.Url.Percent
/-! Hosts of URLs, and the ways in which a text fails to be a URL. A host in brackets is an
IPv6 address. Schemes of the web know domain names and IPv4 addresses; under any other
scheme a host is a text of its own with few characters excluded. -/
namespace TableClient.Url

inductive ParseError
  | noBase
  | emptyHost
  | invalidPort
  | invalidIpv4
  | invalidIpv6
  | invalidDomain
  | invalidHostCharacter
deriving DecidableEq, Repr

def ParseError.message : ParseError → String
  | .noBase => "relative URL without a base"
  | .emptyHost => "empty host"
  | .invalidPort => "invalid port number"
  | .invalidIpv4 => "invalid IPv4 address"
  | .invalidIpv6 => "invalid IPv6 address"
  | .invalidDomain => "invalid international domain name"
  | .invalidHostCharacter => "invalid domain character"

inductive Host
  | name (text : String)
  | ipv4 (address : Nat)
  | ipv6 (pieces : List Nat)
deriving DecidableEq, Repr

namespace Host

def text : Host → String
  | .name text => text
  | .ipv4 address => String.ofList (Ipv4.text address)
  | .ipv6 pieces => "[" ++ String.ofList (Ipv6.text pieces) ++ "]"

/-- An address whose opening bracket is left out. -/
def ofBracketed (rest : List Char) : Except ParseError Host :=
  if rest.getLast? = some ']' then
    match Ipv6.parse? rest.dropLast with
    | some pieces => .ok (.ipv6 pieces)
    | none => .error .invalidIpv6
  else .error .invalidIpv6

def ofAscii (domain : List Char) : Except ParseError Host :=
  if domain.isEmpty then .error .emptyHost
  else if Ipv4.endsInNumber domain then
    match Ipv4.parse? domain with
    | some address => .ok (.ipv4 address)
    | none => .error .invalidIpv4
  else .ok (.name (String.ofList domain))

/-- A host under a scheme of the web. -/
def ofWeb : List Char → Except ParseError Host
  | '[' :: rest => ofBracketed rest
  | text =>
    match (Domain.ofBytes? (Percent.decode text)).bind Domain.toAscii? with
    | some domain => ofAscii domain
    | none => .error .invalidDomain

/-- Characters that no host may hold. -/
def isForbidden (c : Char) : Bool :=
  ['\x00', '\t', '\n', '\r', ' ', '#', '/', ':', '<', '>', '?', '@', '[', '\\', ']', '^',
    '|'].contains c

/-- A host under any other scheme. -/
def ofOpaque : List Char → Except ParseError Host
  | '[' :: rest => ofBracketed rest
  | text =>
    if text.any isForbidden then .error .invalidHostCharacter
    else .ok (.name (String.ofList (Percent.encode Percent.inOpaque text)))

end Host
end TableClient.Url
