/-
**Hosts of URLs.**

A host in brackets is an IPv6 address. Where a scheme is tied to the internet, any other host is a
domain, or an IPv4 address if it ends in a number; elsewhere it is a free text that keeps a few
characters out.
-/
import Seeding.Url.Domain
import Seeding.Url.IpAddress
import Seeding.Url.Percent

namespace Seeding.Url

/-- The host of a URL. -/
inductive Host where
  /-- A name; percent signs in it are resolved where the scheme is tied to the internet. -/
  | name (text : List Char)
  | ipv4 (address : Nat)
  /-- An IPv6 address as written in the brackets. -/
  | ipv6 (text : List Char)
  deriving DecidableEq, Repr

namespace Host

/-- Whether a character may not stand in a host that is a free text. -/
def isForbidden (character : Char) : Bool :=
  character = '\x00' || character = '\t' || character = '\n' || character = '\r' ||
    [' ', '#', '/', ':', '<', '>', '?', '@', '[', '\\', ']', '^', '|'].contains character

/-- Reads a host whose first bracket is open. -/
def ofBracketed (text : List Char) : Except Fault Host :=
  if text.getLast? = some ']' ∧ isIpv6 text.dropLast then .ok (.ipv6 text.dropLast)
  else .error .invalidIpv6

/-- Reads a host that is a domain. -/
def ofDomain (text : List Char) : Except Fault Host := do
  let name ← domain (percentDecoded text)
  if name = [] then throw .emptyHost
  else if endsInNumber name then
    match ipv4? name with
    | some address => pure (.ipv4 address)
    | none => throw .invalidIpv4
  else pure (.name name)

/-- Reads a host that is a free text. -/
def ofFree (text : List Char) : Except Fault Host :=
  if text.any isForbidden then .error .invalidCharacter else .ok (.name text)

/-- Reads a host; `isTied` says whether it has to be a domain. -/
def ofText (isTied : Bool) (text : List Char) : Except Fault Host :=
  match text with
  | '[' :: rest => ofBracketed rest
  | _ => if isTied then ofDomain text else ofFree text

/-- The text of a host, an internet address in its plain form. -/
def text : Host → List Char
  | .name text => text
  | .ipv4 address => (dotted address).toList
  | .ipv6 text => text

end Host

end Seeding.Url
