/-
**What is wrong with a URL.**
-/

namespace Seeding.Url

/-- Why a text is no URL that stands for itself. -/
inductive Fault where
  /-- No scheme is in front. -/
  | relative
  | emptyHost
  | invalidDomain
  /-- A host that need not be a domain has a character that no host may have. -/
  | invalidCharacter
  | invalidPort
  | invalidIpv4
  | invalidIpv6
  deriving DecidableEq, Repr

/-- The text of a fault. -/
def Fault.message : Fault → String
  | .relative => "relative URL without a base"
  | .emptyHost => "empty host"
  | .invalidDomain => "invalid international domain name"
  | .invalidCharacter => "invalid domain character"
  | .invalidPort => "invalid port number"
  | .invalidIpv4 => "invalid IPv4 address"
  | .invalidIpv6 => "invalid IPv6 address"

end Seeding.Url
