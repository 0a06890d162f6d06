/-
**Addresses of servers.**

The address of a server is a URL. Its authority names the machine, the port and the user, its path
the database, and the parameters of its query set the same and some more; a later parameter wins
over an earlier one. A host that starts with a slash is the directory of a socket on the own
machine. A parameter with an unknown key is ignored.
-/
import Seeding.Backend.Error
import Seeding.Text.Numeral
import Seeding.Text.Quoted
import Seeding.Url.Basic
import Seeding.Url.Query

namespace Seeding.Postgres

/-- Where a server is, and who asks it for what. -/
structure Address where
  host : String := "localhost"
  /-- The directory of a socket, which goes before the host. -/
  socket? : Option String := none
  port : Nat := 5432
  user? : Option String := none
  password? : Option String := none
  database? : Option String := none
  deriving DecidableEq, Repr

/-- Why a text is no address of a server. -/
inductive AddressFault where
  | url (fault : Url.Fault)
  /-- A part of the authority is no text. -/
  | encoding (fault : Text.Utf8Fault)
  /-- The value of a parameter is not the number that it should be. -/
  | number (fault : Text.NumeralFault)
  | notNumeric
  /-- No level of security has this name. -/
  | security (name : String)
  deriving DecidableEq, Repr

/-- The error that a fault leads to. -/
def AddressFault.error : AddressFault → DatabaseError
  | .url fault => .configuration fault.message
  | .encoding fault => .configuration fault.message
  | .number fault => .configuration fault.message
  | .notNumeric => .configuration "invalid IP address syntax"
  | .security name =>
    .nested (.configuration ("unknown value " ++ Text.quoted name ++ " for `ssl_mode`"))

namespace Address

/-! ### Authorities -/

/-- The text that a part of a URL stands for. -/
def resolved (written : List Char) : Except AddressFault String :=
  match Text.ofUtf8 (Url.percentDecoded written) with
  | .error fault => .error (.encoding fault)
  | .ok characters => .ok (String.ofList characters)

/-- The text of a part that is not empty. -/
def resolved? (written : List Char) : Except AddressFault (Option String) :=
  if written = [] then .ok none else (resolved written).map some

/-- Sets the host that a URL names. -/
def withHost (written : List Char) (address : Address) : Except AddressFault Address :=
  if (Url.percentDecoded written).head? = some '/'.toUInt8 then
    (resolved written).map fun path => { address with socket? := some path }
  else .ok { address with host := String.ofList written }

/-- The address that a URL names without its query. -/
def ofUrl (url : Url) : Except AddressFault Address := do
  let placed ← match url.host? with
    | none => pure {}
    | some host => withHost host.text {}
  let user? ← resolved? url.user
  let password? ← resolved? url.password
  let database? ← resolved? (url.path.dropWhile (· = '/'))
  pure { placed with port := url.port?.getD placed.port, user?, password?, database? }

/-! ### Parameters -/

/-- The names of the levels of security. -/
def securityLevels : List String :=
  ["disable", "allow", "prefer", "require", "verify-ca", "verify-full"]

/-- Reads the number below `bound` that a parameter has for its value. -/
def number (bound : Nat) (value : String) : Except AddressFault Nat :=
  match Text.readBelow bound value.toList with
  | .error fault => .error (.number fault)
  | .ok number => .ok number

/-- The address with a parameter set. A parameter that does not change the place of a server, or
that nobody knows, is as good as none. -/
def withParameter (key value : String) (address : Address) : Except AddressFault Address :=
  match key with
  | "host" =>
    .ok (if value.toList.head? = some '/' then { address with socket? := some value }
      else { address with host := value })
  | "hostaddr" =>
    if Url.isIpAddress value.toList then .ok { address with host := value }
    else .error .notNumeric
  | "port" => (number UInt16.size value).map fun port => { address with port }
  | "user" => .ok { address with user? := some value }
  | "password" => .ok { address with password? := some value }
  | "dbname" => .ok { address with database? := some value }
  | "statement-cache-capacity" => (number UInt64.size value).map fun _ => address
  | "sslmode" | "ssl-mode" =>
    if securityLevels.contains (String.ofList (value.toList.map Char.toLower)) then .ok address
    else .error (.security value)
  | _ => .ok address

/-! ### Addresses -/

/-- Reads an address. The parameters are set in order, and the first fault ends the reading. -/
def ofText (text : String) : Except AddressFault Address :=
  match Url.ofText text with
  | .error fault => .error (.url fault)
  | .ok url => do
    let address ← ofUrl url
    (Url.parameters url.query).foldlM (fun address (key, value) => withParameter key value address)
      address

/-- The directory of the socket that the address names, if it names one. -/
def socketDirectory? (address : Address) : Option String :=
  match address.socket? with
  | some directory => some directory
  | none => if address.host.toList.head? = some '/' then some address.host else none

/-- The path of the socket that the address names: its directory has a socket for each port. -/
def socketPath? (address : Address) : Option String :=
  address.socketDirectory?.map fun directory => s!"{directory}/.s.PGSQL.{address.port}"

/-- Whether the host is known without asking for its number: it is a number itself, in the plain or
the wide form, or it is the own machine. -/
def isKnown (address : Address) : Bool :=
  Url.isIpAddress address.host.toList || (Url.ipv4? address.host.toList).isSome ||
    address.host.toList.map Char.toLower = "localhost".toList

end Address

end Seeding.Postgres
