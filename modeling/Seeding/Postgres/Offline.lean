/-
**A machine without a network.**

On a machine without a network and without a server nothing gets through to any address, and the
machine says why. A known host has no route, and no other host can be asked for. A socket is looked
for among the files of the machine: its path has to be one that a system call takes, and it is not
there.
-/
import Seeding.Postgres.Address
import Seeding.Postgres.Scripted

namespace Seeding.Postgres

/-! ### Files -/

/-- The files of a machine, each as the names on its path from the inside out. -/
structure Files where
  directories : List (List String) := []
  /-- The files that are no directories. -/
  plain : List (List String) := []

/-- Whether the way along names, from a directory on, meets a file that is no directory before it
meets a name that is not there. -/
def Files.meetsPlain (files : Files) (directory : List String) : List String → Bool
  | [] => false
  | name :: rest =>
    let there := name :: directory
    if name = "" ∨ name = "." then files.meetsPlain directory rest
    else if name = ".." then files.meetsPlain directory.tail rest
    else if files.directories.contains there then files.meetsPlain there rest
    else files.plain.contains there

/-- The names of a path. -/
def pathNames (path : String) : List String :=
  (Text.parts (· = '/') path.toList).map String.ofList

/-! ### Addresses -/

/-- The bytes that a socket's path may have at most. -/
def socketPathLimit : Nat := 107

/-- Why a machine with these files does not find a socket. -/
def missingSocket (files : Files) (path : String) : String :=
  if path.toList.contains '\x00' then "paths must not contain interior null bytes"
  else if socketPathLimit < path.utf8ByteSize then "path must be shorter than SUN_LEN"
  else if files.meetsPlain [] (pathNames path) then "Not a directory (os error 20)"
  else "No such file or directory (os error 2)"

/-- Why a machine with these files does not reach an address. -/
def unreached (files : Files) (address : Address) : String :=
  match address.socketPath? with
  | some path => missingSocket files path
  | none =>
    if address.isKnown then "Network is unreachable (os error 101)"
    else "failed to lookup address information: Temporary failure in name resolution"

/-- The way from a machine with these files to an address. -/
def Link.offline (address : Address) (files : Files := {}) : Link := .down (unreached files address)

end Seeding.Postgres
