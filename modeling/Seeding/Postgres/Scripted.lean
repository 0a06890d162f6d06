/-
**A scripted server.**

A scripted server stores nothing. It keeps the state of its transaction, counts the statements of
each kind and fails those that its script names; it keeps the INSERT statements that reached it. Its
link may be down, and then nothing reaches it.
-/
import Seeding.Postgres.Server

namespace Seeding.Postgres

/-- A failure that the script asks for: of the statement of a kind with a number, or of every one
of the kind if the number is zero. -/
structure ScriptedFault where
  kind : String
  number : Nat
  message : String
  deriving DecidableEq, Repr

/-- Where a server stands in a transaction. -/
inductive Status where
  | idle
  | inTransaction
  /-- A statement of the transaction failed. -/
  | aborted
  deriving DecidableEq, Repr

/-- The way to a server. -/
inductive Link where
  | up
  /-- Nothing gets through, for this cause. -/
  | down (cause : String)
  deriving DecidableEq, Repr

/-- A server that answers as its script says. -/
structure ScriptedServer where
  link : Link := .up
  faults : List ScriptedFault := []
  status : Status := .idle
  /-- The kinds of the statements that were counted so far. -/
  counted : List String := []
  /-- The INSERT statements that arrived, the latest first. -/
  arrived : List Statement := []
  deriving DecidableEq, Repr

namespace ScriptedServer

/-- The kind of a statement: its first word, after any blanks. -/
def kind (text : String) : String :=
  String.ofList ((text.toList.dropWhile Char.isWhitespace).takeWhile (· ≠ ' '))

/-- What an aborted transaction answers to any statement but its end. -/
def abortedMessage : String :=
  "current transaction is aborted, commands ignored until end of transaction block"

/-- The failure that the script asks for. -/
def fault? (server : ScriptedServer) (kind : String) (number : Nat) : Option String :=
  (server.faults.find? fun fault =>
    fault.kind == kind && (fault.number == 0 || fault.number == number)).map ScriptedFault.message

/-- Whether statements of a kind end a transaction. -/
def endsTransaction (kind : String) : Bool := kind == "COMMIT" || kind == "ROLLBACK"

/-- The status after a statement of a kind that succeeded. -/
def advance (kind : String) (status : Status) : Status :=
  if kind = "BEGIN" then .inTransaction
  else if endsTransaction kind then .idle
  else status

/-- The status after a statement that failed. -/
def spoil : Status → Status
  | .idle => .idle
  | .inTransaction => .aborted
  | .aborted => .aborted

/-- Answers a statement that arrived. -/
def submit (statement : Statement) (server : ScriptedServer) : Answer × ScriptedServer :=
  let kind := kind statement.text
  let server := if kind = "INSERT" then
    { server with arrived := statement :: server.arrived } else server
  if server.status = .aborted ∧ !endsTransaction kind then
    (.error (.reported abortedMessage), server)
  else
    let counted := kind :: server.counted
    match server.fault? kind (counted.count kind) with
    | some message =>
      (.error (.reported message), { server with counted, status := spoil server.status })
    | none => (.ok (), { server with counted, status := advance kind server.status })

/-- Makes a connection: the link must be up and the script must allow it. -/
def connect (server : ScriptedServer) : Answer × ScriptedServer :=
  match server.link with
  | .down cause => (.error (.communication cause), server)
  | .up =>
    match server.faults.find? fun fault => fault.kind == "CONNECT" with
    | some fault => (.error (.reported fault.message), server)
    | none => (.ok (), server)

/-- Submits a statement and is idle afterwards, as the client is done with the transaction. -/
def submitLast (text : String) (server : ScriptedServer) : Answer × ScriptedServer :=
  let answer := server.submit { text }
  (answer.1, { answer.2 with status := .idle })

instance : Server ScriptedServer where
  connect := connect
  begin server :=
    match server.connect with
    | (.error error, server) => (.error error, server)
    | (.ok (), server) => server.submit { text := "BEGIN" }
  execute := submit
  commit := submitLast "COMMIT"
  rollback := submitLast "ROLLBACK"

end ScriptedServer

end Seeding.Postgres
