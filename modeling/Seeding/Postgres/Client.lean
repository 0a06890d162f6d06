/-
**The backend on a PostgreSQL server.**

A client remembers whether it has a transaction and refuses the calls that do not fit before they
reach the server. A begin that fails leaves no transaction; a commit or a rollback ends it, whatever
the server answers.
-/
import Seeding.Backend
import Seeding.Postgres.Server

namespace Seeding.Postgres

/-- A server with the state of its client. -/
structure Client (ς : Type) where
  server : ς
  inTransaction : Bool := false

namespace Client

variable {ς : Type} [Server ς]

/-- A reply to a call that sent a statement. -/
def sent (statement : String) (answer : Answer) : Reply where
  result := answer.mapError .database
  log := [.store (.sending statement)]

/-- Opens a transaction. -/
def begin (client : Client ς) : Reply × Client ς :=
  if client.inTransaction then ({ result := .error .transactionAlreadyOpen }, client)
  else
    let answer := Server.begin client.server
    (sent "BEGIN" answer.1, { server := answer.2, inTransaction := answer.1.toBool })

/-- Sends a record. -/
def insert (table : Table) (record : Record) (client : Client ς) : Reply × Client ς :=
  if client.inTransaction then
    let statement := insertStatement table record
    let answer := Server.execute statement client.server
    (sent statement.text answer.1, { client with server := answer.2 })
  else ({ result := .error .noTransaction }, client)

/-- Ends the transaction and keeps its rows. -/
def commit (client : Client ς) : Reply × Client ς :=
  if client.inTransaction then
    let answer := Server.commit client.server
    (sent "COMMIT" answer.1, { server := answer.2, inTransaction := false })
  else ({ result := .error .noTransaction }, client)

/-- Ends the transaction and drops its rows. -/
def rollback (client : Client ς) : Reply × Client ς :=
  if client.inTransaction then
    let answer := Server.rollback client.server
    (sent "ROLLBACK" answer.1, { server := answer.2, inTransaction := false })
  else ({ result := .error .noTransaction }, client)

instance : Backend (Client ς) where
  perform
    | .begin, client => client.begin
    | .insert table record, client => client.insert table record
    | .commit, client => client.commit
    | .rollback, client => client.rollback

end Client

end Seeding.Postgres
