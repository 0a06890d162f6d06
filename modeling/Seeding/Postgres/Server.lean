/-
**PostgreSQL servers.**

A server is a state that answers statements. Nothing is known of its answers: any statement may
succeed or fail.
-/
import Seeding.Backend.Error
import Seeding.Postgres.Statement

namespace Seeding.Postgres

/-- The result of a statement. -/
abbrev Answer := Except DatabaseError Unit

/-- A state that answers the statements of one client. -/
class Server (ς : Type) where
  /-- Makes sure that there is a connection. -/
  connect : ς → Answer × ς
  /-- Opens a transaction. -/
  begin : ς → Answer × ς
  /-- Executes a statement, inside the transaction if one is open. -/
  execute : Statement → ς → Answer × ς
  /-- Ends the transaction and keeps its rows. -/
  commit : ς → Answer × ς
  /-- Ends the transaction and drops its rows. -/
  rollback : ς → Answer × ς

end Seeding.Postgres
