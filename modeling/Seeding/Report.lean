/-
**Reports of runs.**

A report has one entry per table of the run, in the order in which they were declared: how many rows
were asked for and how the table ended. A run fails when a table was rolled back.
-/
import Seeding.Backend.Error
import Seeding.DeclarationError

namespace Seeding

/-- How a table of a run ended. -/
inductive Outcome where
  /-- All rows were stored. -/
  | committed (rows : Nat)
  /-- No row was stored. The row is the one that failed, if it was a row and not the transaction. -/
  | rolledBack (row : Option Nat) (error : StoreError)
  /-- The table was not tried. -/
  | skipped
  deriving DecidableEq, Repr

namespace Outcome

/-- Whether a table failed. -/
def isFailure : Outcome → Bool
  | .rolledBack _ _ => true
  | _ => false

/-- The number of rows that a table got. -/
def stored : Outcome → Nat
  | .committed rows => rows
  | _ => 0

end Outcome

/-- What became of one table. -/
structure TableResult where
  table : String
  requested : Nat
  outcome : Outcome
  deriving DecidableEq, Repr

/-- What became of the tables of a run, in order. -/
structure Report where
  tables : List TableResult := []
  deriving DecidableEq, Repr

namespace Report

/-- The tables that failed, in order. -/
def failed (report : Report) : List TableResult :=
  report.tables.filter fun table => table.outcome.isFailure

/-- Whether no table failed. -/
def succeeded (report : Report) : Bool := report.failed.isEmpty

/-- The number of rows that the run stored. -/
def stored (report : Report) : Nat :=
  (report.tables.map fun table => table.outcome.stored).foldr (· + ·) 0

/-- The first entry for a table of that name. -/
def find? (report : Report) (name : String) : Option TableResult :=
  report.tables.find? fun table => table.table == name

end Report

/-- Why a run did not succeed. -/
inductive RunError where
  | declaration (error : DeclarationError)
  | unready (error : Unready)
  | tablesFailed (report : Report)
  deriving DecidableEq

/-- The text of a run error. -/
def RunError.message : RunError → String
  | .declaration error => error.message
  | .unready error => error.message
  | .tablesFailed report =>
    s!"{report.failed.length} of {report.tables.length} tables failed"

end Seeding
