/-
**Backends.**

A backend is whatever rows are stored in: a state that answers four calls. Rows are inserted inside
a transaction, which `begin` opens and `commit` or `rollback` closes. Nothing else is known of a
backend; any call may fail for reasons of its own.
-/
import Seeding.Log
import Seeding.Record
import Seeding.Table

namespace Seeding

/-- A call to a backend. -/
inductive Call where
  | begin
  | insert (table : Table) (record : Record)
  | commit
  | rollback
  deriving DecidableEq

/-- A backend's answer to a call: whether it succeeded, and what it noted. -/
structure Reply where
  result : Except StoreError Unit
  log : List Event := []

/-- A state that answers calls. -/
class Backend (β : Type) where
  /-- Answers one call. -/
  perform : Call → β → Reply × β

end Seeding
