/-
**Sessions.**

A session collects the plans of a run in the order in which they were declared. A declaration whose
configuration fails leaves no plan behind; two declarations for one table are two plans.
-/
import Seeding.Plan

namespace Seeding

/-- The plans declared so far. -/
structure Session where
  plans : List Plan := []

namespace Session

/-- Declares a table: a new plan goes through `configure` and joins the session at its end. -/
def declare (table : Table) (configure : Plan → Except DeclarationError Plan) (session : Session) :
    Except DeclarationError Session := do
  let plan ← configure (Plan.new table)
  pure { plans := session.plans ++ [plan] }

/-- The session that a sequence of declarations builds from nothing. -/
def ofDeclarations (declarations : Session → Except DeclarationError Session) :
    Except DeclarationError Session :=
  declarations {}

/-- The jobs of a session, if every plan has its bindings; else the first plan that has none. -/
def jobs (session : Session) : Except Unready (List Job) := session.plans.mapM Plan.ready

end Session

end Seeding
