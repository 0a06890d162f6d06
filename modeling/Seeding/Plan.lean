/-
**Plans for tables.**

A plan says how many rows a table gets and which bindings fill them. The number of rows is never
zero. Bindings are accepted once and as a whole: every column must be the table's own, none may be
bound twice and every required column must be bound (`Bindings.fault?` gives the first objection).
A plan with bindings is ready and gives a `Job`.
-/
import Seeding.Binding

namespace Seeding

/-- Whether a column is the one that its name means in the table. -/
def Table.owns (table : Table) (column : Column) : Bool :=
  column.table == table.name && table.column? column.name == some column

namespace Bindings

/-- The first binding that is foreign to the table or repeats a name that is bound already. -/
def misplaced? (table : Table) : (bound : List String) → List Binding → Option DeclarationError
  | _, [] => none
  | bound, binding :: rest =>
    let column := binding.column
    if !table.owns column then some (.foreignColumn table.name column.table column.name)
    else if column.name ∈ bound then some (.boundTwice table.name column.name)
    else misplaced? table (column.name :: bound) rest

/-- The first required column that no binding fills. -/
def uncovered? (table : Table) (bindings : List Binding) : Option Column :=
  table.required.find? fun column =>
    !(bindings.map fun binding => binding.column.name).contains column.name

/-- The objection to a list of bindings for a table, if there is one. -/
def fault? (table : Table) (bindings : List Binding) : Option DeclarationError :=
  match misplaced? table [] bindings with
  | some error => some error
  | none => (uncovered? table bindings).map fun column => .requiredUnbound table.name column.name

end Bindings

/-- Bindings that fill the rows of a table. -/
structure Bindings (table : Table) where
  list : List Binding
  sound : Bindings.fault? table list = none

namespace Bindings

/-- Accepts a list of bindings for a table, or gives the objection to it. -/
def ofList (table : Table) (list : List Binding) : Except DeclarationError (Bindings table) :=
  match sound : fault? table list with
  | none => .ok { list, sound }
  | some error => .error error

/-- Draws the next record. -/
def draw {σ : Type} [WordSource σ] {table : Table} (bindings : Bindings table) : StateM σ Record :=
  Binding.fill bindings.list Record.empty

end Bindings

/-- A table with the number of rows it gets and the bindings that fill them. -/
structure Job where
  table : Table
  rows : Nat
  positive : 0 < rows
  bindings : Bindings table

/-- What is declared for a table so far. -/
structure Plan where
  table : Table
  rows : Nat
  positive : 0 < rows
  bindings : Option (Bindings table)

namespace Plan

/-- The number of rows where none is declared. -/
def usualRows : Nat := 50

/-- The plan for a table before anything is declared. -/
def new (table : Table) : Plan where
  table
  rows := usualRows
  positive := by decide
  bindings := none

/-- Declares the number of rows. -/
def setRows (rows : Nat) (plan : Plan) : Except DeclarationError Plan :=
  if positive : 0 < rows then .ok { plan with rows, positive }
  else .error (.noRows plan.table.name)

/-- Declares the bindings. -/
def bind (list : List Binding) (plan : Plan) : Except DeclarationError Plan :=
  if plan.bindings.isSome then .error (.generatorsAlreadySet plan.table.name)
  else do
    let bindings ← Bindings.ofList plan.table list
    pure { plan with bindings := some bindings }

/-- The job of a plan that has its bindings. -/
def ready (plan : Plan) : Except Unready Job :=
  match plan.bindings with
  | none => .error { table := plan.table.name }
  | some bindings =>
    .ok { table := plan.table, rows := plan.rows, positive := plan.positive, bindings }

/-- The bindings of a plan that has them. -/
def bound (plan : Plan) : Except Unready (List Binding) :=
  plan.ready.map fun job => job.bindings.list

/-- Draws a record of a plan that has its bindings; a plan without them draws nothing. -/
def draw {σ : Type} [WordSource σ] (plan : Plan) : StateM σ (Except Unready Record) :=
  match plan.ready with
  | .error unready => pure (.error unready)
  | .ok job => .ok <$> job.bindings.draw

/-- A declaration for the table of a plan. -/
inductive Step where
  | rows (count : Nat)
  | bind (list : List Binding)

/-- Makes one declaration. -/
def declare (plan : Plan) : Step → Except DeclarationError Plan
  | .rows count => plan.setRows count
  | .bind list => plan.bind list

/-- Tries one declaration: its answer, and the plan after it, which is unchanged by a refusal. -/
def attempt (plan : Plan) (step : Step) : Except DeclarationError Unit × Plan :=
  match plan.declare step with
  | .ok changed => (.ok (), changed)
  | .error error => (.error error, plan)

end Plan

end Seeding
