/-
**Running a session.**

A seeder owns a backend and a source of random words and fills the tables of a session one after
the other, each in one transaction. A row that fails ends its table with a rollback; a transaction
that cannot be opened or committed ends its table without one. What happens to the tables after a
failed one is up to the policy. A session with a plan that is not ready is refused before the first
call.
-/
import Seeding.Backend
import Seeding.Policy
import Seeding.Report
import Seeding.Session

namespace Seeding

/-- A backend with the means to fill it. -/
structure Seeder (β σ : Type) where
  backend : β
  source : σ
  policy : FailurePolicy := .collectAll
  /-- Progress is noted after every so many rows. -/
  interval : Nat := 50
  positive : 0 < interval := by decide

namespace Seeder

/-- The seeder with another policy. -/
def withPolicy {β σ : Type} (policy : FailurePolicy) (seeder : Seeder β σ) : Seeder β σ :=
  { seeder with policy }

/-- The seeder with another interval between notes of progress; zero counts as one. -/
def withInterval {β σ : Type} (interval : Nat) (seeder : Seeder β σ) : Seeder β σ :=
  { seeder with interval := max interval 1, positive := Nat.le_max_right _ _ }

end Seeder

namespace Engine

/-- What a run works on: the backend, the source, and the log so far. -/
structure Desk (β σ : Type) where
  backend : β
  source : σ
  log : Array Event := #[]

variable {β σ : Type} [Backend β] [WordSource σ]

/-- Notes an event. -/
def note (event : RunEvent) : StateM (Desk β σ) Unit :=
  modify fun desk => { desk with log := desk.log.push (.run event) }

/-- Makes a call to the backend. -/
def call (request : Call) : StateM (Desk β σ) (Except StoreError Unit) := fun desk =>
  let answer := Backend.perform request desk.backend
  (answer.1.result,
    { desk with backend := answer.2, log := desk.log ++ answer.1.log })

/-- Draws the next record of a job. -/
def draw (job : Job) : StateM (Desk β σ) Record := fun desk =>
  let drawn := job.bindings.draw desk.source
  (drawn.1, { desk with source := drawn.2 })

/-- Rolls a table back. A rollback that fails is only noted. -/
def abandon (table : Table) : StateM (Desk β σ) Unit := do
  match ← call .rollback with
  | .ok () => pure ()
  | .error error => note (.rollbackFailed table.name error)

/-- Inserts the last `left` rows of a job; gives the row that failed, with its error. -/
def insertRows (interval : Nat) (job : Job) :
    (left : Nat) → StateM (Desk β σ) (Option (Nat × StoreError))
  | 0 => pure none
  | left + 1 => do
    let row := job.rows - left
    let record ← draw job
    match ← call (.insert job.table record) with
    | .error error =>
      note (.rowFailed row job.rows job.table.name error)
      abandon job.table
      return some (row, error)
    | .ok () =>
      if row % interval = 0 then note (.progress row job.rows job.table.name)
      insertRows interval job left

/-- Commits so many rows of a table. -/
def commit (table : Table) (rows : Nat) : StateM (Desk β σ) Outcome := do
  match ← call .commit with
  | .error error =>
    note (.commitFailed table.name error)
    return .rolledBack none error
  | .ok () =>
    note (.tableDone rows table.name)
    return .committed rows

/-- Fills one table in a transaction of its own. -/
def fillTable (interval : Nat) (job : Job) : StateM (Desk β σ) Outcome := do
  note (.tableStarted job.rows job.table.name)
  match ← call .begin with
  | .error error =>
    note (.beginFailed job.table.name error)
    return .rolledBack none error
  | .ok () =>
    match ← insertRows interval job job.rows with
    | some (row, error) => return .rolledBack (some row) error
    | none => commit job.table job.rows

/-- Whether a policy skips the tables after one that ended so. -/
def stopsAfter (policy : FailurePolicy) (outcome : Outcome) : Bool :=
  outcome.isFailure && policy == .stopOnFirst

/-- Fills the tables of a list of jobs in order, or skips them once the run has stopped. -/
def fillTables (policy : FailurePolicy) (interval : Nat) :
    (stopped : Bool) → List Job → StateM (Desk β σ) (List TableResult)
  | _, [] => pure []
  | stopped, job :: rest => do
    let outcome ←
      if stopped then
        note (.skipped job.table.name)
        pure .skipped
      else fillTable interval job
    let reports ← fillTables policy interval (stopped || stopsAfter policy outcome) rest
    return { table := job.table.name, requested := job.rows, outcome } :: reports

/-- Notes how a run ended and gives its result. -/
def conclude (report : Report) : StateM (Desk β σ) (Except RunError Report) := do
  if report.succeeded then
    note (.done report.stored report.tables.length)
    return .ok report
  else
    report.failed.forM fun table => note (.notSeeded table.table)
    return .error (.tablesFailed report)

/-- Runs a list of jobs. -/
def runJobs (policy : FailurePolicy) (interval : Nat) (jobs : List Job) :
    StateM (Desk β σ) (Except RunError Report) := do
  note (.started jobs.length)
  let tables ← fillTables policy interval false jobs
  conclude { tables }

end Engine

/-- The result of a run, what was noted, and the seeder after it. -/
structure Run (β σ : Type) where
  result : Except RunError Report
  log : List Event
  seeder : Seeder β σ

namespace Seeder

variable {β σ : Type} [Backend β] [WordSource σ]

/-- Runs a session. -/
def run (session : Session) (seeder : Seeder β σ) : Run β σ :=
  match session.jobs with
  | .error unready => { result := .error (.unready unready), log := [], seeder }
  | .ok jobs =>
    let finished := Engine.runJobs seeder.policy seeder.interval jobs
      { backend := seeder.backend, source := seeder.source }
    { result := finished.1
      log := finished.2.log.toList
      seeder := { seeder with backend := finished.2.backend, source := finished.2.source } }

/-- Builds a session and runs it. -/
def generate (declarations : Session → Except DeclarationError Session) (seeder : Seeder β σ) :
    Run β σ :=
  match Session.ofDeclarations declarations with
  | .error error => { result := .error (.declaration error), log := [], seeder }
  | .ok session => seeder.run session

end Seeder

end Seeding
