/-
**Running the plans of a session.**

This form of a run keeps to the plans of its session and asks for the bindings of a plan at each
row. If there are none, it rolls the table back and ends the whole run. A session with such a plan
is refused before the first call, as by any run, so the second look finds nothing
(`Seeder.runPlans_eq_run`).
-/
import Seeding.Engine

namespace Seeding

namespace Engine

variable {β σ : Type} [Backend β] [WordSource σ]

/-- Draws the next record of a plan, if it has its bindings. -/
def drawPlan (plan : Plan) : StateM (Desk β σ) (Except Unready Record) := fun desk =>
  let drawn := plan.draw desk.source
  (drawn.1, { desk with source := drawn.2 })

/-- Inserts the last `left` rows of a plan; gives the row that failed, with its error, unless the
plan has no bindings. -/
def insertPlanRows (interval : Nat) (plan : Plan) :
    (left : Nat) → StateM (Desk β σ) (Except Unready (Option (Nat × StoreError)))
  | 0 => pure (.ok none)
  | left + 1 => do
    let row := plan.rows - left
    match ← drawPlan plan with
    | .error unready =>
      abandon plan.table
      return .error unready
    | .ok record =>
      match ← call (.insert plan.table record) with
      | .error error =>
        note (.rowFailed row plan.rows plan.table.name error)
        abandon plan.table
        return .ok (some (row, error))
      | .ok () =>
        if row % interval = 0 then note (.progress row plan.rows plan.table.name)
        insertPlanRows interval plan left

/-- Fills the table of a plan in a transaction of its own, unless the plan has no bindings. -/
def fillPlan (interval : Nat) (plan : Plan) : StateM (Desk β σ) (Except Unready Outcome) := do
  note (.tableStarted plan.rows plan.table.name)
  match ← call .begin with
  | .error error =>
    note (.beginFailed plan.table.name error)
    return .ok (.rolledBack none error)
  | .ok () =>
    match ← insertPlanRows interval plan plan.rows with
    | .error unready => return .error unready
    | .ok (some (row, error)) => return .ok (.rolledBack (some row) error)
    | .ok none =>
      let outcome ← commit plan.table plan.rows
      return .ok outcome

/-- Notes that the table of a plan is skipped. -/
def skipPlan (plan : Plan) : StateM (Desk β σ) (Except Unready Outcome) := do
  note (.skipped plan.table.name)
  return .ok .skipped

/-- Fills the tables of plans in order, or skips them once the run has stopped. A plan without
bindings ends the whole run. -/
def fillPlans (policy : FailurePolicy) (interval : Nat) :
    (stopped : Bool) → List Plan → StateM (Desk β σ) (Except Unready (List TableResult))
  | _, [] => pure (.ok [])
  | stopped, plan :: rest => do
    match ← if stopped then skipPlan plan else fillPlan interval plan with
    | .error unready => return .error unready
    | .ok outcome =>
      match ← fillPlans policy interval (stopped || stopsAfter policy outcome) rest with
      | .error unready => return .error unready
      | .ok reports =>
        return .ok ({ table := plan.table.name, requested := plan.rows, outcome } :: reports)

/-- Runs a list of plans. -/
def runPlans (policy : FailurePolicy) (interval : Nat) (plans : List Plan) :
    StateM (Desk β σ) (Except RunError Report) := do
  note (.started plans.length)
  match ← fillPlans policy interval false plans with
  | .error unready => return .error (.unready unready)
  | .ok tables => conclude { tables }

end Engine

/-- Runs the plans of a session that is ready, and asks for the bindings again at each row. -/
def Seeder.runPlans {β σ : Type} [Backend β] [WordSource σ] (session : Session)
    (seeder : Seeder β σ) : Run β σ :=
  match session.jobs with
  | .error unready => { result := .error (.unready unready), log := [], seeder }
  | .ok _ =>
    let finished := Engine.runPlans seeder.policy seeder.interval session.plans
      { backend := seeder.backend, source := seeder.source }
    { result := finished.1
      log := finished.2.log.toList
      seeder := { seeder with backend := finished.2.backend, source := finished.2.source } }

end Seeding
