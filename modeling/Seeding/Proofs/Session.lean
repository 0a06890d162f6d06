/-
**Which sessions are ready.**

A session is ready if each of its plans has its bindings, and then it has one job per plan, in the
same order and with the same table and number of rows (`jobs_eq_ok_iff`, `jobs_entries`). Otherwise
the first plan without bindings is reported (`jobs_eq_error_iff`).
-/
import Mathlib.Data.List.Forall2
import Seeding.Session

namespace Seeding

namespace Plan

/-- Whether nothing was bound yet. -/
def isUnbound (plan : Plan) : Bool := plan.bindings.isNone

theorem ready_eq_error_iff {plan : Plan} {unready : Unready} :
    plan.ready = .error unready ↔ plan.isUnbound = true ∧ unready = { table := plan.table.name } := by
  unfold ready isUnbound
  cases plan.bindings with
  | none => simp [eq_comm]
  | some bindings => simp

theorem ready_eq_ok_iff {plan : Plan} {job : Job} :
    plan.ready = .ok job ↔
      ∃ bindings, plan.bindings = some bindings ∧
        job = { table := plan.table, rows := plan.rows, positive := plan.positive, bindings } := by
  unfold ready
  cases plan.bindings with
  | none => simp
  | some bindings => simp [eq_comm]

/-- The job of a plan fills the plan's table with its number of rows. -/
theorem entry_of_ready {plan : Plan} {job : Job} (ready : plan.ready = .ok job) :
    job.table = plan.table ∧ job.rows = plan.rows := by
  obtain ⟨bindings, -, rfl⟩ := ready_eq_ok_iff.mp ready
  exact ⟨rfl, rfl⟩

end Plan

namespace Session

/-- A list of plans has its jobs if the first plan has its job and the others have theirs. -/
theorem mapM_ready_cons (plan : Plan) (rest : List Plan) :
    (plan :: rest).mapM Plan.ready =
      match plan.ready, rest.mapM Plan.ready with
      | .error unready, _ => .error unready
      | .ok _, .error unready => .error unready
      | .ok job, .ok jobs => .ok (job :: jobs) := by
  rw [List.mapM_cons]
  cases plan.ready with
  | error unready => rfl
  | ok job => cases rest.mapM Plan.ready <;> rfl

/-- A session that is ready has the job of each of its plans. -/
theorem jobs_eq_ok_iff {session : Session} {jobs : List Job} :
    session.jobs = .ok jobs ↔
      List.Forall₂ (fun plan job => plan.ready = .ok job) session.plans jobs := by
  unfold Session.jobs
  induction session.plans generalizing jobs with
  | nil => cases jobs <;> simp [pure, Except.pure]
  | cons plan rest ih =>
    rw [mapM_ready_cons]
    cases head : plan.ready with
    | error unready => cases jobs <;> simp [head]
    | ok job =>
      cases tail : rest.mapM Plan.ready with
      | error unready =>
        cases jobs with
        | nil => simp
        | cons first others => simp [head, ← ih, tail]
      | ok found =>
        cases jobs with
        | nil => simp
        | cons first others => simp [head, ← ih, tail]

/-- A session that is not ready reports the first of its plans without bindings. -/
theorem jobs_eq_error_iff {session : Session} {unready : Unready} :
    session.jobs = .error unready ↔
      ∃ plan, session.plans.find? Plan.isUnbound = some plan ∧
        unready = { table := plan.table.name } := by
  unfold Session.jobs
  induction session.plans with
  | nil => simp [pure, Except.pure]
  | cons plan rest ih =>
    rw [mapM_ready_cons]
    cases head : plan.ready with
    | error found =>
      obtain ⟨unbound, rfl⟩ := Plan.ready_eq_error_iff.mp head
      simp [List.find?_cons_of_pos unbound, eq_comm]
    | ok job =>
      have bound : ¬ plan.isUnbound = true := fun unbound => by
        rw [Plan.ready_eq_error_iff.mpr ⟨unbound, rfl⟩] at head
        cases head
      rw [List.find?_cons_of_neg bound, ← ih]
      cases rest.mapM Plan.ready <;> simp

/-- A session is not ready if one of its plans has no bindings. -/
theorem unready_iff (session : Session) :
    (∃ unready, session.jobs = .error unready) ↔ ∃ plan ∈ session.plans, plan.bindings = none := by
  have found : (∃ plan ∈ session.plans, plan.bindings = none) ↔
      (session.plans.find? Plan.isUnbound).isSome = true := by
    simp [List.find?_isSome, Plan.isUnbound]
  simp only [jobs_eq_error_iff]
  rw [found, Option.isSome_iff_exists]
  exact ⟨fun ⟨_, plan, first, _⟩ => ⟨plan, first⟩, fun ⟨plan, first⟩ => ⟨_, plan, first, rfl⟩⟩

/-- The jobs of a session fill the tables of its plans in order, with their numbers of rows. -/
theorem jobs_entries {session : Session} {jobs : List Job} (ready : session.jobs = .ok jobs) :
    jobs.map (fun job => (job.table.name, job.rows)) =
      session.plans.map fun plan => (plan.table.name, plan.rows) := by
  have each := jobs_eq_ok_iff.mp ready
  clear ready
  generalize session.plans = plans at each
  induction each with
  | nil => rfl
  | cons head _ ih =>
    obtain ⟨table, rows⟩ := Plan.entry_of_ready head
    rw [List.map_cons, List.map_cons, ih, table, rows]

end Session

end Seeding
