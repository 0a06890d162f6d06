/-
**Readiness is settled before the first call.**

A run looks once whether all its plans have their bindings. `Seeder.runPlans` looks again at each
row. A plan without them would end that run there, after its transaction was opened
(`fillPlan_of_unbound`). After the first look it never happens: on plans that are ready each step of
the second form is the step of the first (`Certain`), and the two runs are the same
(`runPlans_eq_run`).

Main statement: `refusals_precede_calls`, for every backend, every session, every sequence of
declarations and every seeder.
-/
import Seeding.Engine.Plans
import Seeding.Proofs.Engine.Tracing
import Seeding.Proofs.Session

namespace Seeding

namespace Engine

/-! ### Steps that never end the run -/

section Certainty

variable {β σ α γ δ : Type}

/-- Steps that may find a plan without bindings do what plain steps do, and never find one. -/
def Certain (asking : StateM (Desk β σ) (Except Unready α)) (plain : StateM (Desk β σ) α) : Prop :=
  ∀ desk, asking desk = (.ok (plain desk).1, (plain desk).2)

theorem certain_pure (value : α) :
    Certain (pure (.ok value) : StateM (Desk β σ) _) (pure value) := fun _ => rfl

/-- After certain steps only the way on counts. -/
theorem Certain.bind {asking : StateM (Desk β σ) (Except Unready α)} {plain : StateM (Desk β σ) α}
    {next : Except Unready α → StateM (Desk β σ) (Except Unready δ)}
    {next' : α → StateM (Desk β σ) δ} (first : Certain asking plain)
    (others : ∀ value, Certain (next (.ok value)) (next' value)) :
    Certain (asking >>= next) (plain >>= next') := by
  intro desk
  rw [State.bind_apply, State.bind_apply, first desk]
  exact others _ _

/-- A step that both take leaves the others to be compared. -/
theorem Certain.after (step : StateM (Desk β σ) γ)
    {next : γ → StateM (Desk β σ) (Except Unready δ)} {next' : γ → StateM (Desk β σ) δ}
    (others : ∀ value, Certain (next value) (next' value)) :
    Certain (step >>= next) (step >>= next') := by
  intro desk
  rw [State.bind_apply, State.bind_apply]
  exact others _ _

end Certainty

theorem abandon_backend {β σ : Type} [Backend β] (table : Table) (desk : Desk β σ) :
    (abandon table desk).2.backend = (Backend.perform .rollback desk.backend).2 := by
  unfold abandon
  rw [State.bind_apply, call_apply]
  cases (Backend.perform .rollback desk.backend).1.result <;> rfl

section Steps

variable {β σ : Type} [WordSource σ]

/-- A plan that is ready draws the records of its job. -/
theorem certain_drawPlan {plan : Plan} {job : Job} (ready : plan.ready = .ok job) :
    Certain (drawPlan plan : StateM (Desk β σ) _) (draw job) := by
  intro desk
  unfold drawPlan Plan.draw
  rw [ready]
  rfl

variable [Backend β]

theorem certain_insertPlanRows (interval : Nat) {plan : Plan} {job : Job}
    (ready : plan.ready = .ok job) (left : Nat) :
    Certain (insertPlanRows interval plan left : StateM (Desk β σ) _)
      (insertRows interval job left) := by
  have drawn : Certain (drawPlan plan : StateM (Desk β σ) _) (draw job) := certain_drawPlan ready
  obtain ⟨bindings, -, rfl⟩ := Plan.ready_eq_ok_iff.mp ready
  induction left with
  | zero => exact certain_pure none
  | succ left ih =>
    rw [insertPlanRows, insertRows]
    refine drawn.bind fun record => Certain.after _ fun result => ?_
    cases result with
    | error error =>
      exact Certain.after _ fun _ => Certain.after _ fun _ => certain_pure _
    | ok _ =>
      by_cases noted : (plan.rows - left) % interval = 0
      · simp only [if_pos noted]
        exact Certain.after _ fun _ => ih
      · simp only [if_neg noted]
        exact ih

theorem certain_fillPlan (interval : Nat) {plan : Plan} {job : Job} (ready : plan.ready = .ok job) :
    Certain (fillPlan interval plan : StateM (Desk β σ) _) (fillTable interval job) := by
  have rows : Certain (insertPlanRows interval plan plan.rows : StateM (Desk β σ) _)
      (insertRows interval job plan.rows) := certain_insertPlanRows interval ready plan.rows
  obtain ⟨bindings, -, rfl⟩ := Plan.ready_eq_ok_iff.mp ready
  unfold fillPlan fillTable
  refine Certain.after _ fun _ => Certain.after _ fun result => ?_
  cases result with
  | error error => exact Certain.after _ fun _ => certain_pure _
  | ok _ =>
    refine rows.bind fun failed => ?_
    cases failed with
    | some failure => exact certain_pure _
    | none => exact fun _ => rfl

/-- **Plans that are ready fill the tables of their jobs**, and none is found without bindings. -/
theorem certain_fillPlans (policy : FailurePolicy) (interval : Nat) (stopped : Bool)
    {plans : List Plan} {jobs : List Job}
    (ready : List.Forall₂ (fun plan job => plan.ready = .ok job) plans jobs) :
    Certain (fillPlans policy interval stopped plans : StateM (Desk β σ) _)
      (fillTables policy interval stopped jobs) := by
  induction ready generalizing stopped with
  | nil => exact certain_pure []
  | @cons plan job plans jobs head _ ih =>
    have filled : Certain (fillPlan interval plan : StateM (Desk β σ) _) (fillTable interval job) :=
      certain_fillPlan interval head
    obtain ⟨bindings, -, rfl⟩ := Plan.ready_eq_ok_iff.mp head
    unfold fillPlans fillTables
    cases stopped with
    | true =>
      simp only [if_true, skipPlan, bind_assoc, pure_bind]
      exact Certain.after _ fun _ => (ih _).bind fun reports => certain_pure _
    | false => exact filled.bind fun outcome => (ih _).bind fun reports => certain_pure _

/-- Running plans that are ready is running their jobs. -/
theorem runPlans_eq_runJobs (policy : FailurePolicy) (interval : Nat) {plans : List Plan}
    {jobs : List Job} (ready : List.Forall₂ (fun plan job => plan.ready = .ok job) plans jobs) :
    (runPlans policy interval plans : StateM (Desk β σ) _) = runJobs policy interval jobs := by
  funext desk
  unfold runPlans runJobs
  rw [ready.length_eq]
  simp only [State.bind_apply, certain_fillPlans policy interval false ready _]

/-- A plan without bindings would be found out at its first row: the run would end, and the
transaction would be rolled back. -/
theorem fillPlan_of_unbound (interval : Nat) {plan : Plan} (unbound : plan.isUnbound = true)
    (desk : Desk β σ) (begun : (Backend.perform .begin desk.backend).1.result = .ok ()) :
    (fillPlan interval plan desk).1 = .error { table := plan.table.name } ∧
      (fillPlan interval plan desk).2.backend =
        Backend.after [.begin, .rollback] desk.backend := by
  obtain ⟨others, rows⟩ : ∃ others, plan.rows = others + 1 :=
    ⟨plan.rows - 1, by have positive := plan.positive; omega⟩
  have unready : plan.ready = .error { table := plan.table.name } :=
    Plan.ready_eq_error_iff.mpr ⟨unbound, rfl⟩
  have drawn (desk : Desk β σ) : drawPlan plan desk = (.error { table := plan.table.name }, desk) := by
    unfold drawPlan Plan.draw
    rw [unready]
    rfl
  have rowsEnd (desk : Desk β σ) : insertPlanRows interval plan plan.rows desk =
      (.error { table := plan.table.name }, (abandon plan.table desk).2) := by
    rw [rows, insertPlanRows, State.bind_apply, drawn]
    rfl
  unfold fillPlan
  rw [State.bind_apply, note_apply, State.bind_apply, call_apply]
  simp only [begun, State.bind_apply, rowsEnd, State.pure_apply, abandon_backend, true_and]
  rfl

end Steps

end Engine

/-! ### Runs -/

variable {β σ : Type} [Backend β] [WordSource σ]

/-- **Asking again changes nothing.** After the first look a run never finds a plan without
bindings, so it makes the same calls and notes and ends in the same way as the run that does not
look again. -/
theorem Seeder.runPlans_eq_run (session : Session) (seeder : Seeder β σ) :
    seeder.runPlans session = seeder.run session := by
  unfold runPlans run
  cases ready : session.jobs with
  | error unready => rfl
  | ok jobs => simp only [Engine.runPlans_eq_runJobs _ _ (Session.jobs_eq_ok_iff.mp ready)]

/-- A session that is not ready leaves the seeder as it was. -/
theorem Seeder.run_of_unready {session : Session} {unready : Unready}
    (refused : session.jobs = .error unready) (seeder : Seeder β σ) :
    seeder.run session = { result := .error (.unready unready), log := [], seeder } := by
  unfold run
  rw [refused]

/-- A sequence of declarations that fails leaves the seeder as it was. -/
theorem Seeder.generate_of_error {declarations : Session → Except DeclarationError Session}
    {error : DeclarationError} (failed : Session.ofDeclarations declarations = .error error)
    (seeder : Seeder β σ) :
    seeder.generate declarations = { result := .error (.declaration error), log := [], seeder } := by
  unfold generate
  rw [failed]

/-- A run of a session that is ready ends with a report, good or bad. -/
theorem Seeder.run_reports {session : Session} {jobs : List Job} (ready : session.jobs = .ok jobs)
    (seeder : Seeder β σ) :
    ∃ report, (seeder.run session).result = .ok report ∨
      (seeder.run session).result = .error (.tablesFailed report) := by
  obtain ⟨attempts, later, -, -, result, -, -⟩ := seeder.run_attempts ready
  refine ⟨{ tables := attempts.map Attempt.result ++ later.map Job.skipped }, ?_⟩
  rw [result, Report.result]
  split
  · exact Or.inl rfl
  · exact Or.inr rfl

/-- How a run ends: a session that is not ready is refused, and any other gets a report. -/
theorem Seeder.run_result_cases (session : Session) (seeder : Seeder β σ) :
    (∃ unready, session.jobs = .error unready ∧
      (seeder.run session).result = .error (.unready unready)) ∨
    ∃ report, (seeder.run session).result = .ok report ∨
      (seeder.run session).result = .error (.tablesFailed report) := by
  cases ready : session.jobs with
  | error unready =>
    refine Or.inl ⟨unready, rfl, ?_⟩
    rw [seeder.run_of_unready ready]
  | ok jobs => exact Or.inr (seeder.run_reports ready)

/-- A run gives the error of an unready session exactly if the session is not ready. -/
theorem Seeder.run_unready_iff (session : Session) (unready : Unready) (seeder : Seeder β σ) :
    (seeder.run session).result = .error (.unready unready) ↔ session.jobs = .error unready := by
  constructor
  · intro refused
    rcases seeder.run_result_cases session with ⟨found, notReady, result⟩ | ⟨report, good | bad⟩
    · rw [result] at refused
      cases refused
      exact notReady
    · rw [good] at refused
      cases refused
    · rw [bad] at refused
      cases refused
  · intro refused
    rw [seeder.run_of_unready refused]

/-- A run never gives the error of a declaration. -/
theorem Seeder.run_ne_declaration (session : Session) (error : DeclarationError)
    (seeder : Seeder β σ) : (seeder.run session).result ≠ .error (.declaration error) := by
  intro refused
  rcases seeder.run_result_cases session with ⟨_, -, result⟩ | ⟨_, result | result⟩
  all_goals
    rw [result] at refused
    cases refused

/-- The error of a declaration is reported exactly if the declarations fail. -/
theorem Seeder.generate_declaration_iff (declarations : Session → Except DeclarationError Session)
    (error : DeclarationError) (seeder : Seeder β σ) :
    (seeder.generate declarations).result = .error (.declaration error) ↔
      Session.ofDeclarations declarations = .error error := by
  constructor
  · intro refused
    cases built : Session.ofDeclarations declarations with
    | error found =>
      rw [seeder.generate_of_error built] at refused
      cases refused
      rfl
    | ok session =>
      unfold generate at refused
      rw [built] at refused
      exact absurd refused (seeder.run_ne_declaration session error)
  · intro failed
    rw [seeder.generate_of_error failed]

/-- **What is refused is refused before the first call.** Whatever the backend, a run reports a session
as not ready exactly if one of its plans has no bindings; the error names the first such plan. A
sequence of declarations is reported exactly if it fails. Either way no call was made, and the
backend, the source and all else of the seeder are as before. A run that has made a call ends with a
report; to ask for the bindings again at each row, after a begin, would change nothing in it. -/
theorem refusals_precede_calls (session : Session)
    (declarations : Session → Except DeclarationError Session) (seeder : Seeder β σ) :
    ((∃ unready, (seeder.run session).result = .error (.unready unready)) ↔
      ∃ plan ∈ session.plans, plan.bindings = none) ∧
    (∀ unready, (seeder.run session).result = .error (.unready unready) →
      (∃ plan, session.plans.find? Plan.isUnbound = some plan ∧ unready.table = plan.table.name) ∧
      (seeder.run session).seeder = seeder ∧
      (seeder.traced.run session).seeder.backend.trace = []) ∧
    (∀ error, (seeder.generate declarations).result = .error (.declaration error) ↔
      Session.ofDeclarations declarations = .error error) ∧
    (∀ error, (seeder.generate declarations).result = .error (.declaration error) →
      (seeder.generate declarations).seeder = seeder ∧
      (seeder.traced.generate declarations).seeder.backend.trace = []) ∧
    ((seeder.traced.run session).seeder.backend.trace ≠ [] →
      ∃ report, (seeder.run session).result = .ok report ∨
        (seeder.run session).result = .error (.tablesFailed report)) ∧
    seeder.runPlans session = seeder.run session := by
  refine ⟨?_, fun unready refused => ?_, fun error => seeder.generate_declaration_iff _ error,
    fun error refused => ?_, fun called => ?_, seeder.runPlans_eq_run session⟩
  · simp only [Seeder.run_unready_iff]
    exact session.unready_iff
  · have notReady := (seeder.run_unready_iff session unready).mp refused
    obtain ⟨plan, first, rfl⟩ := Session.jobs_eq_error_iff.mp notReady
    refine ⟨⟨plan, first, rfl⟩, ?_, ?_⟩
    · rw [seeder.run_of_unready notReady]
    · rw [seeder.traced.run_of_unready notReady]
      rfl
  · have failed := (seeder.generate_declaration_iff declarations error).mp refused
    refine ⟨?_, ?_⟩
    · rw [seeder.generate_of_error failed]
    · rw [seeder.traced.generate_of_error failed]
      rfl
  · cases ready : session.jobs with
    | ok jobs => exact seeder.run_reports ready
    | error unready =>
      rw [seeder.traced.run_of_unready ready] at called
      exact absurd rfl called

end Seeding
