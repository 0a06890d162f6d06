/-
**The report of a run.**

A report has one entry per plan. Which outcomes can stand beside each other depends on the policy: a
run that goes on after failures skips nothing; one that stops at them has committed tables, at most
one failed table after these, and only skipped tables after that (`Report.Shaped`).

Main statement: `run_report`, for every backend, every session that is ready, every policy and every
state of the source.
-/
import Mathlib
import Seeding.Proofs.Engine.Run
import Seeding.Proofs.Plan.Rows
import Seeding.Proofs.Session

namespace Seeding

/-! ### Outcomes -/

theorem Outcome.isFailure_eq_true_iff {outcome : Outcome} :
    outcome.isFailure = true ↔ ∃ row error, outcome = .rolledBack row error := by
  cases outcome <;> simp [isFailure]

section Attempts

variable {σ : Type} {policy : FailurePolicy}

/-- An attempt that does not fail stores all rows of its job. -/
theorem Attempt.outcome_of_success {attempt : Attempt σ}
    (success : attempt.outcome.isFailure = false) : attempt.outcome = .committed attempt.job.rows := by
  obtain ⟨job, source, ending⟩ := attempt
  cases ending with
  | committed => rfl
  | _ => cases success

theorem Attempt.rows_of_committed {attempt : Attempt σ} {rows : Nat}
    (committed : attempt.outcome = .committed rows) : rows = attempt.job.rows := by
  have success : attempt.outcome.isFailure = false := by
    rw [committed]
    rfl
  rw [attempt.outcome_of_success success] at committed
  exact (Outcome.committed.inj committed).symm

theorem Attempt.outcome_ne_skipped (attempt : Attempt σ) : attempt.outcome ≠ .skipped := by
  obtain ⟨job, source, ending⟩ := attempt
  cases ending <;> simp [outcome]

/-- A run that goes on after failures skips no job. -/
theorem Halting.later_eq_nil {attempts : List (Attempt σ)} {later : List Job}
    (halting : Halting policy attempts later) (goesOn : policy = .collectAll) : later = [] := by
  by_contra skips
  have stops := (halting.stopped skips).1
  rw [goesOn] at stops
  cases stops

/-- A run without failures skips no job. -/
theorem Halting.later_eq_nil_of_success {attempts : List (Attempt σ)} {later : List Job}
    (halting : Halting policy attempts later)
    (success : ∀ attempt ∈ attempts, attempt.outcome.isFailure = false) : later = [] := by
  by_contra skips
  obtain ⟨-, last, here, failed⟩ := halting.stopped skips
  rw [success last (List.mem_of_getLast? here)] at failed
  cases failed

/-- A run that stops at failures has none, or one and that at its end. -/
theorem Halting.stopped_cases {attempts : List (Attempt σ)} {later : List Job}
    (halting : Halting policy attempts later) (stops : policy = .stopOnFirst) :
    (∀ attempt ∈ attempts, attempt.outcome.isFailure = false) ∧ later = [] ∨
      ∃ before failed, attempts = before ++ [failed] ∧
        (∀ attempt ∈ before, attempt.outcome.isFailure = false) ∧
        failed.outcome.isFailure = true := by
  rcases List.eq_nil_or_concat attempts with rfl | ⟨before, final, rfl⟩
  · refine Or.inl ⟨fun _ member => absurd member List.not_mem_nil, ?_⟩
    by_contra skips
    obtain ⟨-, _, none, -⟩ := halting.stopped skips
    cases none
  · have earlier := halting.continued stops
    rw [List.concat_eq_append, List.dropLast_concat] at earlier
    cases ended : final.outcome.isFailure with
    | true => exact Or.inr ⟨before, final, List.concat_eq_append, earlier, ended⟩
    | false =>
      refine Or.inl ⟨fun attempt member => ?_, ?_⟩
      · rw [List.concat_eq_append, List.mem_append, List.mem_singleton] at member
        rcases member with inside | rfl
        · exact earlier attempt inside
        · exact ended
      · by_contra skips
        obtain ⟨-, last, here, failed⟩ := halting.stopped skips
        rw [List.concat_eq_append, List.getLast?_concat] at here
        obtain rfl : final = last := Option.some.inj here
        rw [ended] at failed
        cases failed

end Attempts

/-! ### Reports -/

/-- Whether a table was filled as it was asked for. -/
def TableResult.isComplete (entry : TableResult) : Bool :=
  entry.outcome = .committed entry.requested

theorem TableResult.isComplete_iff {entry : TableResult} :
    entry.isComplete = true ↔ entry.outcome = .committed entry.requested := by
  simp [isComplete]

/-- How the report of a run looks under a policy. -/
structure Report.Shaped (policy : FailurePolicy) (plans : List Plan) (report : Report) : Prop where
  /-- There is one entry for each plan, in order, with its table and its number of rows. -/
  entries : report.tables.map (fun entry => (entry.table, entry.requested)) =
    plans.map fun plan => (plan.table.name, plan.rows)
  /-- A table that is committed has all its rows. -/
  full : ∀ entry ∈ report.tables, ∀ rows, entry.outcome = .committed rows → rows = entry.requested
  /-- A run that goes on after failures skips no table. -/
  collected : policy = .collectAll → ∀ entry ∈ report.tables, entry.outcome ≠ .skipped
  /-- A run that stops at failures commits tables until one fails, and then skips the others. -/
  stopped : policy = .stopOnFirst →
    (∀ entry ∈ report.tables, entry.outcome = .committed entry.requested) ∨
      ∃ before failed after, report.tables = before ++ failed :: after ∧
        (∀ entry ∈ before, entry.outcome = .committed entry.requested) ∧
        (∃ row error, failed.outcome = .rolledBack row error) ∧
        ∀ entry ∈ after, entry.outcome = .skipped
  /-- The rows that were stored are those that were asked for in the committed tables. -/
  stored : report.stored =
    ((report.tables.filter TableResult.isComplete).map TableResult.requested).sum

namespace Report

/-- Tables that are committed only with all their rows store just these. -/
theorem stored_of_full (tables : List TableResult)
    (full : ∀ entry ∈ tables, ∀ rows, entry.outcome = .committed rows → rows = entry.requested) :
    (Report.mk tables).stored =
      ((tables.filter TableResult.isComplete).map TableResult.requested).sum := by
  induction tables with
  | nil => rfl
  | cons entry rest ih =>
    obtain ⟨here, others⟩ := List.forall_mem_cons.mp full
    have sum : (Report.mk (entry :: rest)).stored =
        entry.outcome.stored + (Report.mk rest).stored := rfl
    rw [sum, ih others]
    cases outcome : entry.outcome with
    | committed rows =>
      have same : rows = entry.requested := here rows outcome
      have complete : entry.isComplete = true := by
        rw [TableResult.isComplete_iff, outcome, same]
      rw [List.filter_cons_of_pos complete, List.map_cons, List.sum_cons, ← same]
      rfl
    | _ =>
      have incomplete : ¬ entry.isComplete = true := by simp [TableResult.isComplete_iff, outcome]
      rw [List.filter_cons_of_neg incomplete, Outcome.stored, Nat.zero_add]
      all_goals simp

/-- A report fails if one of its tables was rolled back. -/
theorem succeeded_eq_true_iff {report : Report} :
    report.succeeded = true ↔ ∀ entry ∈ report.tables, entry.outcome.isFailure = false := by
  simp [succeeded, failed, List.filter_eq_nil_iff]

theorem result_eq_ok_iff {report : Report} :
    report.result = .ok report ↔ ∀ entry ∈ report.tables, entry.outcome.isFailure = false := by
  rw [← succeeded_eq_true_iff, result]
  by_cases success : report.succeeded = true
  · simp [success]
  · simp [success]

/-- The result of a run tells its report. -/
theorem result_inj {report report' : Report} (same : report.result = report'.result) :
    report = report' := by
  unfold result at same
  split at same <;> split at same <;> cases same <;> rfl

/-- A run succeeds if no table was rolled back. -/
theorem exists_result_eq_ok_iff {report : Report} :
    (∃ found, report.result = .ok found) ↔
      ∀ entry ∈ report.tables, entry.outcome.isFailure = false := by
  rw [← result_eq_ok_iff]
  refine ⟨fun ⟨found, succeeded⟩ => ?_, fun succeeded => ⟨report, succeeded⟩⟩
  rw [result] at succeeded ⊢
  split at succeeded
  · rename_i success
    rw [if_pos success]
  · cases succeeded

theorem result_eq_error_iff {report : Report} :
    report.result = .error (.tablesFailed report) ↔
      ∃ entry ∈ report.tables, entry.outcome.isFailure = true := by
  have fails : (∃ entry ∈ report.tables, entry.outcome.isFailure = true) ↔
      ¬ report.succeeded = true := by
    rw [succeeded_eq_true_iff]
    simp
  rw [fails, result]
  by_cases success : report.succeeded = true
  · simp [success]
  · simp [success]

/-- A run that stops at failures has at most one. -/
theorem Shaped.failed_length {policy : FailurePolicy} {plans : List Plan} {report : Report}
    (shaped : report.Shaped policy plans) (stops : policy = .stopOnFirst)
    (fails : ∃ entry ∈ report.tables, entry.outcome.isFailure = true) :
    report.failed.length = 1 := by
  rcases shaped.stopped stops with complete | ⟨before, failed, after, split, earlier, failure, skips⟩
  · obtain ⟨entry, member, failure⟩ := fails
    rw [complete entry member] at failure
    cases failure
  · have none : before.filter (fun entry => entry.outcome.isFailure) = [] :=
      List.filter_eq_nil_iff.mpr fun entry member => by simp [earlier entry member, Outcome.isFailure]
    have last : after.filter (fun entry => entry.outcome.isFailure) = [] :=
      List.filter_eq_nil_iff.mpr fun entry member => by simp [skips entry member, Outcome.isFailure]
    have here : failed.outcome.isFailure = true := Outcome.isFailure_eq_true_iff.mpr failure
    rw [Report.failed, split, List.filter_append, none, List.filter_cons, if_pos here, last]
    rfl

/-- A report without failures is complete, whatever the policy. -/
theorem Shaped.complete {policy : FailurePolicy} {plans : List Plan} {report : Report}
    (shaped : report.Shaped policy plans)
    (success : ∀ entry ∈ report.tables, entry.outcome = .committed entry.requested) :
    report.stored = (plans.map Plan.rows).sum := by
  have all : report.tables.filter TableResult.isComplete = report.tables :=
    List.filter_eq_self.mpr fun entry member => TableResult.isComplete_iff.mpr (success entry member)
  have requested := congrArg (List.map Prod.snd) shaped.entries
  rw [List.map_map, List.map_map] at requested
  rw [shaped.stored, all]
  exact congrArg List.sum requested

end Report

/-! ### Reports of attempts -/

section Attempts

variable {σ : Type} {policy : FailurePolicy}

/-- The report of a run that made these attempts and skipped the later jobs. -/
def Report.ofAttempts (attempts : List (Attempt σ)) (later : List Job) : Report where
  tables := attempts.map Attempt.result ++ later.map Job.skipped

/-- The entry of an attempt that does not fail is complete. -/
theorem Attempt.result_complete {attempt : Attempt σ}
    (success : attempt.outcome.isFailure = false) :
    attempt.result.outcome = .committed attempt.result.requested :=
  attempt.outcome_of_success success

theorem Report.full_ofAttempts (attempts : List (Attempt σ)) (later : List Job) :
    ∀ entry ∈ (Report.ofAttempts attempts later).tables, ∀ rows,
      entry.outcome = .committed rows → rows = entry.requested := by
  intro entry member rows committed
  rcases List.mem_append.mp member with inside | skipped
  · obtain ⟨attempt, -, rfl⟩ := List.mem_map.mp inside
    exact attempt.rows_of_committed committed
  · obtain ⟨job, -, rfl⟩ := List.mem_map.mp skipped
    cases committed

/-- **The report of a run is shaped by its policy.** -/
theorem Halting.shaped {attempts : List (Attempt σ)} {later : List Job} {session : Session}
    {jobs : List Job} (halting : Halting policy attempts later)
    (ready : session.jobs = .ok jobs) (split : jobs = attempts.map Attempt.job ++ later) :
    (Report.ofAttempts attempts later).Shaped policy session.plans where
  entries := by
    rw [← Session.jobs_entries ready, split, Report.ofAttempts]
    simp only [List.map_append, List.map_map]
    rfl
  collected goesOn entry member := by
    obtain rfl := halting.later_eq_nil goesOn
    rw [Report.ofAttempts, List.map_nil, List.append_nil, List.mem_map] at member
    obtain ⟨attempt, -, rfl⟩ := member
    exact attempt.outcome_ne_skipped
  stopped stops := by
    rcases halting.stopped_cases stops with ⟨success, rfl⟩ | ⟨before, failed, rfl, success, failure⟩
    · refine Or.inl fun entry member => ?_
      rw [Report.ofAttempts, List.map_nil, List.append_nil, List.mem_map] at member
      obtain ⟨attempt, inside, rfl⟩ := member
      exact attempt.result_complete (success attempt inside)
    · refine Or.inr ⟨before.map Attempt.result, failed.result, later.map Job.skipped, ?_, ?_,
        Outcome.isFailure_eq_true_iff.mp failure, ?_⟩
      · simp [Report.ofAttempts]
      · intro entry member
        obtain ⟨attempt, inside, rfl⟩ := List.mem_map.mp member
        exact attempt.result_complete (success attempt inside)
      · intro entry member
        obtain ⟨job, -, rfl⟩ := List.mem_map.mp member
        rfl
  full := Report.full_ofAttempts attempts later
  stored := Report.stored_of_full _ (Report.full_ofAttempts attempts later)

/-- Attempts without failures leave no job out and complete all tables. -/
theorem Halting.complete {attempts : List (Attempt σ)} {later : List Job}
    (halting : Halting policy attempts later)
    (success : ∀ entry ∈ (Report.ofAttempts attempts later).tables,
      entry.outcome.isFailure = false) :
    ∀ entry ∈ (Report.ofAttempts attempts later).tables,
      entry.outcome = .committed entry.requested := by
  have all : ∀ attempt ∈ attempts, attempt.outcome.isFailure = false := fun attempt member =>
    success attempt.result (List.mem_append_left _ (List.mem_map_of_mem member))
  intro entry member
  rw [Report.ofAttempts, halting.later_eq_nil_of_success all, List.map_nil, List.append_nil, List.mem_map] at member
  obtain ⟨attempt, inside, rfl⟩ := member
  exact attempt.result_complete (all attempt inside)

end Attempts

/-! ### Runs -/

/-- **The report of a run.** Whatever the backend answers, a run of a session that is ready ends with
a report of one entry per plan, in order, shaped by the policy. The run succeeds exactly if no table
was rolled back, and then every table has all its rows; otherwise it fails with the report, which
counts the tables that were rolled back, and that is one if the run stops at failures. -/
theorem run_report {β σ : Type} [Backend β] [WordSource σ] {session : Session} {jobs : List Job}
    (ready : session.jobs = .ok jobs) (seeder : Seeder β σ) :
    ∃ report : Report,
      report.Shaped seeder.policy session.plans ∧
      ((seeder.run session).result = .ok report ↔
        ∀ entry ∈ report.tables, ∀ row error, entry.outcome ≠ .rolledBack row error) ∧
      ((seeder.run session).result = .error (.tablesFailed report) ↔
        ∃ entry ∈ report.tables, ∃ row error, entry.outcome = .rolledBack row error) ∧
      ((seeder.run session).result = .ok report →
        (∀ entry ∈ report.tables, entry.outcome = .committed entry.requested) ∧
        report.stored = (session.plans.map Plan.rows).sum) ∧
      ((seeder.run session).result = .error (.tablesFailed report) →
        report.failed.length = report.tables.countP (fun entry => entry.outcome.isFailure) ∧
        (seeder.policy = .stopOnFirst → report.failed.length = 1)) := by
  obtain ⟨attempts, later, split, halting, result, -, -⟩ := seeder.run_attempts ready
  have shaped := halting.shaped ready split
  have ended : (seeder.run session).result = (Report.ofAttempts attempts later).result := result
  rw [ended]
  refine ⟨Report.ofAttempts attempts later, shaped, ?_, ?_, fun success => ?_, fun fails => ⟨?_, ?_⟩⟩
  · rw [Report.result_eq_ok_iff]
    simp only [← Bool.not_eq_true, Outcome.isFailure_eq_true_iff, not_exists, ne_eq]
  · rw [Report.result_eq_error_iff]
    simp only [Outcome.isFailure_eq_true_iff]
  · have complete := halting.complete (Report.result_eq_ok_iff.mp success)
    exact ⟨complete, shaped.complete complete⟩
  · exact List.countP_eq_length_filter.symm
  · exact fun stops => shaped.failed_length stops (Report.result_eq_error_iff.mp fails)

/-- A seeder that stops at the first table, whose third dog is declared to fail. -/
def Kennel.impatient : Seeder Store Script where
  backend := { faults := { inserts := [("dogs", 3)] } }
  source := { words := [1, 2, 3] }
  policy := .stopOnFirst
  interval := 2
  positive := Nat.two_pos

/-- The report of a run that stops at its first table. -/
theorem run_report_dogs :
    Kennel.session.jobs = .ok [Kennel.job 3 (by decide), Kennel.job 2 (by decide)] ∧
    ∃ report : Report,
      report.Shaped .stopOnFirst Kennel.session.plans ∧
      (Kennel.impatient.run Kennel.session).result = .error (.tablesFailed report) ∧
      report.failed.length = 1 := by
  obtain ⟨report, shaped, succeeds, fails, -, counted⟩ :=
    run_report Kennel.session_ready Kennel.impatient
  have notOk : (Kennel.impatient.run Kennel.session).result.toOption = none := by decide +kernel
  have failed : (Kennel.impatient.run Kennel.session).result = .error (.tablesFailed report) := by
    refine fails.mpr ?_
    by_contra clean
    push Not at clean
    rw [succeeds.mpr clean] at notOk
    cases notOk
  exact ⟨Kennel.session_ready, report, shaped, failed, (counted failed).2 rfl⟩

end Seeding
