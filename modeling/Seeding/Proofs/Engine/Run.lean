/-
**Runs as sequences of attempts.**

A run attempts the first of its jobs and skips the others, as the policy says (`Halting`). Each
attempt starts from the source that the one before has left (`Chained`), the calls to the backend
are those of the blocks of the attempts, one after the other, and what is noted between them stands
in their proceedings (`proceedings`).

Main statements: `run_attempts` and, with the log, `run_proceeds`, for every backend, every policy
and every state of the source.
-/
import Seeding.Proofs.Engine.Attempt

namespace Seeding

/-! ### Sequences of attempts -/

/-- Each attempt starts from the source that the one before has left. -/
def Chained {σ : Type} [WordSource σ] : σ → List (Attempt σ) → σ → Prop
  | first, [], last => first = last
  | first, attempt :: rest, last => attempt.source = first ∧ Chained attempt.left rest last

/-- Which jobs are attempted and which come later and are skipped, under a policy. -/
structure Halting {σ : Type} (policy : FailurePolicy) (attempts : List (Attempt σ))
    (later : List Job) : Prop where
  /-- A run that stops at failures has none before its last attempt. -/
  continued : policy = .stopOnFirst →
    ∀ attempt ∈ attempts.dropLast, attempt.outcome.isFailure = false
  /-- Jobs are skipped only by a run that stops at failures, after one. -/
  stopped : later ≠ [] →
    policy = .stopOnFirst ∧ ∃ attempt ∈ attempts.getLast?, attempt.outcome.isFailure = true

namespace Halting

variable {σ : Type} {policy : FailurePolicy} {attempt : Attempt σ} {attempts : List (Attempt σ)}
  {later : List Job}

/-- A failed attempt comes last if the policy is to stop. -/
theorem last (later : List Job)
    (stops : policy = .stopOnFirst ∧ attempt.outcome.isFailure = true) :
    Halting policy [attempt] later where
  continued _ _ member := absurd member List.not_mem_nil
  stopped _ := ⟨stops.1, attempt, rfl, stops.2⟩

/-- An attempt that does not fail, or not under that policy, may come before others. -/
theorem cons (halting : Halting policy attempts later)
    (goesOn : policy = .stopOnFirst → attempt.outcome.isFailure = false) :
    Halting policy (attempt :: attempts) later where
  continued stopping earlier member := by
    cases attempts with
    | nil => exact absurd member List.not_mem_nil
    | cons second others =>
      rcases List.mem_cons.mp member with rfl | inside
      · exact goesOn stopping
      · exact halting.continued stopping earlier inside
  stopped skips := by
    obtain ⟨stopping, final, last, failed⟩ := halting.stopped skips
    refine ⟨stopping, final, ?_, failed⟩
    rw [List.getLast?_cons, last]
    rfl

end Halting

/-- The entry of a skipped job in a report. -/
def Job.skipped (job : Job) : TableResult where
  table := job.table.name
  requested := job.rows
  outcome := .skipped

/-- The result of a run with such a report. -/
def Report.result (report : Report) : Except RunError Report :=
  if report.succeeded then .ok report else .error (.tablesFailed report)

/-- What is noted at the end of a run with such a report. -/
def Report.closing (report : Report) : List RunEvent :=
  if report.succeeded then [.done report.stored report.tables.length]
  else report.failed.map fun table => .notSeeded table.table

/-- What is noted and called when these tables are attempted and those that come later are
skipped. -/
def proceedings {σ : Type} [WordSource σ] (interval : Nat) (attempts : List (Attempt σ))
    (later : List Job) : List Moment :=
  attempts.flatMap (Attempt.proceedings interval) ++
    later.map fun job => .note (.skipped job.table.name)

theorem proceedings_cons {σ : Type} [WordSource σ] (interval : Nat) (attempt : Attempt σ)
    (attempts : List (Attempt σ)) (later : List Job) :
    proceedings interval (attempt :: attempts) later =
      attempt.proceedings interval ++ proceedings interval attempts later := by
  rw [proceedings, List.flatMap_cons, List.append_assoc]
  rfl

/-- The backend that is left is that of the blocks. -/
theorem afterMoments_attempts {β σ : Type} [Backend β] [WordSource σ] (interval : Nat)
    (attempts : List (Attempt σ)) (later : List Job) (backend : β) :
    Backend.afterMoments (proceedings interval attempts later) backend =
      Backend.after ((attempts.flatMap Attempt.block).map Prod.fst) backend := by
  induction attempts generalizing backend with
  | nil =>
    have notes : proceedings interval ([] : List (Attempt σ)) later =
        (later.map fun job => RunEvent.skipped job.table.name).map .note := by
      rw [List.map_map]
      rfl
    rw [notes, Backend.afterMoments_notes]
    rfl
  | cons attempt rest ih =>
    rw [proceedings_cons, Backend.afterMoments_append, ih, attempt.afterMoments_proceedings,
      List.flatMap_cons, List.map_append, Backend.after_append]

/-- What is noted and called in a run with such a report. -/
def runProceedings {σ : Type} [WordSource σ] (interval : Nat) (attempts : List (Attempt σ))
    (later : List Job) (report : Report) : List Moment :=
  .note (.started (attempts.length + later.length)) :: proceedings interval attempts later ++
    report.closing.map .note

theorem afterMoments_run {β σ : Type} [Backend β] [WordSource σ] (interval : Nat)
    (attempts : List (Attempt σ)) (later : List Job) (report : Report) (backend : β) :
    Backend.afterMoments (runProceedings interval attempts later report) backend =
      Backend.after ((attempts.flatMap Attempt.block).map Prod.fst) backend := by
  rw [runProceedings, Backend.afterMoments_append, Backend.afterMoments_notes]
  exact afterMoments_attempts interval attempts later backend

namespace Engine

section Conclusion

variable {β σ : Type} [Backend β]

/-- A run ends with the result of its report and without another call. -/
theorem conclude_advance (report : Report) (desk : Desk β σ) :
    conclude report desk =
      (report.result, desk.advance (report.closing.map .note) desk.source) := by
  unfold conclude Report.result Report.closing
  by_cases succeeded : report.succeeded = true
  · rw [if_pos succeeded, if_pos succeeded, if_pos succeeded, State.bind_apply, note_advance]
    rfl
  · rw [if_neg succeeded, if_neg succeeded, if_neg succeeded, State.bind_apply, notes_advance]
    rfl

theorem conclude_frame (report : Report) (desk : Desk β σ) :
    ∃ finished : Desk β σ,
      conclude report desk = (report.result, finished) ∧
      finished.backend = desk.backend ∧ finished.source = desk.source :=
  ⟨_, conclude_advance report desk, Backend.afterMoments_notes report.closing desk.backend, rfl⟩

end Conclusion

variable {β σ : Type} [Backend β] [WordSource σ]

theorem stopsAfter_eq_true_iff {policy : FailurePolicy} {outcome : Outcome} :
    stopsAfter policy outcome = true ↔ policy = .stopOnFirst ∧ outcome.isFailure = true := by
  rw [stopsAfter, Bool.and_eq_true, beq_iff_eq, and_comm]

/-- A run that has stopped only notes that it skips a job. -/
theorem fillTables_skip (policy : FailurePolicy) (interval : Nat) (job : Job) (rest : List Job)
    (desk : Desk β σ) :
    fillTables policy interval true (job :: rest) desk =
      let others := fillTables policy interval true rest
        { desk with log := desk.log.push (.run (.skipped job.table.name)) }
      (job.skipped :: others.1, others.2) := rfl

/-- A run that goes on fills a table, whose outcome says whether it stops. -/
theorem fillTables_fill (policy : FailurePolicy) (interval : Nat) (job : Job) (rest : List Job)
    (desk : Desk β σ) :
    fillTables policy interval false (job :: rest) desk =
      let filled := fillTable interval job desk
      let others := fillTables policy interval (stopsAfter policy filled.1) rest filled.2
      ({ table := job.table.name, requested := job.rows, outcome := filled.1 } :: others.1,
        others.2) := rfl

/-- A run that has stopped makes no calls and draws nothing. -/
theorem fillTables_stopped_advance (policy : FailurePolicy) (interval : Nat) (jobs : List Job)
    (desk : Desk β σ) :
    fillTables policy interval true jobs desk = (jobs.map Job.skipped,
      desk.advance ((jobs.map fun job => RunEvent.skipped job.table.name).map .note)
        desk.source) := by
  induction jobs generalizing desk with
  | nil => exact congrArg (Prod.mk []) (advance_nil desk.source desk).symm
  | cons job rest ih =>
    have noted : { desk with log := desk.log.push (.run (.skipped job.table.name)) } =
        desk.advance [.note (.skipped job.table.name)] desk.source :=
      congrArg Prod.snd (note_advance (.skipped job.table.name) desk)
    rw [fillTables_skip, noted, ih, advance_source, advance_advance]
    rfl

theorem fillTables_stopped (policy : FailurePolicy) (interval : Nat) (jobs : List Job)
    (desk : Desk β σ) :
    ∃ finished : Desk β σ,
      fillTables policy interval true jobs desk = (jobs.map Job.skipped, finished) ∧
      finished.backend = desk.backend ∧ finished.source = desk.source :=
  ⟨_, fillTables_stopped_advance policy interval jobs desk,
    Backend.afterMoments_notes _ desk.backend, rfl⟩

/-- The attempts that fill tables from a backend and a source and the jobs that are skipped,
whatever the interval between notes of progress and the log before. -/
structure FillsAll (policy : FailurePolicy) (jobs : List Job) (backend : β) (source : σ)
    (attempts : List (Attempt σ)) (later : List Job) (left : σ) : Prop where
  split : jobs = attempts.map Attempt.job ++ later
  halting : Halting policy attempts later
  answers : ∃ last, Backend.Answers backend (attempts.flatMap Attempt.block) last
  chained : Chained source attempts left
  advances : ∀ interval log, fillTables policy interval false jobs { backend, source, log } =
    (attempts.map Attempt.result ++ later.map Job.skipped,
      Desk.advance (proceedings interval attempts later) left { backend, source, log })

/-- A table after which the run stops comes before those that are skipped. -/
theorem Fills.stops {policy : FailurePolicy} {job : Job} {backend : β} {source : σ}
    {attempt : Attempt σ} (fills : Fills job backend source attempt) (rest : List Job)
    (stops : stopsAfter policy attempt.outcome = true) :
    FillsAll policy (job :: rest) backend source [attempt] rest attempt.left where
  split := by
    rw [← fills.sameJob]
    rfl
  halting := .last rest (stopsAfter_eq_true_iff.mp stops)
  answers := by
    rw [List.flatMap_singleton]
    exact fills.answers
  chained := ⟨fills.sameSource, rfl⟩
  advances interval log := by
    rw [fillTables_fill, fills.advances]
    simp only [stops, fillTables_stopped_advance, advance_source, advance_advance, List.map_map]
    rw [← fills.sameJob, proceedings, List.flatMap_singleton]
    rfl

/-- A table after which the run goes on comes before the others. -/
theorem Fills.goesOn {policy : FailurePolicy} {job : Job} {backend middle : β} {source left : σ}
    {attempt : Attempt σ} (fills : Fills job backend source attempt) {rest : List Job}
    {attempts : List (Attempt σ)} {later : List Job}
    (goesOn : stopsAfter policy attempt.outcome = false)
    (reached : Backend.Answers backend attempt.block middle)
    (others : FillsAll policy rest middle attempt.left attempts later left) :
    FillsAll policy (job :: rest) backend source (attempt :: attempts) later left where
  split := by
    rw [others.split, ← fills.sameJob]
    rfl
  halting := by
    refine others.halting.cons fun stopping => ?_
    rw [← Bool.not_eq_true]
    intro failed
    rw [stopsAfter_eq_true_iff.mpr ⟨stopping, failed⟩] at goesOn
    cases goesOn
  answers := by
    obtain ⟨last, answered⟩ := others.answers
    exact ⟨last, Backend.answers_append.mpr ⟨middle, reached, answered⟩⟩
  chained := ⟨fills.sameSource, others.chained⟩
  advances interval log := by
    have here : Desk.advance (attempt.proceedings interval) attempt.left
        { backend, source, log } =
          { backend := middle
            source := attempt.left
            log := log ++ Backend.logged (attempt.proceedings interval) backend } := by
      rw [Desk.advance, attempt.afterMoments_proceedings, Backend.after_of_answers reached]
    rw [fillTables_fill, fills.advances]
    simp only [goesOn]
    rw [here, others.advances, ← here, advance_advance, ← proceedings_cons, ← fills.sameJob]
    rfl

/-- **Filling tables is a sequence of attempts**, whatever the backend answers. -/
theorem fillTables_proceeds (policy : FailurePolicy) (jobs : List Job) (backend : β) (source : σ) :
    ∃ (attempts : List (Attempt σ)) (later : List Job) (left : σ),
      FillsAll policy jobs backend source attempts later left := by
  induction jobs generalizing backend source with
  | nil =>
    refine ⟨[], [], source, rfl, ⟨by simp, by simp⟩, ⟨backend, rfl⟩, rfl, fun interval log => ?_⟩
    exact congrArg (Prod.mk []) (advance_nil source { backend, source, log }).symm
  | cons job rest ih =>
    obtain ⟨attempt, fills⟩ := fillTable_proceeds job backend source
    obtain ⟨middle, reached⟩ := fills.answers
    cases stops : stopsAfter policy attempt.outcome with
    | true => exact ⟨[attempt], rest, attempt.left, fills.stops rest stops⟩
    | false =>
      obtain ⟨attempts, later, left, others⟩ := ih middle attempt.left
      exact ⟨attempt :: attempts, later, left, fills.goesOn stops reached others⟩

theorem fillTables_attempts (policy : FailurePolicy) (interval : Nat) (jobs : List Job)
    (desk : Desk β σ) :
    ∃ (attempts : List (Attempt σ)) (later : List Job) (finished : Desk β σ),
      jobs = attempts.map Attempt.job ++ later ∧ Halting policy attempts later ∧
      fillTables policy interval false jobs desk =
        (attempts.map Attempt.result ++ later.map Job.skipped, finished) ∧
      Backend.Answers desk.backend (attempts.flatMap Attempt.block) finished.backend ∧
      Chained desk.source attempts finished.source := by
  obtain ⟨attempts, later, left, all⟩ :=
    fillTables_proceeds policy jobs desk.backend desk.source
  obtain ⟨last, answered⟩ := all.answers
  refine ⟨attempts, later, _, all.split, all.halting, all.advances interval desk.log, ?_,
    all.chained⟩
  rw [advance_backend, afterMoments_attempts, Backend.after_of_answers answered]
  exact answered

/-- **Running jobs is a sequence of attempts** with the result of their report. Before the first of
them the number of jobs is noted, and after the last how the run ended. -/
theorem runJobs_proceeds (policy : FailurePolicy) (jobs : List Job) (backend : β) (source : σ) :
    ∃ (attempts : List (Attempt σ)) (later : List Job) (left : σ),
      FillsAll policy jobs backend source attempts later left ∧
      ∀ interval log, runJobs policy interval jobs { backend, source, log } =
        let report : Report := { tables := attempts.map Attempt.result ++ later.map Job.skipped }
        (report.result, Desk.advance (runProceedings interval attempts later report) left
          { backend, source, log }) := by
  obtain ⟨attempts, later, left, all⟩ := fillTables_proceeds policy jobs backend source
  have number : jobs.length = attempts.length + later.length := by
    rw [all.split, List.length_append, List.length_map]
  refine ⟨attempts, later, left, all, fun interval log => ?_⟩
  have started : Desk.advance [.note (.started jobs.length)] source { backend, source, log } =
      { backend, source, log := log.push (.run (.started jobs.length)) } :=
    congrArg Prod.snd (note_advance (.started jobs.length) { backend, source, log }).symm
  unfold runJobs
  rw [State.bind_apply, note_apply, State.bind_apply, all.advances]
  show conclude _ _ = _
  rw [← started, advance_advance, conclude_advance, advance_source, advance_advance, number]
  rfl

end Engine

/-! ### Runs -/

/-- A run of a session that is ready runs its jobs. -/
theorem Seeder.run_of_ready {β σ : Type} [Backend β] [WordSource σ] {session : Session}
    {jobs : List Job} (ready : session.jobs = .ok jobs) (seeder : Seeder β σ) :
    seeder.run session =
      let finished := Engine.runJobs seeder.policy seeder.interval jobs
        { backend := seeder.backend, source := seeder.source }
      { result := finished.1
        log := finished.2.log.toList
        seeder := { seeder with backend := finished.2.backend, source := finished.2.source } } := by
  unfold run
  rw [ready]

/-- A run changes no more of its seeder than the backend and the source. -/
theorem Seeder.run_seeder {β σ : Type} [Backend β] [WordSource σ] (session : Session)
    (seeder : Seeder β σ) :
    (seeder.run session).seeder = { seeder with
      backend := (seeder.run session).seeder.backend
      source := (seeder.run session).seeder.source } := by
  unfold run
  cases session.jobs <;> rfl

/-- A seeder has its own interval. -/
theorem Seeder.withInterval_interval {β σ : Type} (seeder : Seeder β σ) :
    seeder.withInterval seeder.interval = seeder := by
  obtain ⟨backend, source, policy, interval, positive⟩ := seeder
  simp only [withInterval, Nat.max_eq_left positive]

/-- **A run with its log**, whatever the backend answers and for every interval between notes of
progress: the attempts, and with them the report, the backend and the source that are left, do not
depend on the interval. -/
theorem Seeder.run_proceeds {β σ : Type} [Backend β] [WordSource σ] {session : Session}
    {jobs : List Job} (ready : session.jobs = .ok jobs) (seeder : Seeder β σ) :
    ∃ (attempts : List (Attempt σ)) (later : List Job) (last : β) (left : σ) (report : Report),
      Engine.FillsAll seeder.policy jobs seeder.backend seeder.source attempts later left ∧
      Backend.Answers seeder.backend (attempts.flatMap Attempt.block) last ∧
      report.tables = attempts.map Attempt.result ++ later.map Job.skipped ∧
      ∀ interval, (seeder.withInterval interval).run session =
        { result := report.result
          log := Backend.logged (runProceedings (max interval 1) attempts later report)
            seeder.backend
          seeder := { seeder.withInterval interval with backend := last, source := left } } := by
  obtain ⟨attempts, later, left, all, advances⟩ :=
    Engine.runJobs_proceeds seeder.policy jobs seeder.backend seeder.source
  obtain ⟨last, answered⟩ := all.answers
  refine ⟨attempts, later, last, left, _, all, answered, rfl, fun interval => ?_⟩
  have ran := (seeder.withInterval interval).run_of_ready ready
  unfold withInterval at ran
  simp only [advances, Engine.advance_backend, Engine.advance_source, Engine.advance_log,
    afterMoments_run, Backend.after_of_answers answered] at ran
  exact ran

/-- **A run is a sequence of attempts**, whatever the backend answers: they follow the order of the
jobs as far as the policy lets them, their blocks are the calls of the run, and their outcomes with
the skipped jobs are its report. -/
theorem Seeder.run_attempts {β σ : Type} [Backend β] [WordSource σ] {session : Session}
    {jobs : List Job} (ready : session.jobs = .ok jobs) (seeder : Seeder β σ) :
    ∃ (attempts : List (Attempt σ)) (later : List Job),
      jobs = attempts.map Attempt.job ++ later ∧ Halting seeder.policy attempts later ∧
      (seeder.run session).result =
        Report.result { tables := attempts.map Attempt.result ++ later.map Job.skipped } ∧
      Backend.Answers seeder.backend (attempts.flatMap Attempt.block)
        (seeder.run session).seeder.backend ∧
      Chained seeder.source attempts (seeder.run session).seeder.source := by
  obtain ⟨attempts, later, last, left, report, all, answered, tables, proceeds⟩ :=
    seeder.run_proceeds ready
  have ran := proceeds seeder.interval
  rw [seeder.withInterval_interval] at ran
  obtain rfl : report = { tables := attempts.map Attempt.result ++ later.map Job.skipped } :=
    congrArg Report.mk tables
  rw [ran]
  exact ⟨attempts, later, all.split, all.halting, rfl, answered, all.chained⟩

end Seeding
