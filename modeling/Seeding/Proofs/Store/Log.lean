/-
**The log of a run on the store in memory.**

The log is told line by line. A table opens with its own line. Once its transaction is open, there
is a line of progress for each multiple of the interval among its stored rows, and then two lines
for its ending, of which the store writes one: how many rows it commits or discards. Skipped tables
and the end of the run come after the tables that were attempted.

Main statement: `log_told`, for every session that is ready, every idle store with any declared
failures, every policy and every interval. The attempts that it tells of do not depend on the
interval, and neither does the log without its lines of progress.
-/
import Seeding.Proofs.Engine.Alike
import Seeding.Proofs.Engine.Report
import Seeding.Proofs.Store.Run

namespace Seeding

/-! ### Lines -/

namespace Event

/-- A line of the log: its level and its text. -/
def entry (event : Event) : Level × String := (event.level, event.message)

/-- Whether an event is a note of progress. -/
def isProgress : Event → Bool
  | .run (.progress _ _ _) => true
  | _ => false

end Event

/-- The notes of progress among so many stored rows. -/
def Job.progress (interval : Nat) (job : Job) (inserted : Nat) : List Event :=
  ((List.range' 1 inserted).filter fun row => row % interval = 0).map fun row =>
    .run (.progress row job.rows job.table.name)

/-- Notes of progress are all that depends on the interval. -/
theorem Job.filter_progress (interval : Nat) (job : Job) (inserted : Nat) :
    (job.progress interval inserted).filter (fun event => !event.isProgress) = [] := by
  refine List.filter_eq_nil_iff.mpr fun event member => ?_
  obtain ⟨row, _, rfl⟩ := List.mem_map.mp member
  exact Bool.false_ne_true

namespace Attempt

variable {σ : Type}

/-- How the log tells the ending of an attempt. -/
def closing : Attempt σ → List Event
  | ⟨job, _, .refused error⟩ => [.run (.beginFailed job.table.name error)]
  | ⟨job, _, .broken before error _⟩ =>
    [.run (.rowFailed (before + 1) job.rows job.table.name error), .store (.discarding before)]
  | ⟨job, _, .unconfirmed error⟩ =>
    [.store (.discardingOnCommit job.rows), .run (.commitFailed job.table.name error)]
  | ⟨job, _, .committed⟩ =>
    [.store (.committing job.rows), .run (.tableDone job.rows job.table.name)]

/-- The events of an attempt. -/
def events (interval : Nat) (attempt : Attempt σ) : List Event :=
  .run (.tableStarted attempt.job.rows attempt.job.table.name) ::
    attempt.job.progress interval attempt.inserted ++ attempt.closing

/-- The lines of the ending of an attempt. -/
def closingLines : Attempt σ → List (Level × String)
  | ⟨job, _, .refused error⟩ =>
    [(.warn, s!"Could not open transaction for {job.table.name}: {error.message}")]
  | ⟨job, _, .broken ⟨before, _⟩ error _⟩ =>
    [(.warn,
        s!"Row {before + 1}/{job.rows} of {job.table.name} failed, rolling back: {error.message}"),
      (.debug, s!"Discarding {before} staged rows")]
  | ⟨job, _, .unconfirmed error⟩ =>
    [(.debug, s!"Discarding {job.rows} staged rows on failed commit"),
      (.warn, s!"Commit of {job.table.name} failed: {error.message}")]
  | ⟨job, _, .committed⟩ =>
    [(.debug, s!"Committing {job.rows} staged rows"),
      (.info, s!"Seeded {job.rows} rows into {job.table.name}")]

/-- The lines of an attempt. -/
def lines (interval : Nat) (attempt : Attempt σ) : List (Level × String) :=
  (.info, s!"Seeding {attempt.job.rows} rows into {attempt.job.table.name}...") ::
    ((List.range' 1 attempt.inserted).filter fun row => row % interval = 0).map (fun row =>
      (.info, s!"  Seeded {row}/{attempt.job.rows} rows into {attempt.job.table.name}")) ++
    attempt.closingLines

theorem entries_events (interval : Nat) (attempt : Attempt σ) :
    (attempt.events interval).map Event.entry = attempt.lines interval := by
  have closing : attempt.closing.map Event.entry = attempt.closingLines := by
    obtain ⟨job, source, ending⟩ := attempt
    cases ending <;> rfl
  rw [events, List.map_append, closing, List.map_cons, Job.progress, List.map_map]
  rfl

theorem filter_events (first second : Nat) (attempt : Attempt σ) :
    (attempt.events first).filter (fun event => !event.isProgress) =
      (attempt.events second).filter (fun event => !event.isProgress) := by
  simp only [events, List.filter_append, List.filter_cons, Job.filter_progress]

end Attempt

/-- The lines at the end of a run: the tables that were not seeded or, if there are none, the
total. -/
def Report.lines (report : Report) : List (Level × String) :=
  if report.failed = [] then
    [(.info, s!"Seeded {report.stored} rows across {report.tables.length} tables")]
  else report.failed.map fun table => (.warn, s!"Table {table.table} was not seeded")

theorem Report.entries_closing (report : Report) :
    (report.closing.map Event.run).map Event.entry = report.lines := by
  unfold Report.closing Report.lines Report.succeeded
  by_cases none : report.failed = []
  · rw [if_pos none, if_pos (by rw [none]; rfl)]
    rfl
  · rw [if_neg none, if_neg (by rwa [List.isEmpty_iff]), List.map_map, List.map_map]
    rfl

namespace Store

/-! ### What the store notes -/

section Notes

variable {store last : Store} {transaction : Transaction}

theorem begin_quiet (store : Store) : (Backend.perform .begin store).1.log = [] := by
  show store.begin.1.log = []
  cases state : store.transaction with
  | some transaction => rw [begin_of_open state]
  | none =>
    by_cases declared : store.begins + 1 ∈ store.faults.begins
    · rw [begin_of_declared state declared]
    · rw [begin_of_idle state declared]

theorem insert_quiet (table : Table) (record : Record) (store : Store) :
    (Backend.perform (.insert table record) store).1.log = [] := by
  show (store.insert table record).1.log = []
  rcases store.insert_cases table record with
    ⟨_, step⟩ | ⟨transaction, _, ⟨error, step⟩ | ⟨_, _, step⟩⟩ <;> rw [step]

/-- Of stored rows only the run notes something: its progress. -/
theorem logged_stored (interval : Nat) (job : Job) (number : Nat) (records : List Record)
    (store : Store) :
    Backend.logged (job.proceedings interval number (job.stored records)) store =
      ((List.range' number records.length).filter fun row => row % interval = 0).map fun row =>
        .run (.progress row job.rows job.table.name) := by
  induction records generalizing number store with
  | nil => rfl
  | cons record rest ih =>
    show Backend.logged (job.proceedings interval number
      ((.insert job.table record, .ok ()) :: job.stored rest)) store = _
    rw [Job.logged_proceedings_cons, insert_quiet, ih, List.length_cons, List.range'_succ,
      List.filter_cons, Job.notes]
    by_cases noted : number % interval = 0
    · rw [if_pos noted, if_pos (decide_eq_true noted)]
      rfl
    · rw [if_neg noted, if_neg (by simpa using noted)]
      rfl

/-- The rows of a transaction that an idle store has opened, and what comes after them. -/
theorem logged_opened (interval : Nat) (job : Job) (records : List Record) {tail : List Exchange}
    (idle : store.transaction = none)
    (answers : Backend.Answers store ((.begin, .ok ()) :: job.stored records ++ tail) last) :
    ∃ (opened : Store) (final : Transaction), opened.transaction = some final ∧
      final.staged.size = records.length ∧ Backend.Answers opened tail last ∧
      Backend.logged (job.proceedings interval 0
          ((.begin, .ok ()) :: job.stored records ++ tail)) store =
        job.progress interval records.length ++
          Backend.logged (job.proceedings interval (records.length + 1) tail) opened := by
  obtain ⟨opened, begun, later⟩ := Backend.answers_append.mp answers
  have alone : Backend.Answers store ((.begin, .ok ()) :: job.stored records ++ []) opened := by
    rw [List.append_nil]
    exact begun
  obtain ⟨_, _, final, staged, _, rfl⟩ := answers_opened job records idle alone
  refine ⟨_, final, rfl, ?_, later, ?_⟩
  · rw [← Array.length_toList, staged, List.length_map]
  · have places : 0 + ((Call.begin, Except.ok ()) :: job.stored records).length =
        records.length + 1 := by
      simp [Job.stored]
    rw [job.proceedings_append, Backend.logged_append, Job.afterMoments_proceedings,
      Backend.after_of_answers begun, places, Job.logged_proceedings_cons, begin_quiet,
      logged_stored]
    rfl

/-- A storable row that fails is noted by the run, and what is discarded by the store. -/
theorem logged_failure (interval : Nat) (job : Job) (number : Nat) {record : Record}
    {error : StoreError} {answer : Except StoreError Unit}
    (opened : store.transaction = some transaction) (storable : job.table.verify record = .ok ())
    (answers : Backend.Answers store
      [(.insert job.table record, .error error), (.rollback, answer)] last) :
    Backend.logged (job.proceedings interval number
        [(.insert job.table record, .error error), (.rollback, answer)]) store =
      [.run (.rowFailed number job.rows job.table.name error),
        .store (.discarding transaction.staged.size)] := by
  obtain ⟨refused, given, _⟩ := answers
  obtain ⟨_, _, step⟩ := insert_error_inv opened storable refused
  -- the failed attempt is counted, but it stages nothing
  have dropped : Backend.perform .rollback
      (Backend.perform (.insert job.table record) store).2 =
        ({ result := .ok (), log := [.store (.discarding transaction.staged.size)] },
          { store with transaction := none, rollbacks := store.rollbacks + 1 }) := by
    have counted : (store.insert job.table record).2.transaction =
        some (transaction.attempted job.table.name) := congrArg Store.transaction step
    show (store.insert job.table record).2.rollback = _
    rw [rollback_of_open counted, step]
    rfl
  rw [dropped] at given
  rw [Job.logged_proceedings_cons, Job.logged_proceedings_cons, insert_quiet, dropped, ← given]
  rfl

/-- What a failed commit discards is noted by the store, and that it failed by the run. -/
theorem logged_commit_error (interval : Nat) (job : Job) (number : Nat) {error : StoreError}
    (opened : store.transaction = some transaction)
    (answers : Backend.Answers store [(.commit, .error error)] last) :
    Backend.logged (job.proceedings interval number [(.commit, .error error)]) store =
      [.store (.discardingOnCommit transaction.staged.size),
        .run (.commitFailed job.table.name error)] := by
  have refused : store.commit.1.result = .error error := answers.1
  rw [Job.logged_proceedings_cons]
  show store.commit.1.log ++ _ = _
  cases decided : store.refusedCommit? transaction with
  | some name =>
    rw [commit_of_refused opened decided]
    rfl
  | none =>
    rw [commit_of_open opened decided] at refused
    cases refused

/-- What a commit stores is noted by the store, and that the table is done by the run. -/
theorem logged_commit_ok (interval : Nat) (job : Job) (number : Nat)
    (opened : store.transaction = some transaction)
    (answers : Backend.Answers store [(.commit, .ok ())] last) :
    Backend.logged (job.proceedings interval number [(.commit, .ok ())]) store =
      [.store (.committing transaction.staged.size),
        .run (.tableDone job.rows job.table.name)] := by
  have accepted : store.commit.1.result = .ok () := answers.1
  rw [Job.logged_proceedings_cons]
  show store.commit.1.log ++ _ = _
  cases decided : store.refusedCommit? transaction with
  | some name =>
    rw [commit_of_refused opened decided] at accepted
    cases accepted
  | none =>
    rw [commit_of_open opened decided]
    rfl

end Notes

/-! ### The log of attempts -/

section Attempts

variable {σ : Type} [WordSource σ] {store last : Store}

/-- **The log of one attempt.** -/
theorem logged_attempt (interval : Nat) (attempt : Attempt σ) (idle : store.transaction = none)
    (answers : Backend.Answers store attempt.block last) :
    Backend.logged (attempt.proceedings interval) store = attempt.events interval := by
  obtain ⟨job, source, ending⟩ := attempt
  refine congrArg (Event.run (.tableStarted job.rows job.table.name) :: ·) ?_
  cases ending with
  | refused error =>
    show Backend.logged (job.proceedings interval 0 [(.begin, .error error)]) store = _
    rw [Job.logged_proceedings_cons, begin_quiet]
    rfl
  | broken before error answer =>
    obtain ⟨opened, final, state, staged, tail, logged⟩ :=
      logged_opened interval job (job.records before source).1 idle answers
    have rows := job.length_records before source
    rw [rows] at staged logged
    have failed := logged_failure interval job (before + 1) state
      (job.bindings.draw_verified _) tail
    rw [staged] at failed
    exact logged.trans (congrArg (job.progress interval before ++ ·) failed)
  | unconfirmed error =>
    obtain ⟨opened, final, state, staged, tail, logged⟩ :=
      logged_opened interval job (job.records job.rows source).1 idle answers
    have rows := job.length_records job.rows source
    rw [rows] at staged logged
    have failed := logged_commit_error interval job (job.rows + 1) state tail
    rw [staged] at failed
    exact logged.trans (congrArg (job.progress interval job.rows ++ ·) failed)
  | committed =>
    obtain ⟨opened, final, state, staged, tail, logged⟩ :=
      logged_opened interval job (job.records job.rows source).1 idle answers
    have rows := job.length_records job.rows source
    rw [rows] at staged logged
    have stored := logged_commit_ok interval job (job.rows + 1) state tail
    rw [staged] at stored
    exact logged.trans (congrArg (job.progress interval job.rows ++ ·) stored)

/-- **The log of attempts** one after the other, and of the jobs that are skipped after them. -/
theorem logged_attempts (interval : Nat) (attempts : List (Attempt σ)) (later : List Job)
    (idle : store.transaction = none)
    (answers : Backend.Answers store (attempts.flatMap Attempt.block) last) :
    Backend.logged (proceedings interval attempts later) store =
      attempts.flatMap (Attempt.events interval) ++
        later.map fun job => .run (.skipped job.table.name) := by
  induction attempts generalizing store with
  | nil =>
    have skipped := Backend.logged_notes
      (later.map fun job => RunEvent.skipped job.table.name) store
    rw [List.map_map, List.map_map] at skipped
    exact skipped
  | cons attempt rest ih =>
    rw [List.flatMap_cons] at answers
    obtain ⟨middle, here, others⟩ := Backend.answers_append.mp answers
    have settled := (answers_block attempt idle here).2
    rw [proceedings_cons, Backend.logged_append, logged_attempt interval attempt idle here,
      attempt.afterMoments_proceedings, Backend.after_of_answers here,
      ih (by rw [settled]; rfl) others, List.flatMap_cons, List.append_assoc]

end Attempts

end Store

/-! ### The log of a run -/

section Runs

variable {σ : Type}

/-- What is noted in a run, in order. -/
def runEvents (interval : Nat) (attempts : List (Attempt σ)) (later : List Job) : List Event :=
  .run (.started (attempts.length + later.length)) ::
    attempts.flatMap (Attempt.events interval) ++
    later.map (fun job => .run (.skipped job.table.name)) ++
    (Report.ofAttempts attempts later).closing.map .run

/-- The lines of a run, in order. -/
def runLines (interval : Nat) (attempts : List (Attempt σ)) (later : List Job) :
    List (Level × String) :=
  (.info, s!"Seeding {attempts.length + later.length} tables...") ::
    attempts.flatMap (Attempt.lines interval) ++
    later.map (fun job => (.info, s!"Skipping {job.table.name} after earlier failure")) ++
    (Report.ofAttempts attempts later).lines

theorem entries_runEvents (interval : Nat) (attempts : List (Attempt σ)) (later : List Job) :
    (runEvents interval attempts later).map Event.entry = runLines interval attempts later := by
  have attempted : (attempts.flatMap (Attempt.events interval)).map Event.entry =
      attempts.flatMap (Attempt.lines interval) := by
    rw [List.map_flatMap]
    exact congrArg attempts.flatMap (funext (Attempt.entries_events interval))
  rw [runEvents, List.map_append, List.map_append, List.map_cons, attempted,
    Report.entries_closing, List.map_map]
  rfl

theorem filter_runEvents (first second : Nat) (attempts : List (Attempt σ)) (later : List Job) :
    (runEvents first attempts later).filter (fun event => !event.isProgress) =
      (runEvents second attempts later).filter (fun event => !event.isProgress) := by
  have attempted : (attempts.flatMap (Attempt.events first)).filter
      (fun event => !event.isProgress) =
        (attempts.flatMap (Attempt.events second)).filter (fun event => !event.isProgress) := by
    rw [List.filter_flatMap, List.filter_flatMap]
    exact congrArg attempts.flatMap (funext (Attempt.filter_events first second))
  simp only [runEvents, List.filter_append, List.filter_cons, attempted]

variable [WordSource σ]

/-- A run that its log tells: which tables were attempted and how they ended, and which were
skipped. The calls to the store are those of the attempts. -/
structure Recounted (session : Session) (attempts : List (Attempt σ)) (later : List Job)
    (last : Store) (left : σ) (seeder : Seeder Store σ) : Prop where
  result : (seeder.run session).result = (Report.ofAttempts attempts later).result
  calls : seeder.exchanged session = attempts.flatMap Attempt.block
  backend : (seeder.run session).seeder.backend = last
  source : (seeder.run session).seeder.source = left
  log : (seeder.run session).log.map Event.entry = runLines seeder.interval attempts later

/-- The events of a run of jobs that starts when no transaction is open. -/
theorem logged_run (interval : Nat) (attempts : List (Attempt σ)) (later : List Job)
    {store last : Store} (idle : store.transaction = none)
    (answers : Backend.Answers store (attempts.flatMap Attempt.block) last) :
    Backend.logged (runProceedings interval attempts later (.ofAttempts attempts later)) store =
      runEvents interval attempts later := by
  rw [runProceedings, Backend.logged_append, Backend.logged_notes, Backend.logged,
    Store.logged_attempts interval attempts later idle answers]
  rfl

/-- **The log tells the run.** A run of a session that is ready, from an idle store with any
declared failures and with any policy, notes the number of tables; then for each table that it
attempts its opening line, its progress at the multiples of the interval among its stored rows, and
the two lines of its ending or the one of a transaction that could not be opened; then a line for
each table that it skips; and at last a line for each table that failed or, if there is none, the
total. An interval of zero counts as one. What was attempted, the calls, the report, the store, the
source and the log without its notes of progress are the same for all intervals. -/
theorem log_told {session : Session} {jobs : List Job} (ready : session.jobs = .ok jobs)
    (seeder : Seeder Store σ) (idle : seeder.backend.transaction = none) :
    ∃ (attempts : List (Attempt σ)) (later : List Job) (last : Store) (left : σ),
      jobs = attempts.map Attempt.job ++ later ∧
      Halting seeder.policy attempts later ∧
      Chained seeder.source attempts left ∧
      Filled seeder.backend attempts last ∧
      (∀ interval, Recounted session attempts later last left (seeder.withInterval interval)) ∧
      ∀ first second,
        ((seeder.withInterval first).run session).log.filter (fun event => !event.isProgress) =
          ((seeder.withInterval second).run session).log.filter
            fun event => !event.isProgress := by
  obtain ⟨attempts, later, last, left, report, all, answered, tables, proceeds⟩ :=
    seeder.traced.run_proceeds ready
  obtain ⟨trace, inside⟩ := Traced.of_answers answered
  obtain rfl := all.split
  obtain rfl : report = .ofAttempts attempts later := congrArg Report.mk tables
  have ran (interval : Nat) : (seeder.withInterval interval).traced.run session =
      { result := (Report.ofAttempts attempts later).result
        log := runEvents (max interval 1) attempts later
        seeder := { (seeder.withInterval interval).traced with
          backend := last
          source := left } } := by
    have told := (Backend.logged_seen Traced.inner_faithful _ seeder.traced.backend).symm.trans
      (logged_run (max interval 1) attempts later idle inside)
    exact (proceeds interval).trans (congrArg (Run.mk _ · _) told)
  have seen (interval : Nat) : (seeder.withInterval interval).run session =
      ((seeder.withInterval interval).traced.run session).seen Traced.inner :=
    (seeder.withInterval interval).run_eq_seen session
  refine ⟨attempts, later, last.inner, left, rfl, all.halting, all.chained,
    Store.answers_blocks attempts idle inside, fun interval => ?_, fun first second => ?_⟩
  · constructor
    · rw [seen, ran]
      rfl
    · rw [Seeder.exchanged, ran]
      exact trace
    · rw [seen, ran]
      rfl
    · rw [seen, ran]
      rfl
    · rw [seen, ran]
      exact entries_runEvents _ attempts later
  · rw [seen, seen, ran, ran]
    exact filter_runEvents _ _ attempts later

end Runs

/-- The log of a run whose first table is refused: an interval of zero counts as one, and the log
without progress is that of any other interval. -/
theorem log_told_dogs :
    Kennel.session.jobs = .ok [Kennel.job 3 (by decide), Kennel.job 2 (by decide)] ∧
    Kennel.unlucky.backend.transaction = none ∧
    (∃ (attempts : List (Attempt Script)) (later : List Job),
      [Kennel.job 3 (by decide), Kennel.job 2 (by decide)] = attempts.map Attempt.job ++ later ∧
      ((Kennel.unlucky.withInterval 0).run Kennel.session).log.map Event.entry =
        runLines 1 attempts later) ∧
    ((Kennel.unlucky.withInterval 0).run Kennel.session).log.filter
        (fun event => !event.isProgress) =
      ((Kennel.unlucky.withInterval 7).run Kennel.session).log.filter
        fun event => !event.isProgress := by
  obtain ⟨attempts, later, _, _, split, _, _, _, recounted, quiet⟩ :=
    log_told Kennel.session_ready Kennel.unlucky rfl
  exact ⟨Kennel.session_ready, rfl, ⟨attempts, later, split, (recounted 0).log⟩, quiet 0 7⟩

end Seeding
