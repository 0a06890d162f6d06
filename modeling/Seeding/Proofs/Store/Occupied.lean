/-
**Runs on a store whose transaction is open.**

The store opens one transaction at a time. A run that starts while somebody else's is open has its
first begin refused, and every begin after it: an attempt that was refused draws nothing and makes
no other call, above all no rollback. So the run leaves the store and the source as they were, with
the staged rows, the counts of attempts and the number of begins.

Main statement: `open_transaction_untouched`, for every session that is ready, every policy, every
state of the store with an open transaction and every state of the source.
-/
import Seeding.Proofs.Store.Alike

namespace Seeding

/-! ### Attempts that were refused -/

/-- The entry of a job that a store has turned away because of an open transaction. -/
def Job.turnedAway (job : Job) : TableResult where
  table := job.table.name
  requested := job.rows
  outcome := .rolledBack none .transactionAlreadyOpen

/-- How many of so many jobs a run attempts if all of them fail. -/
def FailurePolicy.reach : FailurePolicy → Nat → Nat
  | .collectAll, jobs => jobs
  | .stopOnFirst, jobs => min jobs 1

section Refusals

variable {σ : Type} {attempt : Attempt σ} {attempts : List (Attempt σ)}

theorem Attempt.result_of_refused (refused : attempt.ending = .refused .transactionAlreadyOpen) :
    attempt.result = attempt.job.turnedAway := by
  obtain ⟨job, source, ending⟩ := attempt
  change ending = (.refused .transactionAlreadyOpen : Ending job.rows) at refused
  subst refused
  rfl

theorem Attempt.isFailure_of_refused
    (refused : attempt.ending = .refused .transactionAlreadyOpen) :
    attempt.outcome.isFailure = true := by
  obtain ⟨job, source, ending⟩ := attempt
  change ending = (.refused .transactionAlreadyOpen : Ending job.rows) at refused
  subst refused
  rfl

/-- How far a run comes if all its attempts fail. -/
theorem Halting.length_attempts {policy : FailurePolicy} {later : List Job}
    (halting : Halting policy attempts later)
    (failing : ∀ attempt ∈ attempts, attempt.outcome.isFailure = true) :
    attempts.length = policy.reach (attempts.length + later.length) := by
  cases policy with
  | collectAll =>
    rw [halting.later_eq_nil rfl]
    rfl
  | stopOnFirst =>
    cases attempts with
    | nil =>
      have none : later = [] := halting.later_eq_nil_of_success (by simp)
      rw [none]
      rfl
    | cons attempt rest =>
      -- an attempt before the last one would have to succeed
      have alone : rest = [] := by
        by_contra others
        obtain ⟨second, tail, rfl⟩ := List.exists_cons_of_ne_nil others
        have success := halting.continued rfl attempt List.mem_cons_self
        rw [failing attempt List.mem_cons_self] at success
        cases success
      rw [alone, FailurePolicy.reach, List.length_singleton]
      omega

variable [WordSource σ]

theorem Attempt.block_of_refused (refused : attempt.ending = .refused .transactionAlreadyOpen) :
    attempt.block = [(.begin, .error .transactionAlreadyOpen)] := by
  unfold block
  rw [refused]

/-- An attempt that was refused draws nothing. -/
theorem Attempt.left_of_refused (refused : attempt.ending = .refused .transactionAlreadyOpen) :
    attempt.left = attempt.source := by
  obtain ⟨job, source, ending⟩ := attempt
  change ending = (.refused .transactionAlreadyOpen : Ending job.rows) at refused
  subst refused
  rfl

theorem Chained.of_refused {first last : σ} (chained : Chained first attempts last)
    (refused : ∀ attempt ∈ attempts, attempt.ending = .refused .transactionAlreadyOpen) :
    last = first := by
  induction attempts generalizing first with
  | nil => exact chained.symm
  | cons attempt rest ih =>
    obtain ⟨source, later⟩ := chained
    obtain ⟨here, others⟩ := List.forall_mem_cons.mp refused
    rw [ih later others, Attempt.left_of_refused here, source]

theorem blocks_of_refused
    (refused : ∀ attempt ∈ attempts, attempt.ending = .refused .transactionAlreadyOpen) :
    attempts.flatMap Attempt.block =
      List.replicate attempts.length (.begin, .error .transactionAlreadyOpen) := by
  induction attempts with
  | nil => rfl
  | cons attempt rest ih =>
    obtain ⟨here, others⟩ := List.forall_mem_cons.mp refused
    rw [List.flatMap_cons, Attempt.block_of_refused here, ih others]
    rfl

end Refusals

/-! ### The commit that follows -/

namespace Store

variable {store : Store} {transaction : Transaction}

/-- A commit that is not declared to fail publishes the staged rows, each at the end of its
table. -/
theorem commit_publishes (opened : store.transaction = some transaction)
    (undeclared : ∀ row ∈ transaction.staged.toList, row.1 ∉ store.faults.commits) :
    store.commit.1.result = .ok () ∧ ∀ name, store.commit.2.rows name = store.rows name ++
      (transaction.staged.toList.filter fun row => row.1 = name).map Prod.snd := by
  have accepted : store.refusedCommit? transaction = none := by
    rw [refusedCommit?, Option.map_eq_none_iff, List.find?_eq_none]
    simpa using undeclared
  rw [commit_of_open opened accepted]
  exact ⟨rfl, store.committed.rows_addAll transaction.staged.toList⟩

end Store

/-! ### Runs -/

section Runs

variable {σ : Type} [WordSource σ] {session : Session} {jobs : List Job} {transaction : Transaction}

/-- The report of a run all of whose attempts are turned away. -/
def Report.turnedAway (policy : FailurePolicy) (jobs : List Job) : Report where
  tables := (jobs.take (policy.reach jobs.length)).map Job.turnedAway ++
    (jobs.drop (policy.reach jobs.length)).map Job.skipped

/-- A run that has a job does not succeed if all its attempts are turned away. -/
theorem Report.result_turnedAway (policy : FailurePolicy) (busy : jobs ≠ []) :
    (turnedAway policy jobs).result = .error (.tablesFailed (turnedAway policy jobs)) := by
  obtain ⟨job, rest, rfl⟩ := List.exists_cons_of_ne_nil busy
  have tried : 0 < policy.reach (rest.length + 1) := by
    cases policy <;> simp [FailurePolicy.reach]
  have first : job.turnedAway ∈ (turnedAway policy (job :: rest)).tables := by
    refine List.mem_append_left _ (List.mem_map_of_mem ?_)
    rw [List.length_cons, List.take_cons tried]
    exact List.mem_cons_self
  exact Report.result_eq_error_iff.mpr ⟨job.turnedAway, first, rfl⟩

/-- A run on a store whose transaction is open is refused all its attempts. -/
theorem Seeder.run_of_open (ready : session.jobs = .ok jobs) (seeder : Seeder Store σ)
    (opened : seeder.backend.transaction = some transaction) :
    (seeder.run session).result = (Report.turnedAway seeder.policy jobs).result ∧
    seeder.exchanged session = List.replicate (seeder.policy.reach jobs.length)
      (.begin, .error .transactionAlreadyOpen) ∧
    (seeder.run session).seeder = seeder := by
  have same := seeder.run_eq_seen session
  obtain ⟨attempts, later, rfl, halting, result, answers, chained⟩ :=
    seeder.traced.run_attempts ready
  obtain ⟨trace, inside⟩ := Traced.of_answers answers
  obtain ⟨refused, store⟩ := Store.answers_blocks_of_open attempts opened inside
  have reached := halting.length_attempts fun attempt member =>
    attempt.isFailure_of_refused (refused attempt member)
  have number : seeder.policy.reach (attempts.map Attempt.job ++ later).length =
      (attempts.map Attempt.job).length := by
    rw [List.length_append, List.length_map]
    exact reached.symm
  have tables : attempts.map Attempt.result = (attempts.map Attempt.job).map Job.turnedAway := by
    rw [List.map_map]
    exact List.map_congr_left fun attempt member =>
      attempt.result_of_refused (refused attempt member)
  have backend : (seeder.run session).seeder.backend = seeder.backend := by
    rw [same]
    exact store
  have source : (seeder.run session).seeder.source = seeder.source := by
    rw [same]
    exact chained.of_refused refused
  refine ⟨?_, ?_, ?_⟩
  · rw [same, Report.turnedAway, number, List.take_left, List.drop_left, ← tables]
    exact result
  · rw [number, List.length_map, ← blocks_of_refused refused]
    exact trace
  · rw [seeder.run_seeder session, backend, source]

end Runs

/-- **Somebody else's transaction is left alone.** A run of a session that is ready and has a job,
on a store whose transaction is open, fails: each job that the policy lets it attempt is turned away
and the others are skipped. It only asks for a transaction once per attempt, and the seeder after it
is the seeder before it, with the whole store and the source. So a commit that follows publishes
just the rows that were staged before the run, and after any calls that close the transaction
another run goes as if this one had not happened. -/
theorem open_transaction_untouched {σ : Type} [WordSource σ] {session : Session} {jobs : List Job}
    (ready : session.jobs = .ok jobs) (busy : jobs ≠ []) (seeder : Seeder Store σ)
    {transaction : Transaction} (opened : seeder.backend.transaction = some transaction) :
    let finished := (seeder.run session).seeder
    (seeder.run session).result =
      .error (.tablesFailed (.turnedAway seeder.policy jobs)) ∧
    seeder.exchanged session = List.replicate (seeder.policy.reach jobs.length)
      (.begin, .error .transactionAlreadyOpen) ∧
    finished = seeder ∧
    ((∀ row ∈ transaction.staged.toList, row.1 ∉ seeder.backend.faults.commits) →
      finished.backend.commit.1.result = .ok () ∧
      ∀ name, finished.backend.commit.2.rows name = seeder.backend.rows name ++
        (transaction.staged.toList.filter fun row => row.1 = name).map Prod.snd) ∧
    ∀ (closing : List Call) (next : Session),
      ({ finished with backend := Backend.after closing finished.backend }).run next =
        ({ seeder with backend := Backend.after closing seeder.backend }).run next := by
  intro finished
  obtain ⟨result, calls, untouched⟩ := seeder.run_of_open ready opened
  have same : finished = seeder := untouched
  refine ⟨?_, calls, same, fun undeclared => ?_, fun closing next => ?_⟩
  · rw [result, Report.result_turnedAway seeder.policy busy]
  · rw [same]
    exact Store.commit_publishes opened undeclared
  · rw [same]

/-- The record that somebody has staged. -/
def Kennel.rex : Record := Record.empty.set "name" (.text "Rex")

/-- A seeder of a store in which somebody has staged a dog. -/
def Kennel.occupied : Seeder Store Script where
  backend := {
    transaction := some { staged := #[("dogs", Kennel.rex)], attempts := [("dogs", 1)] }
    begins := 1 }
  source := { words := [1, 2, 3] }
  policy := .stopOnFirst
  interval := 2
  positive := Nat.two_pos

/-- A run is turned away by the store in which a dog is staged, and the dog is committed after
it. -/
theorem open_transaction_untouched_dogs :
    Kennel.session.jobs = .ok [Kennel.job 3 (by decide), Kennel.job 2 (by decide)] ∧
    [Kennel.job 3 (by decide), Kennel.job 2 (by decide)] ≠ [] ∧
    Kennel.occupied.backend.transaction =
      some { staged := #[("dogs", Kennel.rex)], attempts := [("dogs", 1)] } ∧
    (Kennel.occupied.run Kennel.session).result = .error (.tablesFailed { tables := [
      { table := "dogs", requested := 3, outcome := .rolledBack none .transactionAlreadyOpen },
      { table := "dogs", requested := 2, outcome := .skipped }] }) ∧
    (Kennel.occupied.run Kennel.session).seeder = Kennel.occupied ∧
    (Kennel.occupied.run Kennel.session).seeder.backend.commit.2.rows "dogs" = [Kennel.rex] := by
  obtain ⟨result, _, untouched, publishes, _⟩ := open_transaction_untouched
    Kennel.session_ready (List.cons_ne_nil _ _) Kennel.occupied rfl
  obtain ⟨_, rows⟩ := publishes (by decide)
  exact ⟨Kennel.session_ready, List.cons_ne_nil _ _, rfl, result, untouched, rows "dogs"⟩

end Seeding
