/-
**The transactions of runs.**

The block of an attempt opens a transaction and ends it, or fails to open one. It does so whatever
the answers are: a row that fails is followed by the rollback, which is not tried again if it fails,
and neither is a commit (`Attempt.block_fits`). So the calls of any sequence of runs fit one after
the other, and every backend that keeps its transaction admits them all (`Transactional.orderly`).

Main statement: `transactions_orderly`, for a client of any server and for the store in memory with
any declared failures, for every sequence of sessions and policies.
-/
import Seeding.Postgres.Scripted
import Seeding.Proofs.Backend.Transactions
import Seeding.Proofs.Engine.Composition

namespace Seeding

/-! ### Blocks -/

section Blocks

variable {σ : Type} [WordSource σ]

/-- Rows that are stored leave their transaction open. -/
theorem Job.stored_fits (job : Job) (records : List Record) :
    Fits true (job.stored records) true := by
  induction records with
  | nil => rfl
  | cons record rest ih => exact ⟨rfl, ih⟩

/-- **The block of an attempt opens a transaction and ends it**, or opens none. -/
theorem Attempt.block_fits (attempt : Attempt σ) : Fits false attempt.block false := by
  have stored := attempt.job.stored_fits attempt.drawn.1
  unfold block
  cases attempt.ending with
  | refused error => exact ⟨rfl, rfl⟩
  | broken before error answer =>
    exact ⟨rfl, fits_append.mpr ⟨true, stored, rfl, rfl, rfl⟩⟩
  | unconfirmed error => exact ⟨rfl, fits_append.mpr ⟨true, stored, rfl, rfl⟩⟩
  | committed => exact ⟨rfl, fits_append.mpr ⟨true, stored, rfl, rfl⟩⟩

/-- So do the blocks of attempts, one after the other. -/
theorem blocks_fit (attempts : List (Attempt σ)) :
    Fits false (attempts.flatMap Attempt.block) false := by
  induction attempts with
  | nil => rfl
  | cons attempt rest ih =>
    rw [List.flatMap_cons]
    exact fits_append.mpr ⟨false, attempt.block_fits, ih⟩

end Blocks

/-! ### Sequences of runs -/

namespace Seeder

variable {β γ σ : Type} [Backend β] [Backend γ] [WordSource σ]

/-- The seeder after runs of sessions, each under a policy of its own. -/
def runs (tasks : List (FailurePolicy × Session)) (seeder : Seeder β σ) : Seeder β σ :=
  tasks.foldl (fun seeder task => ((seeder.withPolicy task.1).run task.2).seeder) seeder

/-- Runs on a faithful view are the view of the runs. -/
theorem runs_seen {view : β → γ} (faithful : Backend.Faithful view)
    (tasks : List (FailurePolicy × Session)) (seeder : Seeder β σ) :
    (seeder.seen view).runs tasks = (seeder.runs tasks).seen view := by
  induction tasks generalizing seeder with
  | nil => rfl
  | cons task rest ih =>
    have first := congrArg Run.seeder (run_seen faithful task.2 (seeder.withPolicy task.1))
    show ((((seeder.withPolicy task.1).seen view).run task.2).seeder).runs rest = _
    rw [first]
    exact ih _

/-- The calls for some tables are the blocks of attempts. -/
theorem filled_answers (jobs : List Job) (seeder : Seeder β σ) :
    ∃ attempts : List (Attempt σ), Backend.Answers seeder.backend
      (attempts.flatMap Attempt.block) (seeder.filled jobs).2.backend := by
  obtain ⟨attempts, later, finished, _, _, filled, answers, _⟩ :=
    Engine.fillTables_attempts seeder.policy seeder.interval jobs seeder.desk
  refine ⟨attempts, ?_⟩
  rw [Seeder.filled, filled]
  exact answers

/-- The calls of a run are the blocks of attempts; a session that is not ready has none. -/
theorem run_answers (session : Session) (seeder : Seeder β σ) :
    ∃ attempts : List (Attempt σ), Backend.Answers seeder.backend
      (attempts.flatMap Attempt.block) (seeder.run session).seeder.backend := by
  cases ready : session.jobs with
  | error unready =>
    rw [seeder.run_of_unready ready]
    exact ⟨[], rfl⟩
  | ok jobs =>
    rw [(seeder.run_tables ready).2]
    exact seeder.filled_answers jobs

/-- The calls of a sequence of runs are the blocks of attempts. -/
theorem runs_answers (tasks : List (FailurePolicy × Session)) (seeder : Seeder β σ) :
    ∃ attempts : List (Attempt σ), Backend.Answers seeder.backend
      (attempts.flatMap Attempt.block) (seeder.runs tasks).backend := by
  induction tasks generalizing seeder with
  | nil => exact ⟨[], rfl⟩
  | cons task rest ih =>
    obtain ⟨attempts, first⟩ := (seeder.withPolicy task.1).run_answers task.2
    obtain ⟨others, later⟩ := ih ((seeder.withPolicy task.1).run task.2).seeder
    refine ⟨attempts ++ others, ?_⟩
    rw [List.flatMap_append]
    exact Backend.answers_append.mpr ⟨_, first, later⟩

/-- What a seeder does with the transactions of its backend in a sequence of runs. -/
structure Orderly (isOpen : β → Bool) (tasks : List (FailurePolicy × Session))
    (seeder : Seeder β σ) : Prop where
  /-- The runs are what they are without a trace. -/
  traced : seeder.runs tasks = (seeder.traced.runs tasks).seen Traced.inner
  /-- No call of the runs is refused because a transaction is open, or because none is. -/
  admitted : ∀ exchange ∈ (seeder.traced.runs tasks).backend.trace, exchange.Admitted
  /-- No transaction is open after the runs. -/
  closed : isOpen (seeder.runs tasks).backend = false
  /-- In a next run, none is open when its first tables are done; the others go on from there. -/
  between : ∀ (policy : FailurePolicy) (session : Session) (first second : List Job),
    session.jobs = .ok (first ++ second) →
      let next := (seeder.runs tasks).withPolicy policy
      let middle := next.filled first
      isOpen middle.2.backend = false ∧
        (next.run session).seeder = next.leaving (Engine.fillTables policy next.interval
          (Engine.stopsIn policy middle.1) second middle.2).2
  /-- At every moment of the runs, all transactions that were opened have ended but for the one that
  is open then. -/
  single : ∀ made, made <+: (seeder.traced.runs tasks).backend.trace →
    made.countP Exchange.opens = made.countP Exchange.ends +
      if isOpen (Backend.after (made.map Prod.fst) seeder.backend) then 1 else 0

end Seeder

section Orderly

variable {β σ : Type} [Backend β] [WordSource σ]

/-- A backend that keeps its transaction admits all calls of attempts and is idle after them. -/
theorem Backend.Transactional.admits_blocks {isOpen : β → Bool}
    (transactional : Transactional isOpen) {attempts : List (Attempt σ)} {backend last : β}
    (idle : isOpen backend = false)
    (answers : Answers backend (attempts.flatMap Attempt.block) last) :
    (∀ exchange ∈ attempts.flatMap Attempt.block, exchange.Admitted) ∧ isOpen last = false := by
  refine transactional.admits_all answers ?_
  rw [idle]
  exact blocks_fit attempts

/-- **A backend that keeps its transaction is used in order**, if none is open at the start. -/
theorem Backend.Transactional.orderly {isOpen : β → Bool} (transactional : Transactional isOpen)
    (tasks : List (FailurePolicy × Session)) (seeder : Seeder β σ)
    (idle : isOpen seeder.backend = false) : seeder.Orderly isOpen tasks := by
  have same : seeder.runs tasks = (seeder.traced.runs tasks).seen Traced.inner :=
    seeder.traced.runs_seen Traced.inner_faithful tasks
  obtain ⟨attempts, traced⟩ := seeder.traced.runs_answers tasks
  obtain ⟨trace, answers⟩ := Traced.of_answers traced
  have answers : Answers seeder.backend (attempts.flatMap Attempt.block)
      (seeder.runs tasks).backend := by
    rw [same]
    exact answers
  obtain ⟨admitted, closed⟩ := transactional.admits_blocks idle answers
  constructor
  · exact same
  · rw [trace]
    exact admitted
  · exact closed
  · intro policy session first second ready next middle
    obtain ⟨_, filled⟩ := next.filled_answers first
    refine ⟨(transactional.admits_blocks closed filled).2, ?_⟩
    rw [(next.run_tables ready).2, Seeder.filled, Engine.fillTables_append]
    rfl
  · rintro made ⟨rest, split⟩
    -- the calls made so far fit as well, and their balance is that of the backend they lead to
    have all : made ++ rest = attempts.flatMap Attempt.block := split.trans trace
    rw [← all] at answers
    obtain ⟨middle, answered, _⟩ := Backend.answers_append.mp answers
    obtain ⟨state, fits, _⟩ := fits_append.mp (all ▸ blocks_fit attempts)
    have now := (transactional.admits_all answered (idle ▸ fits)).2
    rw [Backend.after_of_answers answered, now, ← fits.balance, if_neg Bool.false_ne_true,
      Nat.zero_add]

end Orderly

/-- **The engine never misuses a transaction.** Take a client of any server, whatever the server
answers to each statement, or a store in memory with any declared failures, and let no transaction
be open. Over any sequence of runs, of any sessions and under any policies, no call is refused
because a transaction is open or because none is; none is open after a run or between two tables of
it; and at every moment at most one is. -/
theorem transactions_orderly {ς σ : Type} [Postgres.Server ς] [WordSource σ]
    (tasks : List (FailurePolicy × Session)) :
    (∀ seeder : Seeder (Postgres.Client ς) σ, seeder.backend.inTransaction = false →
      seeder.Orderly Postgres.Client.inTransaction tasks) ∧
    ∀ seeder : Seeder Store σ, seeder.backend.isOpen = false →
      seeder.Orderly Store.isOpen tasks :=
  ⟨Postgres.Client.transactional.orderly tasks, Store.transactional.orderly tasks⟩

namespace Kennel

/-- Two runs, of which the second stops at a failure. -/
def twice : List (FailurePolicy × Session) := [(.collectAll, session), (.stopOnFirst, session)]

/-- A seeder of a server that fails the second INSERT, and every COMMIT and ROLLBACK. -/
def stranded : Seeder (Postgres.Client Postgres.ScriptedServer) Script where
  backend := {
    server := {
      faults := [
        { kind := "INSERT", number := 2, message := "out of disk" },
        { kind := "ROLLBACK", number := 0, message := "out of disk" },
        { kind := "COMMIT", number := 0, message := "out of disk" }] } }
  source := { words := [1, 2, 3] }
  interval := 2
  positive := Nat.two_pos

end Kennel

/-- Of four tables of dogs one fails at a row and then at its rollback, two fail at their commit and
one is skipped. In memory, tables fail at their second dog. -/
theorem transactions_orderly_dogs :
    Kennel.stranded.backend.inTransaction = false ∧
    Kennel.stranded.Orderly Postgres.Client.inTransaction Kennel.twice ∧
    (Kennel.stranded.traced.runs Kennel.twice).backend.trace.length = 13 ∧
    Kennel.seeder.backend.isOpen = false ∧
    Kennel.seeder.Orderly Store.isOpen Kennel.twice := by
  obtain ⟨clients, stores⟩ :=
    @transactions_orderly Postgres.ScriptedServer Script _ _ Kennel.twice
  exact ⟨rfl, clients Kennel.stranded rfl, by decide +kernel, rfl, stores Kennel.seeder rfl⟩

end Seeding
