/-
**A trace does not change the run.**

A view of a backend is faithful if it answers every call as the backend does. To put the view in
place of the backend then goes with every step of the engine (`mirror_seen`), so a whole run does on
the view what it does on the backend (`Agrees`, `run_seen`). The backend inside a traced one is such
a view, so a trace shows the calls that the run makes without it.

Main statement: `traced_run_blocks`, for every backend, every session that is ready, every policy
and every state of the source: the calls are the blocks of the attempts, in order.
-/
import Seeding.Proofs.Engine.Mirror
import Seeding.Proofs.Engine.Run
import Seeding.Proofs.Plan.Rows

namespace Seeding

/-- A view of a backend that answers every call as the backend does. -/
def Backend.Faithful {β γ : Type} [Backend β] [Backend γ] (view : β → γ) : Prop :=
  ∀ (request : Call) (backend : β), perform request (view backend) =
    ((perform request backend).1, view (perform request backend).2)

theorem Traced.inner_faithful {β : Type} [Backend β] :
    Backend.Faithful (Traced.inner : Traced β → β) := fun _ _ => rfl

/-- A faithful view notes what the backend notes. -/
theorem Backend.logged_seen {β γ : Type} [Backend β] [Backend γ] {view : β → γ}
    (faithful : Faithful view) (moments : List Moment) (backend : β) :
    logged moments (view backend) = logged moments backend := by
  induction moments generalizing backend with
  | nil => rfl
  | cons moment rest ih =>
    cases moment with
    | note event => exact congrArg (Event.run event :: ·) (ih backend)
    | call request => rw [logged, faithful, ih, logged]

namespace Engine

section Agreement

variable {β γ σ α : Type} {view : β → γ}

/-- A desk with a view in place of the backend. -/
def Desk.seen (view : β → γ) (desk : Desk β σ) : Desk γ σ where
  backend := view desk.backend
  source := desk.source
  log := desk.log

/-- One computation does on the backend what the other does on the view. -/
def Agrees (view : β → γ) (fine : StateM (Desk β σ) α) (coarse : StateM (Desk γ σ) α) : Prop :=
  ∀ desk, coarse (desk.seen view) = ((fine desk).1, (fine desk).2.seen view)

/-- A faithful view goes with every step of the engine. -/
theorem mirror_seen [Backend β] [Backend γ] [WordSource σ] (faithful : Backend.Faithful view) :
    Mirror (Desk.seen view : Desk β σ → Desk γ σ) where
  note event desk := rfl
  draw job desk := rfl
  call request desk := by
    rw [call_apply, call_apply]
    show (_, Desk.mk _ _ _) = _
    simp only [Desk.seen, faithful request desk.backend]

theorem agrees_runJobs [Backend β] [Backend γ] [WordSource σ] (faithful : Backend.Faithful view)
    (policy : FailurePolicy) (interval : Nat) (jobs : List Job) :
    Agrees view (runJobs policy interval jobs : StateM (Desk β σ) _)
      (runJobs policy interval jobs) :=
  (mirror_seen faithful).runJobs policy interval jobs

end Agreement

end Engine

/-! ### Runs -/

section Runs

variable {β γ σ : Type}

/-- A seeder with a view in place of its backend. -/
def Seeder.seen (view : β → γ) (seeder : Seeder β σ) : Seeder γ σ where
  backend := view seeder.backend
  source := seeder.source
  policy := seeder.policy
  interval := seeder.interval
  positive := seeder.positive

/-- A run with a view in place of its backend. -/
def Run.seen (view : β → γ) (run : Run β σ) : Run γ σ where
  result := run.result
  log := run.log
  seeder := run.seeder.seen view

/-- A seeder with a trace of the calls to its backend. -/
def Seeder.traced (seeder : Seeder β σ) : Seeder (Traced β) σ where
  backend := { inner := seeder.backend }
  source := seeder.source
  policy := seeder.policy
  interval := seeder.interval
  positive := seeder.positive

variable [Backend β] [Backend γ] [WordSource σ]

/-- A run on a faithful view is the view of the run. -/
theorem run_seen {view : β → γ} (faithful : Backend.Faithful view) (session : Session)
    (seeder : Seeder β σ) : (seeder.seen view).run session = (seeder.run session).seen view := by
  unfold Seeder.run
  cases session.jobs with
  | error unready => rfl
  | ok jobs =>
    have same := Engine.agrees_runJobs faithful seeder.policy seeder.interval jobs
      { backend := seeder.backend, source := seeder.source }
    simp only [Engine.Desk.seen] at same
    simp only [Seeder.seen, Run.seen, same]

/-- A run is the traced run with the backend inside in place of the traced one. -/
theorem Seeder.run_eq_seen (session : Session) (seeder : Seeder β σ) :
    seeder.run session = (seeder.traced.run session).seen Traced.inner :=
  run_seen Traced.inner_faithful session seeder.traced

/-- **The calls of a run are the blocks of its attempts.** Whatever the backend answers, a run of a
session that is ready attempts its jobs in order, as far as the policy lets it, each from the source
that the one before has left. The calls, as a trace shows them without changing the run, are the
blocks of the attempts and nothing else. The report has the outcomes of the attempts, which are told
by their blocks, and the skipped jobs after them. -/
theorem traced_run_blocks {session : Session} {jobs : List Job} (ready : session.jobs = .ok jobs)
    (seeder : Seeder β σ) :
    seeder.run session = (seeder.traced.run session).seen Traced.inner ∧
    ∃ (attempts : List (Attempt σ)) (later : List Job),
      jobs = attempts.map Attempt.job ++ later ∧
      Halting seeder.policy attempts later ∧
      Chained seeder.source attempts (seeder.run session).seeder.source ∧
      (seeder.traced.run session).seeder.backend.trace = attempts.flatMap Attempt.block ∧
      (seeder.run session).result =
        Report.result { tables := attempts.map Attempt.result ++ later.map Job.skipped } ∧
      ∀ attempt ∈ attempts,
        (∀ rows, attempt.outcome = .committed rows ↔
          rows = attempt.job.rows ∧ (.commit, .ok ()) ∈ attempt.block) ∧
        (∀ row error, attempt.outcome = .rolledBack (some row) error ↔
          ∃ record, attempt.block[row]? = some (.insert attempt.job.table record, .error error)) ∧
        ∀ error, attempt.outcome = .rolledBack none error ↔
          (.begin, .error error) ∈ attempt.block ∨ (.commit, .error error) ∈ attempt.block := by
  have same := seeder.run_eq_seen session
  obtain ⟨attempts, later, split, halting, result, answers, chained⟩ :=
    seeder.traced.run_attempts ready
  refine ⟨same, attempts, later, split, halting, ?_, ?_, ?_, fun attempt _ => ⟨?_, ?_, ?_⟩⟩
  · rw [same]
    exact chained
  · exact (Traced.of_answers answers).1
  · rw [same]
    exact result
  · exact attempt.outcome_eq_committed_iff
  · exact attempt.outcome_eq_rolledBack_some_iff
  · exact attempt.outcome_eq_rolledBack_none_iff

end Runs

/-- A seeder of an empty store whose second insertion of a dog is declared to fail. -/
def Kennel.seeder : Seeder Store Script where
  backend := { faults := { inserts := [("dogs", 2)] } }
  source := { words := [1, 2, 3] }
  interval := 2
  positive := Nat.two_pos

/-- The calls of a run that fills the table of dogs twice. -/
theorem traced_run_blocks_dogs :
    Kennel.session.jobs = .ok [Kennel.job 3 (by decide), Kennel.job 2 (by decide)] ∧
    ∃ (attempts : List (Attempt Script)) (later : List Job),
      [Kennel.job 3 (by decide), Kennel.job 2 (by decide)] = attempts.map Attempt.job ++ later ∧
      (Kennel.seeder.traced.run Kennel.session).seeder.backend.trace =
        attempts.flatMap Attempt.block := by
  obtain ⟨_, attempts, later, split, _, _, trace, _⟩ :=
    traced_run_blocks Kennel.session_ready Kennel.seeder
  exact ⟨Kennel.session_ready, attempts, later, split, trace⟩

end Seeding
