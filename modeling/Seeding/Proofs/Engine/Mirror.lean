/-
**Runs at the image of a desk.**

A run reads and changes its desk in three ways only: it notes an event, draws a record and makes a
call. A map of desks that goes with these three (`Mirror`) therefore goes with every step of the
engine, and with a whole run: the run at the image of a desk has the same result and ends at the
image of the desk where the run itself ends (`Mirror.runJobs`).

What was noted before is such a map (`mirror_after`): a run does not look at its log. So a run is
told by the tables that it fills from an empty log (`Seeder.run_tables`).
-/
import Seeding.Proofs.Engine.Run

namespace Seeding

namespace Engine

section Steps

variable {β γ σ α δ : Type} {image : Desk β σ → Desk γ σ}

/-- One computation does at the image of a desk what the other does at the desk. -/
def Mirrors (image : Desk β σ → Desk γ σ) (step : StateM (Desk β σ) α)
    (step' : StateM (Desk γ σ) α) : Prop :=
  ∀ desk, step' (image desk) = ((step desk).1, image (step desk).2)

theorem mirrors_pure (value : α) :
    Mirrors image (pure value : StateM (Desk β σ) α) (pure value) := fun _ => rfl

theorem Mirrors.bind {step : StateM (Desk β σ) α} {step' : StateM (Desk γ σ) α}
    {next : α → StateM (Desk β σ) δ} {next' : α → StateM (Desk γ σ) δ}
    (first : Mirrors image step step')
    (others : ∀ value, Mirrors image (next value) (next' value)) :
    Mirrors image (step >>= next) (step' >>= next') := by
  intro desk
  rw [State.bind_apply, State.bind_apply, first desk]
  exact others _ _

end Steps

section Mirrors

variable {β γ σ α : Type} [Backend β] [Backend γ] [WordSource σ] {image : Desk β σ → Desk γ σ}

/-- A map of desks that goes with the steps which read or change a desk. -/
structure Mirror (image : Desk β σ → Desk γ σ) : Prop where
  note : ∀ event, Mirrors image (note event) (note event)
  draw : ∀ job, Mirrors image (draw job) (draw job)
  call : ∀ request, Mirrors image (call request) (call request)

namespace Mirror

variable (mirror : Mirror image)
include mirror

theorem notes (items : List α) (event : α → RunEvent) :
    Mirrors image (items.forM fun item => Engine.note (event item))
      (items.forM fun item => Engine.note (event item)) := by
  induction items with
  | nil => exact mirrors_pure ()
  | cons item rest ih => exact (mirror.note _).bind fun _ => ih

theorem conclude (report : Report) :
    Mirrors image (Engine.conclude report) (Engine.conclude report) := by
  unfold Engine.conclude
  by_cases succeeded : report.succeeded = true
  · rw [if_pos succeeded, if_pos succeeded]
    exact (mirror.note _).bind fun _ => mirrors_pure _
  · rw [if_neg succeeded, if_neg succeeded]
    exact (mirror.notes report.failed fun table => .notSeeded table.table).bind
      fun _ => mirrors_pure _

theorem abandon (table : Table) :
    Mirrors image (Engine.abandon table) (Engine.abandon table) := by
  unfold Engine.abandon
  refine (mirror.call .rollback).bind fun result => ?_
  cases result with
  | error error => exact mirror.note _
  | ok _ => exact mirrors_pure _

theorem commit (table : Table) (rows : Nat) :
    Mirrors image (Engine.commit table rows) (Engine.commit table rows) := by
  unfold Engine.commit
  refine (mirror.call .commit).bind fun result => ?_
  cases result with
  | error error => exact (mirror.note _).bind fun _ => mirrors_pure _
  | ok _ => exact (mirror.note _).bind fun _ => mirrors_pure _

theorem insertRows (interval : Nat) (job : Job) (left : Nat) :
    Mirrors image (Engine.insertRows interval job left) (Engine.insertRows interval job left) := by
  induction left with
  | zero => exact mirrors_pure _
  | succ left ih =>
    rw [Engine.insertRows, Engine.insertRows]
    refine (mirror.draw job).bind fun record => ?_
    refine (mirror.call _).bind fun result => ?_
    cases result with
    | error error =>
      exact (mirror.note _).bind fun _ => (mirror.abandon job.table).bind fun _ => mirrors_pure _
    | ok _ =>
      by_cases noted : (job.rows - left) % interval = 0
      · simp only [if_pos noted]
        exact (mirror.note _).bind fun _ => ih
      · simp only [if_neg noted]
        exact ih

theorem fillTable (interval : Nat) (job : Job) :
    Mirrors image (Engine.fillTable interval job) (Engine.fillTable interval job) := by
  unfold Engine.fillTable
  refine (mirror.note _).bind fun _ => (mirror.call .begin).bind fun result => ?_
  cases result with
  | error error => exact (mirror.note _).bind fun _ => mirrors_pure _
  | ok _ =>
    refine (mirror.insertRows interval job job.rows).bind fun failed => ?_
    cases failed with
    | some failure => exact mirrors_pure _
    | none => exact mirror.commit job.table job.rows

theorem fillTables (policy : FailurePolicy) (interval : Nat) (stopped : Bool) (jobs : List Job) :
    Mirrors image (Engine.fillTables policy interval stopped jobs)
      (Engine.fillTables policy interval stopped jobs) := by
  induction jobs generalizing stopped with
  | nil => exact mirrors_pure _
  | cons job rest ih =>
    unfold Engine.fillTables
    cases stopped with
    | true =>
      refine ((mirror.note _).bind fun _ => mirrors_pure _).bind fun outcome => ?_
      exact (ih _).bind fun _ => mirrors_pure _
    | false =>
      refine (mirror.fillTable interval job).bind fun outcome => ?_
      exact (ih _).bind fun _ => mirrors_pure _

theorem runJobs (policy : FailurePolicy) (interval : Nat) (jobs : List Job) :
    Mirrors image (Engine.runJobs policy interval jobs) (Engine.runJobs policy interval jobs) := by
  unfold Engine.runJobs
  refine (mirror.note _).bind fun _ => ?_
  exact (mirror.fillTables policy interval false jobs).bind fun _ => mirror.conclude _

end Mirror

end Mirrors

section Notes

variable {β σ : Type}

/-- A desk with other notes before its own. -/
def Desk.after (earlier : Array Event) (desk : Desk β σ) : Desk β σ :=
  { desk with log := earlier ++ desk.log }

/-- **What was noted before does not matter to a run**, and is kept. -/
theorem mirror_after [Backend β] [WordSource σ] (earlier : Array Event) :
    Mirror (Desk.after earlier : Desk β σ → Desk β σ) where
  note event desk := by
    simp only [note_apply, Desk.after, Array.append_push]
  draw job desk := rfl
  call request desk := by
    have joined (answered : List Event) :
        earlier ++ desk.log ++ answered = earlier ++ (desk.log ++ answered) :=
      Array.toList_inj.mp (by simp)
    simp only [call_apply, Desk.after, joined]

end Notes

end Engine

/-! ### Runs -/

section Runs

variable {β σ : Type}

namespace Seeder

/-- The desk at which a run starts. -/
def desk (seeder : Seeder β σ) : Engine.Desk β σ where
  backend := seeder.backend
  source := seeder.source

/-- The seeder with the backend and the source of a desk. -/
def leaving (finished : Engine.Desk β σ) (seeder : Seeder β σ) : Seeder β σ :=
  { seeder with backend := finished.backend, source := finished.source }

variable [Backend β] [WordSource σ]

/-- The tables that a seeder fills for a list of jobs, and the desk after them. -/
def filled (jobs : List Job) (seeder : Seeder β σ) : List TableResult × Engine.Desk β σ :=
  Engine.fillTables seeder.policy seeder.interval false jobs seeder.desk

/-- A run of a session that is ready fills the tables of its jobs: they make its report, and they
leave the backend and the source as the run does. -/
theorem run_tables {session : Session} {jobs : List Job} (ready : session.jobs = .ok jobs)
    (seeder : Seeder β σ) :
    (seeder.run session).result = Report.result { tables := (seeder.filled jobs).1 } ∧
      (seeder.run session).seeder = seeder.leaving (seeder.filled jobs).2 := by
  have started := (Engine.mirror_after #[.run (.started jobs.length)]).fillTables
    seeder.policy seeder.interval false jobs seeder.desk
  obtain ⟨finished, concluded, backend, source⟩ :=
    Engine.conclude_frame { tables := (seeder.filled jobs).1 }
      ((seeder.filled jobs).2.after #[.run (.started jobs.length)])
  have ran : Engine.runJobs seeder.policy seeder.interval jobs seeder.desk =
      (Report.result { tables := (seeder.filled jobs).1 }, finished) := by
    rw [← concluded]
    unfold Engine.runJobs
    rw [State.bind_apply, Engine.note_apply, State.bind_apply]
    exact congrArg (fun answer => Engine.conclude { tables := answer.1 } answer.2) started
  rw [seeder.run_of_ready ready]
  refine ⟨congrArg Prod.fst ran, ?_⟩
  show seeder.leaving (Engine.runJobs seeder.policy seeder.interval jobs seeder.desk).2 = _
  rw [ran, leaving, leaving, backend, source]
  rfl

end Seeder

end Runs

end Seeding
