/-
**What a run does that can be seen.**

The engine notes events and makes calls. Both, in order, are its proceedings: a list of moments.
They tell the backend that is left and the log: noted events stand where they were noted, and what
the backend says of itself stands where it was called (`Backend.logged`). What is noted after a call
depends on the call, its result and its number in its transaction only (`Job.notes`), so the
proceedings of a table are told by its exchanges with the backend (`Job.proceedings`). Every step of
the engine advances its desk by the moments of the step (`Desk.advance`).
-/
import Seeding.Engine
import Seeding.Proofs.Backend.Calls
import Seeding.Proofs.State

namespace Seeding

/-! ### Moments -/

/-- An event that is noted, or a call. -/
inductive Moment where
  | note (event : RunEvent)
  | call (request : Call)

/-- The call of a moment. -/
def Moment.call? : Moment → Option Call
  | .note _ => none
  | .call request => some request

namespace Backend

variable {β : Type} [Backend β]

/-- The backend after the calls of some moments. -/
def afterMoments (moments : List Moment) (backend : β) : β :=
  after (moments.filterMap Moment.call?) backend

/-- The log of some moments: the events that are noted, and those that the backend notes itself. -/
def logged : List Moment → β → List Event
  | [], _ => []
  | .note event :: rest, backend => .run event :: logged rest backend
  | .call request :: rest, backend =>
    (perform request backend).1.log ++ logged rest (perform request backend).2

/-- Moments follow one another. -/
theorem afterMoments_append (first second : List Moment) (backend : β) :
    afterMoments (first ++ second) backend = afterMoments second (afterMoments first backend) := by
  rw [afterMoments, List.filterMap_append, after_append]
  rfl

theorem logged_append (first second : List Moment) (backend : β) :
    logged (first ++ second) backend =
      logged first backend ++ logged second (afterMoments first backend) := by
  induction first generalizing backend with
  | nil => rfl
  | cons moment rest ih =>
    cases moment with
    | note event => exact congrArg (Event.run event :: ·) (ih backend)
    | call request =>
      rw [List.cons_append, logged, ih, logged, List.append_assoc]
      rfl

/-- Notes leave the backend as it is and are logged as they are. -/
theorem afterMoments_notes (events : List RunEvent) (backend : β) :
    afterMoments (events.map .note) backend = backend := by
  rw [afterMoments, List.filterMap_map]
  have none : (events.filterMap (Moment.call? ∘ Moment.note)) = [] := by
    simp [Moment.call?]
  rw [none]
  rfl

theorem logged_notes (events : List RunEvent) (backend : β) :
    logged (events.map .note) backend = events.map .run := by
  induction events with
  | nil => rfl
  | cons event rest ih => exact congrArg (Event.run event :: ·) ih

end Backend

/-! ### Proceedings of a table -/

namespace Job

/-- What is noted after a call with its result. The begin of a transaction has the number zero, and
each insertion that of its row. -/
def notes (interval : Nat) (job : Job) (number : Nat) : Exchange → List RunEvent
  | (.begin, .ok ()) => []
  | (.begin, .error error) => [.beginFailed job.table.name error]
  | (.insert _ _, .ok ()) =>
    if number % interval = 0 then [.progress number job.rows job.table.name] else []
  | (.insert _ _, .error error) => [.rowFailed number job.rows job.table.name error]
  | (.commit, .ok ()) => [.tableDone job.rows job.table.name]
  | (.commit, .error error) => [.commitFailed job.table.name error]
  | (.rollback, .ok ()) => []
  | (.rollback, .error error) => [.rollbackFailed job.table.name error]

/-- The proceedings of exchanges, of which the first has this number. -/
def proceedings (interval : Nat) (job : Job) : (number : Nat) → List Exchange → List Moment
  | _, [] => []
  | number, exchange :: rest =>
    .call exchange.1 :: (job.notes interval number exchange).map .note ++
      job.proceedings interval (number + 1) rest

theorem proceedings_append (interval : Nat) (job : Job) (number : Nat)
    (first second : List Exchange) :
    job.proceedings interval number (first ++ second) =
      job.proceedings interval number first ++
        job.proceedings interval (number + first.length) second := by
  induction first generalizing number with
  | nil => rfl
  | cons exchange rest ih =>
    have places : number + 1 + rest.length = number + (exchange :: rest).length := by
      rw [List.length_cons]
      omega
    rw [List.cons_append, proceedings, ih, places, proceedings, List.append_assoc]

/-- The calls of proceedings are those of the exchanges. -/
theorem calls_proceedings (interval : Nat) (job : Job) (number : Nat)
    (exchanges : List Exchange) :
    (job.proceedings interval number exchanges).filterMap Moment.call? =
      exchanges.map Prod.fst := by
  induction exchanges generalizing number with
  | nil => rfl
  | cons exchange rest ih =>
    have none : ((job.notes interval number exchange).map Moment.note).filterMap Moment.call? =
        [] := by
      rw [List.filterMap_map]
      simp [Moment.call?]
    rw [proceedings, List.filterMap_append, ih]
    show exchange.1 :: ((job.notes interval number exchange).map Moment.note).filterMap
      Moment.call? ++ _ = _
    rw [none]
    rfl

theorem afterMoments_proceedings {β : Type} [Backend β] (interval : Nat) (job : Job) (number : Nat)
    (exchanges : List Exchange) (backend : β) :
    Backend.afterMoments (job.proceedings interval number exchanges) backend =
      Backend.after (exchanges.map Prod.fst) backend := by
  rw [Backend.afterMoments, calls_proceedings]

/-- The log of proceedings, exchange by exchange: what the backend notes of the call and then what
is noted after it. -/
theorem logged_proceedings_cons {β : Type} [Backend β] (interval : Nat) (job : Job) (number : Nat)
    (exchange : Exchange) (rest : List Exchange) (backend : β) :
    Backend.logged (job.proceedings interval number (exchange :: rest)) backend =
      (Backend.perform exchange.1 backend).1.log ++
        ((job.notes interval number exchange).map .run ++
          Backend.logged (job.proceedings interval (number + 1) rest)
            (Backend.perform exchange.1 backend).2) := by
  rw [proceedings, List.cons_append, Backend.logged, Backend.logged_append, Backend.logged_notes,
    Backend.afterMoments_notes]

end Job

/-! ### Steps of the engine -/

namespace Engine

section Steps

variable {β σ : Type}

theorem note_apply (event : RunEvent) (desk : Desk β σ) :
    note event desk = ((), { desk with log := desk.log.push (.run event) }) := rfl

theorem draw_apply [WordSource σ] (job : Job) (desk : Desk β σ) :
    draw job desk =
      ((job.bindings.draw desk.source).1,
        { desk with source := (job.bindings.draw desk.source).2 }) := rfl

variable [Backend β]

theorem call_apply (request : Call) (desk : Desk β σ) :
    call request desk =
      ((Backend.perform request desk.backend).1.result,
        { desk with
          backend := (Backend.perform request desk.backend).2
          log := desk.log ++ (Backend.perform request desk.backend).1.log }) := rfl

/-- A desk after some moments, with the source that is left. -/
def Desk.advance (moments : List Moment) (source : σ) (desk : Desk β σ) : Desk β σ where
  backend := Backend.afterMoments moments desk.backend
  source
  log := desk.log ++ Backend.logged moments desk.backend

@[simp] theorem advance_backend (moments : List Moment) (source : σ) (desk : Desk β σ) :
    (desk.advance moments source).backend = Backend.afterMoments moments desk.backend := rfl

@[simp] theorem advance_source (moments : List Moment) (source : σ) (desk : Desk β σ) :
    (desk.advance moments source).source = source := rfl

@[simp] theorem advance_log (moments : List Moment) (source : σ) (desk : Desk β σ) :
    (desk.advance moments source).log.toList =
      desk.log.toList ++ Backend.logged moments desk.backend :=
  Array.toList_appendList

theorem advance_nil (source : σ) (desk : Desk β σ) :
    desk.advance [] source = { desk with source } := by
  have same : desk.log ++ Backend.logged [] desk.backend = desk.log :=
    Array.toList_inj.mp (by simp [Backend.logged])
  rw [Desk.advance, same]
  rfl

theorem advance_advance (first second : List Moment) (source source' : σ) (desk : Desk β σ) :
    (desk.advance first source).advance second source' =
      desk.advance (first ++ second) source' := by
  have joined : desk.log ++ Backend.logged first desk.backend ++
      Backend.logged second (Backend.afterMoments first desk.backend) =
        desk.log ++ Backend.logged (first ++ second) desk.backend :=
    Array.toList_inj.mp (by simp [Backend.logged_append])
  simp only [Desk.advance, Backend.afterMoments_append, joined]

theorem note_advance (event : RunEvent) (desk : Desk β σ) :
    note event desk = ((), desk.advance [.note event] desk.source) := by
  have pushed : desk.log.push (.run event) =
      desk.log ++ Backend.logged [.note event] desk.backend :=
    Array.toList_inj.mp (by simp [Backend.logged])
  rw [note_apply, pushed]
  rfl

theorem draw_advance [WordSource σ] (job : Job) (desk : Desk β σ) :
    draw job desk = ((job.bindings.draw desk.source).1,
      desk.advance [] (job.bindings.draw desk.source).2) := by
  rw [draw_apply, advance_nil]

theorem call_advance (request : Call) (desk : Desk β σ) :
    call request desk = ((Backend.perform request desk.backend).1.result,
      desk.advance [.call request] desk.source) := by
  have told : desk.log ++ (Backend.perform request desk.backend).1.log =
      desk.log ++ Backend.logged [.call request] desk.backend :=
    Array.toList_inj.mp (by simp [Backend.logged])
  rw [call_apply, told]
  rfl

theorem notes_advance {α : Type} (items : List α) (event : α → RunEvent) (desk : Desk β σ) :
    (items.forM fun item => note (event item)) desk =
      ((), desk.advance ((items.map event).map .note) desk.source) := by
  induction items generalizing desk with
  | nil => exact congrArg (Prod.mk ()) (advance_nil desk.source desk).symm
  | cons item rest ih =>
    show (rest.forM fun item => note (event item)) (note (event item) desk).2 = _
    rw [note_advance, ih, advance_source, advance_advance]
    rfl

end Steps

end Engine

end Seeding
