/-
**Attempts to fill a table.**

An attempt is a job with the state of the source before it and the way in which it ended. It tells
the block of exchanges with the backend (`block`), the outcome that is reported (`outcome`), what is
noted between the calls (`proceedings`) and the state in which it leaves the source (`left`).

Main statement: `fillTable_proceeds` — filling a table is an attempt, whatever the backend answers,
and which one it is depends neither on the interval between notes of progress nor on the earlier
log.
-/
import Seeding.Proofs.Engine.Proceedings

namespace Seeding

namespace Job

variable {σ : Type} [WordSource σ]

/-- The next records of a job, in the order in which they are drawn. -/
def records (job : Job) : (count : Nat) → StateM σ (List Record)
  | 0 => pure []
  | count + 1 => do
    let first ← job.bindings.draw
    let others ← job.records count
    return first :: others

/-- The insertions of records, all of them successful. -/
def stored (job : Job) (records : List Record) : List Exchange :=
  records.map fun record => (.insert job.table record, .ok ())

theorem length_records (job : Job) (count : Nat) (source : σ) :
    (job.records count source).1.length = count := by
  induction count generalizing source with
  | zero => rfl
  | succ count ih =>
    simp only [records, State.bind_apply, State.pure_apply, List.length_cons, ih]

/-- A failed insertion comes after those that were successful. -/
theorem failure_after_stored (job : Job) {records : List Record} {tail : List Exchange}
    {place : Nat} {call : Call} {error : StoreError}
    (failed : (job.stored records ++ tail)[place]? = some (call, .error error)) :
    ∃ others, place = records.length + others ∧ tail[others]? = some (call, .error error) := by
  have length : (job.stored records).length = records.length := List.length_map _
  rw [List.getElem?_append, length] at failed
  split at failed
  · have member := List.mem_of_getElem? failed
    simp [stored] at member
  · exact ⟨place - records.length, by omega, failed⟩

/-- A job has at least one record. -/
theorem records_ne_nil (job : Job) (source : σ) : (job.records job.rows source).1 ≠ [] := by
  rw [← List.length_pos_iff, length_records]
  exact job.positive

end Job

/-! ### Attempts -/

/-- How an attempt to fill a table with so many rows ended. -/
inductive Ending (rows : Nat) where
  /-- The transaction could not be opened. -/
  | refused (error : StoreError)
  /-- A row failed after so many others, and the rollback had this answer. -/
  | broken (before : Fin rows) (error : StoreError) (answer : Except StoreError Unit)
  /-- The transaction could not be committed. -/
  | unconfirmed (error : StoreError)
  /-- All rows were stored. -/
  | committed

/-- The ending of a table whose rows were all stored, by the answer to its commit. -/
def Ending.ofCommit {rows : Nat} : Except StoreError Unit → Ending rows
  | .error error => .unconfirmed error
  | .ok () => .committed

/-- The outcome of such a table. -/
def Outcome.ofCommit (rows : Nat) : Except StoreError Unit → Outcome
  | .error error => .rolledBack none error
  | .ok () => .committed rows

/-- A job with the source before it and its ending. -/
structure Attempt (σ : Type) where
  job : Job
  source : σ
  ending : Ending job.rows

namespace Attempt

variable {σ : Type} [WordSource σ]

/-- The number of rows that were stored in the transaction, for good or not. -/
def inserted : Attempt σ → Nat
  | ⟨_, _, .refused _⟩ => 0
  | ⟨_, _, .broken before _ _⟩ => before
  | ⟨job, _, .unconfirmed _⟩ => job.rows
  | ⟨job, _, .committed⟩ => job.rows

/-- The records of these rows with the source after them. -/
def drawn (attempt : Attempt σ) : List Record × σ :=
  attempt.job.records attempt.inserted attempt.source

/-- The record that comes after them. -/
def next (attempt : Attempt σ) : Record × σ := attempt.job.bindings.draw attempt.drawn.2

/-- The outcome of an attempt. -/
def outcome : Attempt σ → Outcome
  | ⟨_, _, .refused error⟩ => .rolledBack none error
  | ⟨_, _, .broken before error _⟩ => .rolledBack (some (before + 1)) error
  | ⟨_, _, .unconfirmed error⟩ => .rolledBack none error
  | ⟨job, _, .committed⟩ => .committed job.rows

/-- The entry of an attempt in a report. -/
def result (attempt : Attempt σ) : TableResult where
  table := attempt.job.table.name
  requested := attempt.job.rows
  outcome := attempt.outcome

/-- The calls of an attempt with their results. -/
def block (attempt : Attempt σ) : List Exchange :=
  match attempt.ending with
  | .refused error => [(.begin, .error error)]
  | .broken _ error answer =>
    (.begin, .ok ()) :: attempt.job.stored attempt.drawn.1 ++
      [(.insert attempt.job.table attempt.next.1, .error error), (.rollback, answer)]
  | .unconfirmed error =>
    (.begin, .ok ()) :: attempt.job.stored attempt.drawn.1 ++ [(.commit, .error error)]
  | .committed => (.begin, .ok ()) :: attempt.job.stored attempt.drawn.1 ++ [(.commit, .ok ())]

/-- What is noted and called in an attempt, in order. -/
def proceedings (interval : Nat) (attempt : Attempt σ) : List Moment :=
  .note (.tableStarted attempt.job.rows attempt.job.table.name) ::
    attempt.job.proceedings interval 0 attempt.block

theorem afterMoments_proceedings {β : Type} [Backend β] (interval : Nat) (attempt : Attempt σ)
    (backend : β) :
    Backend.afterMoments (attempt.proceedings interval) backend =
      Backend.after (attempt.block.map Prod.fst) backend :=
  attempt.job.afterMoments_proceedings interval 0 attempt.block backend

/-- The source after an attempt: a row that fails was drawn as well. -/
def left (attempt : Attempt σ) : σ :=
  match attempt.ending with
  | .broken _ _ _ => attempt.next.2
  | _ => attempt.drawn.2

theorem outcome_ofCommit {σ : Type} (job : Job) (source : σ) (answer : Except StoreError Unit) :
    outcome ⟨job, source, .ofCommit answer⟩ = .ofCommit job.rows answer := by
  cases answer <;> rfl

theorem block_ofCommit (job : Job) (source : σ) (answer : Except StoreError Unit) :
    block ⟨job, source, .ofCommit answer⟩ =
      (.begin, .ok ()) :: job.stored (job.records job.rows source).1 ++ [(.commit, answer)] := by
  cases answer <;> rfl

theorem left_ofCommit (job : Job) (source : σ) (answer : Except StoreError Unit) :
    left ⟨job, source, .ofCommit answer⟩ = (job.records job.rows source).2 := by
  cases answer <;> rfl

end Attempt

/-! ### Outcomes and blocks -/

namespace Attempt

variable {σ : Type} [WordSource σ]

/-- A table is committed if its commit succeeded. -/
theorem outcome_eq_committed_iff (attempt : Attempt σ) (rows : Nat) :
    attempt.outcome = .committed rows ↔
      rows = attempt.job.rows ∧ (.commit, .ok ()) ∈ attempt.block := by
  obtain ⟨job, source, ending⟩ := attempt
  cases ending <;> simp [outcome, block, Job.stored, eq_comm]

/-- A table fails without a row if its begin or its commit failed, and with their error. -/
theorem outcome_eq_rolledBack_none_iff (attempt : Attempt σ) (error : StoreError) :
    attempt.outcome = .rolledBack none error ↔
      (.begin, .error error) ∈ attempt.block ∨ (.commit, .error error) ∈ attempt.block := by
  obtain ⟨job, source, ending⟩ := attempt
  cases ending <;> simp [outcome, block, Job.stored, eq_comm]

/-- A table fails with a row if the insertion of that number failed, and with its error. -/
theorem outcome_eq_rolledBack_some_iff (attempt : Attempt σ) (row : Nat) (error : StoreError) :
    attempt.outcome = .rolledBack (some row) error ↔
      ∃ record, attempt.block[row]? = some (.insert attempt.job.table record, .error error) := by
  obtain ⟨job, source, ending⟩ := attempt
  constructor
  · intro failed
    cases ending with
    | broken before cause answer =>
      obtain ⟨rfl, rfl⟩ : before.val + 1 = row ∧ cause = error := by simpa [outcome] using failed
      refine ⟨(next ⟨job, source, .broken before cause answer⟩).1, ?_⟩
      simp [block, Job.stored, drawn, inserted, Job.length_records]
    | _ => simp [outcome] at failed
  · rintro ⟨record, failed⟩
    cases ending with
    | broken before cause answer =>
      cases row with
      | zero => simp [block] at failed
      | succ row =>
        obtain ⟨others, rfl, tail⟩ := job.failure_after_stored failed
        have length : (drawn ⟨job, source, .broken before cause answer⟩).1.length = before :=
          job.length_records before source
        rw [length]
        -- the failed insertion comes first in the tail, and only the rollback after it
        match others, tail with
        | 0, tail =>
          obtain ⟨-, rfl⟩ : _ ∧ cause = error := by simpa using tail
          rfl
        | 1, tail => simp at tail
    | _ =>
      have member := List.mem_of_getElem? failed
      simp [block, Job.stored] at member

end Attempt

/-! ### Steps of the engine -/

namespace Engine

section Steps

variable {β σ : Type} [Backend β]

/-- Giving up a table is one rollback, and a note if it fails. -/
theorem abandon_advance (interval : Nat) (job : Job) (number : Nat) (desk : Desk β σ) :
    abandon job.table desk = ((), desk.advance (job.proceedings interval number
      [(.rollback, (Backend.perform .rollback desk.backend).1.result)]) desk.source) := by
  unfold abandon
  rw [State.bind_apply, call_advance]
  cases (Backend.perform .rollback desk.backend).1.result with
  | error error =>
    simp only [note_advance, advance_source, advance_advance]
    rfl
  | ok _ => rfl

theorem commit_advance (interval : Nat) (job : Job) (number : Nat) (desk : Desk β σ) :
    commit job.table job.rows desk =
      (.ofCommit job.rows (Backend.perform .commit desk.backend).1.result,
      desk.advance (job.proceedings interval number
        [(.commit, (Backend.perform .commit desk.backend).1.result)]) desk.source) := by
  unfold commit
  rw [State.bind_apply, call_advance]
  cases (Backend.perform .commit desk.backend).1.result with
  | error error =>
    simp only [State.bind_apply, note_advance, advance_source, advance_advance]
    rfl
  | ok _ =>
    simp only [State.bind_apply, note_advance, advance_source, advance_advance]
    rfl

end Steps

section Proceeding

variable {β σ α : Type} [Backend β]

/-- From a backend and a source, a computation has these exchanges for a job, of which the first has
this number; it gives a value and leaves a source. None of it depends on the interval between notes
of progress or on the log before. -/
structure Proceeds (job : Job) (number : Nat) (backend : β) (source : σ)
    (step : (interval : Nat) → StateM (Desk β σ) α) (value : α) (exchanges : List Exchange)
    (left : σ) : Prop where
  answers : ∃ last, Backend.Answers backend exchanges last
  advances : ∀ interval log, step interval { backend, source, log } =
    (value, Desk.advance (job.proceedings interval number exchanges) left { backend, source, log })

/-- How a table begins: its start is noted, and its transaction is opened. -/
def opening (job : Job) : List Moment :=
  [.note (.tableStarted job.rows job.table.name), .call .begin]

/-- What a computation does after the opening of a table is joined to it. -/
theorem Proceeds.advances_opened {job : Job} {number : Nat} {backend : β} {source left : σ}
    {step : Nat → StateM (Desk β σ) α} {value : α} {exchanges : List Exchange}
    (proceeds : Proceeds job number (Backend.perform .begin backend).2 source step value exchanges
      left)
    (interval : Nat) (log : Array Event) :
    step interval (Desk.advance (opening job) source { backend, source, log }) =
      (value, Desk.advance (opening job ++ job.proceedings interval number exchanges) left
        { backend, source, log }) := by
  rw [← advance_advance _ _ source]
  exact proceeds.advances interval _

end Proceeding

/-! ### Rows -/

section Rows

variable {β σ : Type} [Backend β] [WordSource σ]

/-- The insertion of the next record of a job. -/
def nextInsert (job : Job) (source : σ) : Call := .insert job.table (job.bindings.draw source).1

/-- A row that fails is rolled back, and no other row is tried. -/
theorem insertRows_of_error (interval : Nat) (job : Job) (left : Nat) (desk : Desk β σ)
    {error : StoreError}
    (failed : (Backend.perform (nextInsert job desk.source) desk.backend).1.result =
      .error error) :
    insertRows interval job (left + 1) desk = (some (job.rows - left, error),
      desk.advance (job.proceedings interval (job.rows - left)
        [(nextInsert job desk.source, .error error),
          (.rollback, (Backend.perform .rollback
            (Backend.perform (nextInsert job desk.source) desk.backend).2).1.result)])
        (job.bindings.draw desk.source).2) := by
  rw [insertRows, State.bind_apply, draw_advance, State.bind_apply, call_advance]
  have result : (Backend.perform (.insert job.table (job.bindings.draw desk.source).1)
      (Backend.afterMoments [] desk.backend)).1.result = .error error := failed
  simp only [advance_backend, result, State.bind_apply, State.pure_apply, note_advance,
    abandon_advance interval job (job.rows - left + 1), advance_source, advance_advance]
  rfl

/-- A row that is stored leaves the other rows to be inserted. -/
theorem insertRows_of_ok (interval : Nat) (job : Job) (left : Nat) (desk : Desk β σ)
    (stored : (Backend.perform (nextInsert job desk.source) desk.backend).1.result = .ok ()) :
    insertRows interval job (left + 1) desk =
      insertRows interval job left
        (desk.advance (job.proceedings interval (job.rows - left)
          [(nextInsert job desk.source, .ok ())]) (job.bindings.draw desk.source).2) := by
  rw [insertRows, State.bind_apply, draw_advance, State.bind_apply, call_advance]
  have result : (Backend.perform (.insert job.table (job.bindings.draw desk.source).1)
      (Backend.afterMoments [] desk.backend)).1.result = .ok () := stored
  simp only [advance_backend, result]
  by_cases noted : (job.rows - left) % interval = 0
  · simp only [if_pos noted, State.bind_apply, note_advance, advance_source, advance_advance,
      Job.proceedings, Job.notes, nextInsert]
    rfl
  · simp only [if_neg noted, advance_source, advance_advance, Job.proceedings, Job.notes,
      nextInsert]
    rfl

/-- A row that is stored comes before what the other rows do. -/
theorem Proceeds.after_stored {job : Job} {left : Nat} (enough : left + 1 ≤ job.rows) {backend : β}
    {source last : σ} {value : Option (Nat × StoreError)} {exchanges : List Exchange}
    (stored : (Backend.perform (nextInsert job source) backend).1.result = .ok ())
    (later : Proceeds job (job.rows - left + 1) (Backend.perform (nextInsert job source) backend).2
      (job.bindings.draw source).2 (insertRows · job left) value exchanges last) :
    Proceeds job (job.rows - (left + 1) + 1) backend source (insertRows · job (left + 1)) value
      ((nextInsert job source, .ok ()) :: exchanges) last where
  answers := by
    obtain ⟨final, answered⟩ := later.answers
    exact ⟨final, stored, answered⟩
  advances interval log := by
    have number : job.rows - (left + 1) + 1 = job.rows - left := by omega
    have here : Desk.advance
        (job.proceedings interval (job.rows - left) [(nextInsert job source, .ok ())])
        (job.bindings.draw source).2 { backend, source, log } =
          { backend := (Backend.perform (nextInsert job source) backend).2
            source := (job.bindings.draw source).2
            log := log ++ Backend.logged (job.proceedings interval (job.rows - left)
              [(nextInsert job source, .ok ())]) backend } := by
      rw [Desk.advance, Job.afterMoments_proceedings]
      rfl
    rw [insertRows_of_ok interval job left { backend, source, log } stored, here,
      later.advances, ← here, advance_advance, number]
    exact congrArg (fun moments => (value, Desk.advance moments last { backend, source, log }))
      (job.proceedings_append interval (job.rows - left) [_] exchanges).symm

/-- **Inserting the rows that are left**: all of them are stored, or one fails and is rolled
back. -/
theorem insertRows_proceeds (job : Job) (left : Nat) (enough : left ≤ job.rows) (backend : β)
    (source : σ) :
    Proceeds job (job.rows - left + 1) backend source (insertRows · job left) none
        (job.stored (job.records left source).1) (job.records left source).2 ∨
      ∃ (before : Fin left) (error : StoreError) (answer : Except StoreError Unit),
        Proceeds job (job.rows - left + 1) backend source (insertRows · job left)
          (some (job.rows - left + before + 1, error))
          (job.stored (job.records before source).1 ++
            [(nextInsert job (job.records before source).2, .error error), (.rollback, answer)])
          (job.bindings.draw (job.records before source).2).2 := by
  induction left generalizing backend source with
  | zero =>
    refine Or.inl ⟨⟨backend, rfl⟩, fun interval log => ?_⟩
    exact congrArg (Prod.mk none) (advance_nil source { backend, source, log }).symm
  | succ left ih =>
    cases result : (Backend.perform (nextInsert job source) backend).1.result with
    | error error =>
      have row : job.rows - (left + 1) + 1 = job.rows - left := by omega
      refine Or.inr ⟨0, error, _, ⟨_, result, rfl, rfl⟩, fun interval log => ?_⟩
      have failed := insertRows_of_error interval job left { backend, source, log } result
      rw [← row] at failed
      exact failed
    | ok _ =>
      rcases ih (by omega) (Backend.perform (nextInsert job source) backend).2
          (job.bindings.draw source).2 with all | ⟨before, error, answer, broken⟩
      · exact Or.inl (all.after_stored enough result)
      · have row : job.rows - left + before + 1 = job.rows - (left + 1) + before.succ + 1 := by
          rw [Fin.val_succ]
          omega
        rw [row] at broken
        exact Or.inr ⟨before.succ, error, answer, broken.after_stored enough result⟩

end Rows

/-! ### Tables -/

section Tables

variable {β σ : Type} [Backend β] [WordSource σ]

/-- The attempt that fills a table from a backend and a source, whatever the interval between notes
of progress and the log before. -/
structure Fills (job : Job) (backend : β) (source : σ) (attempt : Attempt σ) : Prop where
  sameJob : attempt.job = job
  sameSource : attempt.source = source
  answers : ∃ last, Backend.Answers backend attempt.block last
  advances : ∀ interval log, fillTable interval job { backend, source, log } =
    (attempt.outcome,
      Desk.advance (attempt.proceedings interval) attempt.left { backend, source, log })

/-- A table whose transaction cannot be opened. -/
theorem fills_of_refused (job : Job) {backend : β} (source : σ) {error : StoreError}
    (refused : (Backend.perform .begin backend).1.result = .error error) :
    Fills job backend source ⟨job, source, .refused error⟩ where
  sameJob := rfl
  sameSource := rfl
  answers := ⟨_, refused, rfl⟩
  advances interval log := by
    have result : (Backend.perform .begin (Backend.afterMoments
      [.note (.tableStarted job.rows job.table.name)] backend)).1.result = .error error := refused
    unfold fillTable
    simp only [State.bind_apply, State.pure_apply, note_advance, call_advance, advance_backend,
      advance_source, advance_advance, result]
    rfl

/-- Once the transaction of a table is open, its rows are inserted and, if none of them fails, they
are committed. -/
theorem fillTable_of_begun (interval : Nat) (job : Job) {backend : β} (source : σ)
    (log : Array Event) (begun : (Backend.perform .begin backend).1.result = .ok ()) :
    fillTable interval job { backend, source, log } =
      match insertRows interval job job.rows
        (Desk.advance (opening job) source { backend, source, log }) with
      | (some (row, error), finished) => (.rolledBack (some row) error, finished)
      | (none, stored) => commit job.table job.rows stored := by
  have result : (Backend.perform .begin (Backend.afterMoments
    [.note (.tableStarted job.rows job.table.name)] backend)).1.result = .ok () := begun
  have opened : Desk.advance
      ([.note (.tableStarted job.rows job.table.name)] ++ [.call .begin]) source
      { backend, source, log } = Desk.advance (opening job) source { backend, source, log } := rfl
  unfold fillTable
  simp only [State.bind_apply, note_advance, call_advance, advance_backend, advance_source,
    advance_advance, result, opened]
  generalize insertRows interval job job.rows
    (Desk.advance (opening job) source { backend, source, log }) = rows
  obtain ⟨failure, finished⟩ := rows
  cases failure <;> rfl

/-- A table at which a row fails. -/
theorem fills_of_broken (job : Job) {backend : β} {source : σ} {before : Fin job.rows}
    {error : StoreError} {answer : Except StoreError Unit}
    (begun : (Backend.perform .begin backend).1.result = .ok ())
    (broken : Proceeds job 1 (Backend.perform .begin backend).2 source (insertRows · job job.rows)
      (some (before + 1, error))
      (job.stored (job.records before source).1 ++
        [(nextInsert job (job.records before source).2, .error error), (.rollback, answer)])
      (job.bindings.draw (job.records before source).2).2) :
    Fills job backend source ⟨job, source, .broken before error answer⟩ where
  sameJob := rfl
  sameSource := rfl
  answers := by
    obtain ⟨last, answered⟩ := broken.answers
    exact ⟨last, begun, answered⟩
  advances interval log := by
    rw [fillTable_of_begun interval job source log begun, broken.advances_opened]
    rfl

/-- A table whose rows are all stored; the commit decides on it. -/
theorem fills_of_stored (job : Job) {backend middle : β} {source : σ}
    (begun : (Backend.perform .begin backend).1.result = .ok ())
    (all : Proceeds job 1 (Backend.perform .begin backend).2 source (insertRows · job job.rows)
      none (job.stored (job.records job.rows source).1) (job.records job.rows source).2)
    (stored : Backend.Answers (Backend.perform .begin backend).2
      (job.stored (job.records job.rows source).1) middle) :
    Fills job backend source
      ⟨job, source, .ofCommit (Backend.perform .commit middle).1.result⟩ where
  sameJob := rfl
  sameSource := rfl
  answers := by
    have settled : Backend.Answers middle [(.commit, (Backend.perform .commit middle).1.result)]
      (Backend.perform .commit middle).2 := ⟨rfl, rfl⟩
    rw [Attempt.block_ofCommit]
    exact ⟨_, begun, Backend.answers_append.mpr ⟨middle, stored, settled⟩⟩
  advances interval log := by
    have reached : Backend.afterMoments
        (opening job ++ job.proceedings interval 1 (job.stored (job.records job.rows source).1))
        backend = middle := by
      rw [Backend.afterMoments_append, Job.afterMoments_proceedings]
      exact Backend.after_of_answers stored
    rw [fillTable_of_begun interval job source log begun, all.advances_opened]
    show commit job.table job.rows _ = _
    rw [commit_advance interval job (1 + (job.stored (job.records job.rows source).1).length),
      advance_backend, advance_source, reached, advance_advance, List.append_assoc,
      ← Job.proceedings_append, Attempt.proceedings, Attempt.block_ofCommit,
      Attempt.outcome_ofCommit, Attempt.left_ofCommit]
    rfl

/-- **Filling a table is an attempt**, whatever the backend answers: the calls are those of its
block, and its outcome is reported. -/
theorem fillTable_proceeds (job : Job) (backend : β) (source : σ) :
    ∃ attempt : Attempt σ, Fills job backend source attempt := by
  cases begun : (Backend.perform .begin backend).1.result with
  | error error => exact ⟨_, fills_of_refused job source begun⟩
  | ok _ =>
    have rows := insertRows_proceeds job job.rows (Nat.le_refl _)
      (Backend.perform .begin backend).2 source
    rw [Nat.sub_self, Nat.zero_add] at rows
    simp only [Nat.zero_add] at rows
    rcases rows with all | ⟨before, error, answer, broken⟩
    · obtain ⟨middle, stored⟩ := all.answers
      exact ⟨_, fills_of_stored job begun all stored⟩
    · exact ⟨_, fills_of_broken job begun broken⟩

/-- One filling of a table, with the desk that it leaves. -/
theorem fillTable_attempt (interval : Nat) (job : Job) (desk : Desk β σ) :
    ∃ (attempt : Attempt σ) (finished : Desk β σ),
      attempt.job = job ∧ attempt.source = desk.source ∧
      fillTable interval job desk = (attempt.outcome, finished) ∧
      Backend.Answers desk.backend attempt.block finished.backend ∧
      finished.source = attempt.left := by
  obtain ⟨attempt, fills⟩ := fillTable_proceeds job desk.backend desk.source
  obtain ⟨last, answered⟩ := fills.answers
  refine ⟨attempt, desk.advance (attempt.proceedings interval) attempt.left, fills.sameJob,
    fills.sameSource, fills.advances interval desk.log, ?_, rfl⟩
  rw [advance_backend, attempt.afterMoments_proceedings, Backend.after_of_answers answered]
  exact answered

end Tables

end Engine

end Seeding
