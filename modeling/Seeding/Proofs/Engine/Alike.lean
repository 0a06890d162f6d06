/-
**Two runs that differ in how transactions were settled.**

Two attempts at one job from one source are alike if they make the same calls, have the same answers
to begins and insertions and leave the source alike (`Attempt.Alike`). What a commit or a rollback
answers does not matter for it: a failed commit takes as many words from the source as a good one.
So two attempts are alike if their blocks are concordant (`alike_of_concordant`), and two runs that
go on after failures are sequences of alike attempts, if their backends fill alike (`run_alike`).

Main statement: `exchanged_alike`, for every session, any two backends and every state of the source.
-/
import Seeding.Proofs.Backend.Alike
import Seeding.Proofs.Engine.Readiness
import Seeding.Proofs.Engine.Report

namespace Seeding

/-! ### Attempts -/

section Records

variable {σ : Type} [WordSource σ]

/-- Fewer records of a job are the first of more records, and the next draw comes after them. -/
theorem Job.records_split (job : Job) {before count : Nat} (fewer : before < count) (source : σ) :
    ∃ others, (job.records count source).1 = (job.records before source).1 ++
      (job.bindings.draw (job.records before source).2).1 :: others := by
  induction before generalizing count source with
  | zero =>
    obtain ⟨others, rfl⟩ := Nat.exists_eq_succ_of_ne_zero (Nat.ne_zero_of_lt fewer)
    exact ⟨_, rfl⟩
  | succ before ih =>
    obtain ⟨more, rfl⟩ := Nat.exists_eq_succ_of_ne_zero (Nat.ne_zero_of_lt fewer)
    obtain ⟨others, split⟩ := ih (Nat.lt_of_succ_lt_succ fewer) (job.bindings.draw source).2
    refine ⟨others, ?_⟩
    show _ :: (job.records more (job.bindings.draw source).2).1 = _
    rw [split]
    rfl

end Records

namespace Attempt

variable {σ : Type} [WordSource σ]

/-- The answer to the begin of an attempt. -/
def begun (attempt : Attempt σ) : Except StoreError Unit :=
  match attempt.ending with
  | .refused error => .error error
  | _ => .ok ()

/-- A block starts with the begin. -/
theorem block_begun (attempt : Attempt σ) :
    ∃ tail, attempt.block = (.begin, attempt.begun) :: tail := by
  obtain ⟨job, source, ending⟩ := attempt
  cases ending <;> exact ⟨_, rfl⟩

/-- A row that was stored stands in the block after those before it. -/
theorem block_inserted (attempt : Attempt σ) {before : Nat} (stored : before < attempt.inserted) :
    ∃ tail, attempt.block =
      ((.begin, .ok ()) ::
        attempt.job.stored (attempt.job.records before attempt.source).1) ++
      (.insert attempt.job.table
        (attempt.job.bindings.draw (attempt.job.records before attempt.source).2).1, .ok ()) ::
      tail := by
  obtain ⟨others, split⟩ := attempt.job.records_split stored attempt.source
  change attempt.drawn.1 = _ at split
  obtain ⟨job, source, ending⟩ := attempt
  cases ending with
  | refused error => exact absurd stored (Nat.not_lt_zero before)
  | _ =>
    unfold block
    simp only [split, Job.stored, List.map_append, List.map_cons, List.cons_append,
      List.append_assoc]
    exact ⟨_, rfl⟩

/-- Two attempts at one job from one source that made the same calls, had the same answers to begins
and insertions and have left the same source. -/
structure Alike (first second : Attempt σ) : Prop where
  job : second.job = first.job
  source : second.source = first.source
  calls : second.block.map Prod.fst = first.block.map Prod.fst
  filled : fillings second.block = fillings first.block
  left : second.left = first.left

theorem Alike.refl (attempt : Attempt σ) : Alike attempt attempt := ⟨rfl, rfl, rfl, rfl, rfl⟩

/-- Attempts that broke at the same row with the same error are alike, whatever the answers to their
rollbacks. -/
theorem alike_of_broken (job : Job) (source : σ) (before : Fin job.rows) (error : StoreError)
    (answer answer' : Except StoreError Unit) :
    Alike ⟨job, source, .broken before error answer⟩ ⟨job, source, .broken before error answer'⟩ where
  job := rfl
  source := rfl
  calls := by simp [block, drawn, inserted, next]
  filled := by simp [block, drawn, inserted, next, fillings, Call.fills]
  left := rfl

/-- An attempt that has stored all rows makes its commit. -/
theorem block_stored {attempt : Attempt σ} (all : attempt.inserted = attempt.job.rows) :
    attempt.left = (attempt.job.records attempt.job.rows attempt.source).2 ∧
    ∃ answer, attempt.block =
      (.begin, .ok ()) ::
        attempt.job.stored (attempt.job.records attempt.job.rows attempt.source).1 ++
      [(.commit, answer)] := by
  obtain ⟨job, source, ending⟩ := attempt
  cases ending with
  | refused error => exact absurd all (Nat.ne_of_lt job.positive)
  | broken before error answer => exact absurd all (Nat.ne_of_lt before.isLt)
  | unconfirmed error => exact ⟨rfl, .error error, rfl⟩
  | committed => exact ⟨rfl, .ok (), rfl⟩

/-- Attempts that have stored all rows are alike, whatever the answers to their commits. -/
theorem alike_of_stored {first second : Attempt σ} (job : second.job = first.job)
    (source : second.source = first.source) (all : first.inserted = first.job.rows)
    (all' : second.inserted = second.job.rows) : Alike first second := by
  obtain ⟨left, answer, block⟩ := block_stored all
  obtain ⟨left', answer', block'⟩ := block_stored all'
  rw [job, source] at left' block'
  refine ⟨job, source, ?_, ?_, left'.trans left.symm⟩
  · rw [block, block']
    simp
  · rw [block, block']
    simp [fillings, Call.fills]

/-- The row at which an attempt breaks comes after those that were stored. -/
theorem block_broken (job : Job) (source : σ) (before : Fin job.rows) (error : StoreError)
    (answer : Except StoreError Unit) :
    block ⟨job, source, .broken before error answer⟩ =
      ((.begin, .ok ()) :: job.stored (job.records before source).1) ++
      (.insert job.table (job.bindings.draw (job.records before source).2).1, .error error) ::
        [(.rollback, answer)] := rfl

/-- An attempt that is concordant with one that broke has stored no more rows than that one. -/
theorem inserted_le_of_broken {job : Job} {source : σ} {before : Fin job.rows} {error : StoreError}
    {answer : Except StoreError Unit} {ending : Ending job.rows} {trace trace' : List Exchange}
    (concordant : Concordant (block ⟨job, source, .broken before error answer⟩ ++ trace)
      (block ⟨job, source, ending⟩ ++ trace')) : inserted ⟨job, source, ending⟩ ≤ before := by
  by_contra more
  obtain ⟨tail, stored⟩ := block_inserted ⟨job, source, ending⟩ (Nat.lt_of_not_le more)
  rw [stored, block_broken, List.append_assoc, List.append_assoc] at concordant
  cases concordant.answer_eq rfl rfl

/-- **Concordant attempts are alike.** If two attempts at one job from one source are part of
concordant traces, they end alike but for the answers to their commits and rollbacks. -/
theorem alike_of_concordant {first second : Attempt σ} {trace trace' : List Exchange}
    (sameJob : second.job = first.job) (sameSource : second.source = first.source)
    (concordant : Concordant (first.block ++ trace) (second.block ++ trace')) :
    Alike first second := by
  have begun : first.begun = second.begun := by
    obtain ⟨tail, block⟩ := first.block_begun
    obtain ⟨tail', block'⟩ := second.block_begun
    rw [block, block', List.cons_append, List.cons_append] at concordant
    exact (concordant rfl).1 rfl
  -- an attempt stops early only at a begin or an insertion that fails, so the other one fails there
  obtain ⟨job, source, ending⟩ := first
  obtain ⟨job', source', ending'⟩ := second
  obtain rfl : job' = job := sameJob
  obtain rfl : source' = source := sameSource
  cases ending with
  | refused error =>
    cases ending' with
    | refused error' =>
      obtain rfl : error = error' := Except.error.inj begun
      exact Alike.refl _
    | _ => cases begun
  | broken before error answer =>
    have fewer := inserted_le_of_broken concordant
    cases ending' with
    | refused error' => cases begun
    | broken before' error' answer' =>
      obtain rfl : before = before' :=
        Fin.le_antisymm (inserted_le_of_broken concordant.symm) fewer
      obtain rfl : error = error' := by
        rw [block_broken, block_broken, List.append_assoc, List.append_assoc] at concordant
        exact Except.error.inj (concordant.answer_eq rfl rfl)
      exact alike_of_broken job' source' before error answer answer'
    | _ => exact absurd before.isLt (Nat.not_lt.mpr fewer)
  | _ =>
    cases ending' with
    | refused error' => cases begun
    | broken before error answer =>
      exact absurd before.isLt (Nat.not_lt.mpr (inserted_le_of_broken concordant.symm))
    | _ => exact alike_of_stored rfl rfl rfl rfl

end Attempt

/-! ### Sequences of attempts -/

section Sequences

variable {σ : Type} [WordSource σ]

/-- **Concordant sequences of attempts are alike**: each attempt leaves the next one the same source. -/
theorem alike_of_chained {attempts attempts' : List (Attempt σ)} {source last last' : σ}
    (jobs : attempts'.map Attempt.job = attempts.map Attempt.job)
    (chained : Chained source attempts last) (chained' : Chained source attempts' last')
    (concordant : Concordant (attempts.flatMap Attempt.block) (attempts'.flatMap Attempt.block)) :
    List.Forall₂ Attempt.Alike attempts attempts' ∧ last' = last := by
  induction attempts generalizing attempts' source with
  | nil =>
    obtain rfl : attempts' = [] := List.map_eq_nil_iff.mp jobs
    exact ⟨.nil, chained'.symm.trans chained⟩
  | cons attempt rest ih =>
    cases attempts' with
    | nil => cases jobs
    | cons attempt' rest' =>
      obtain ⟨job, others⟩ := List.cons.inj jobs
      obtain ⟨start, later⟩ := chained
      obtain ⟨start', later'⟩ := chained'
      rw [List.flatMap_cons, List.flatMap_cons] at concordant
      have alike := Attempt.alike_of_concordant job (start'.trans start.symm) concordant
      -- the same calls come before what is left of the traces, and the same source is left for it
      rw [alike.left] at later'
      obtain ⟨alikes, same⟩ := ih others later later' (concordant.rest alike.calls)
      exact ⟨.cons alike alikes, same⟩

/-- Alike attempts one after the other make the same calls and fill alike. -/
theorem calls_of_alike {attempts attempts' : List (Attempt σ)}
    (alike : List.Forall₂ Attempt.Alike attempts attempts') :
    (attempts'.flatMap Attempt.block).map Prod.fst = (attempts.flatMap Attempt.block).map Prod.fst ∧
    fillings (attempts'.flatMap Attempt.block) = fillings (attempts.flatMap Attempt.block) := by
  induction alike with
  | nil => exact ⟨rfl, rfl⟩
  | cons head _ ih =>
    simp only [List.flatMap_cons, List.map_append, fillings, List.filter_append]
    exact ⟨congrArg₂ (· ++ ·) head.calls ih.1, congrArg₂ (· ++ ·) head.filled ih.2⟩

end Sequences

/-! ### Runs -/

section Runs

variable {β γ σ : Type}

/-- The exchanges of a run with its backend, as a trace shows them. -/
def Seeder.exchanged [Backend β] [WordSource σ] (session : Session) (seeder : Seeder β σ) :
    List Exchange :=
  (seeder.traced.run session).seeder.backend.trace

/-- Two seeders that go on after failures and have the same source. -/
structure Seeder.Paired (first : Seeder β σ) (second : Seeder γ σ) : Prop where
  goesOn : first.policy = .collectAll
  goesOn' : second.policy = .collectAll
  source : second.source = first.source

variable [Backend β] [Backend γ] [WordSource σ] {session : Session} {jobs : List Job}

/-- A run of a session that is not ready makes no calls. -/
theorem Seeder.exchanged_of_unready {unready : Unready} (refused : session.jobs = .error unready)
    (seeder : Seeder β σ) : seeder.exchanged session = [] := by
  rw [exchanged, seeder.traced.run_of_unready refused]
  rfl

/-- A run that goes on after failures attempts all its jobs. -/
theorem Seeder.exchanged_attempts (ready : session.jobs = .ok jobs) (seeder : Seeder β σ)
    (goesOn : seeder.policy = .collectAll) :
    ∃ attempts : List (Attempt σ), attempts.map Attempt.job = jobs ∧
      seeder.exchanged session = attempts.flatMap Attempt.block ∧
      Backend.Answers seeder.backend (attempts.flatMap Attempt.block)
        (seeder.run session).seeder.backend ∧
      Chained seeder.source attempts (seeder.run session).seeder.source := by
  have same := seeder.run_eq_seen session
  obtain ⟨attempts, later, split, halting, -, answers, chained⟩ :=
    seeder.traced.run_attempts ready
  obtain rfl := halting.later_eq_nil goesOn
  obtain ⟨trace, inside⟩ := Traced.of_answers answers
  rw [List.append_nil] at split
  rw [same]
  exact ⟨attempts, split.symm, trace, inside, chained⟩

/-- **Two runs on backends that fill alike.** If both go on after failures and start from the same
source, they are sequences of alike attempts and leave the same source. -/
theorem run_alike (ready : session.jobs = .ok jobs) {first : Seeder β σ} {second : Seeder γ σ}
    (paired : first.Paired second)
    (alike : Backend.AlikeOn ((first.exchanged session).map Prod.fst) first.backend
      second.backend) :
    ∃ attempts attempts' : List (Attempt σ), List.Forall₂ Attempt.Alike attempts attempts' ∧
      first.exchanged session = attempts.flatMap Attempt.block ∧
      second.exchanged session = attempts'.flatMap Attempt.block ∧
      Backend.Answers first.backend (attempts.flatMap Attempt.block)
        (first.run session).seeder.backend ∧
      Backend.Answers second.backend (attempts'.flatMap Attempt.block)
        (second.run session).seeder.backend ∧
      (second.run session).seeder.source = (first.run session).seeder.source := by
  obtain ⟨attempts, split, trace, answers, chained⟩ :=
    first.exchanged_attempts ready paired.goesOn
  obtain ⟨attempts', split', trace', answers', chained'⟩ :=
    second.exchanged_attempts ready paired.goesOn'
  rw [trace] at alike
  rw [paired.source] at chained'
  obtain ⟨alikes, source⟩ := alike_of_chained (split'.trans split.symm) chained chained'
    (alike.concordant answers answers')
  exact ⟨attempts, attempts', alikes, trace, trace', answers, answers', source⟩

/-- **Runs on backends that fill alike** make the same calls, have the same answers to begins and
insertions and leave the same source. -/
theorem exchanged_alike {first : Seeder β σ} {second : Seeder γ σ} (paired : first.Paired second)
    (alike : Backend.AlikeOn ((first.exchanged session).map Prod.fst) first.backend
      second.backend) :
    (second.exchanged session).map Prod.fst = (first.exchanged session).map Prod.fst ∧
    fillings (second.exchanged session) = fillings (first.exchanged session) ∧
    (second.run session).seeder.source = (first.run session).seeder.source := by
  cases ready : session.jobs with
  | error unready =>
    rw [first.exchanged_of_unready ready, second.exchanged_of_unready ready,
      first.run_of_unready ready, second.run_of_unready ready]
    exact ⟨rfl, rfl, paired.source⟩
  | ok jobs =>
    obtain ⟨attempts, attempts', alikes, trace, trace', -, -, source⟩ :=
      run_alike ready paired alike
    obtain ⟨calls, filled⟩ := calls_of_alike alikes
    rw [trace, trace']
    exact ⟨calls, filled, source⟩

end Runs

end Seeding
