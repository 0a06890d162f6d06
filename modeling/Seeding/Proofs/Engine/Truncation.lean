/-
**A run that stops at a failure is a run cut short.**

Take one seeder and let it run twice, once stopping at the first failure and once going on. Both
runs do the same up to the first table that fails. There the one ends, and the other goes on from
the same backend and the same source (`fillTables_truncated`); if no table fails, both end alike. On
the store in memory what comes after the cut only adds rows (`rows_prefix_of_answers`).

Main statement: `stopping_run_truncates`, for every session that is ready, every backend and every
state of the source.
-/
import Seeding.Proofs.Engine.Alike
import Seeding.Proofs.Store.History
import Seeding.Proofs.Store.Run

namespace Seeding

namespace Engine

variable {β σ : Type} [Backend β] [WordSource σ]

/-- **The two runs over a list of jobs.** The attempts of the run that stops are the first of those
of the run that goes on, up to the first that fails. -/
theorem fillTables_truncated (interval : Nat) (jobs : List Job) (desk : Desk β σ) :
    ∃ (attempts others : List (Attempt σ)) (stopped finished : Desk β σ),
      jobs = (attempts ++ others).map Attempt.job ∧
      Halting .stopOnFirst attempts (others.map Attempt.job) ∧
      fillTables .stopOnFirst interval false jobs desk =
        (attempts.map Attempt.result ++ (others.map Attempt.job).map Job.skipped, stopped) ∧
      fillTables .collectAll interval false jobs desk =
        ((attempts ++ others).map Attempt.result, finished) ∧
      Backend.Answers desk.backend (attempts.flatMap Attempt.block) stopped.backend ∧
      Backend.Answers stopped.backend (others.flatMap Attempt.block) finished.backend ∧
      Chained desk.source attempts stopped.source ∧
      Chained stopped.source others finished.source := by
  induction jobs generalizing desk with
  | nil => exact ⟨[], [], desk, desk, rfl, ⟨by simp, by simp⟩, rfl, rfl, rfl, rfl, rfl, rfl⟩
  | cons job rest ih =>
    obtain ⟨attempt, middle, rfl, source, filled, answers, left⟩ :=
      fillTable_attempt interval job desk
    have goesOn : stopsAfter .collectAll attempt.outcome = false := by
      rw [← Bool.not_eq_true, stopsAfter_eq_true_iff]
      rintro ⟨⟨⟩, -⟩
    rw [fillTables_fill, fillTables_fill, filled]
    cases failed : attempt.outcome.isFailure with
    | true =>
      have stops : stopsAfter .stopOnFirst attempt.outcome = true :=
        stopsAfter_eq_true_iff.mpr ⟨rfl, failed⟩
      -- the one run skips the rest, and the other fills it from where the first has stopped
      obtain ⟨others, later, finished, split, halting, ran, answers', chained⟩ :=
        fillTables_attempts .collectAll interval rest middle
      obtain rfl := halting.later_eq_nil rfl
      obtain ⟨stopped, skipped, backend, same⟩ :=
        fillTables_stopped .stopOnFirst interval rest middle
      rw [List.append_nil] at split
      subst split
      refine ⟨[attempt], others, stopped, finished, rfl, .last _ ⟨rfl, failed⟩, ?_, ?_, ?_, ?_,
        ⟨source, left.symm.trans same.symm⟩, ?_⟩
      · simp only [stops, skipped]
        rfl
      · simp only [goesOn, ran, List.map_nil, List.append_nil]
        rfl
      · rw [List.flatMap_singleton, backend]
        exact answers
      · rw [backend]
        exact answers'
      · rw [same]
        exact chained
    | false =>
      have continues : stopsAfter .stopOnFirst attempt.outcome = false := by
        rw [stopsAfter, failed, Bool.false_and]
      obtain ⟨attempts, others, stopped, finished, rfl, halting, cut, ran, answers', later, chained,
        chained'⟩ := ih middle
      refine ⟨attempt :: attempts, others, stopped, finished, rfl, halting.cons fun _ => failed,
        ?_, ?_, ?_, later, ⟨source, ?_⟩, chained'⟩
      · simp only [continues, cut]
        rfl
      · simp only [goesOn, ran]
        rfl
      · rw [List.flatMap_cons]
        exact Backend.answers_append.mpr ⟨middle.backend, answers, answers'⟩
      · rw [← left]
        exact chained

end Engine

/-! ### Rows -/

/-- Calls to the store in memory only add rows. -/
theorem Store.rows_prefix_of_answers {store last : Store} {exchanges : List Exchange}
    (answers : Backend.Answers store exchanges last) (name : String) :
    store.rows name <+: last.rows name := by
  induction exchanges generalizing store with
  | nil =>
    obtain rfl : store = last := answers
    exact List.prefix_refl _
  | cons exchange rest ih =>
    obtain ⟨call, result⟩ := exchange
    refine List.IsPrefix.trans ?_ (ih answers.2)
    rcases rows_perform call store name with same | ⟨-, grown⟩
    · rw [same]
    · exact grown

/-! ### Runs -/

section Runs

variable {β σ : Type} [Backend β] [WordSource σ] {session : Session} {jobs : List Job}

/-- **The two runs of a session.** What the one that stops does is the first part of what the other
does, which goes on from there. -/
theorem Seeder.run_truncated (ready : session.jobs = .ok jobs) (seeder : Seeder β σ) :
    ∃ attempts others : List (Attempt σ),
      jobs = (attempts ++ others).map Attempt.job ∧
      Halting .stopOnFirst attempts (others.map Attempt.job) ∧
      ((seeder.withPolicy .stopOnFirst).run session).result =
        (Report.ofAttempts attempts (others.map Attempt.job)).result ∧
      ((seeder.withPolicy .collectAll).run session).result =
        (Report.ofAttempts (attempts ++ others) []).result ∧
      Backend.Answers seeder.backend (attempts.flatMap Attempt.block)
        ((seeder.withPolicy .stopOnFirst).run session).seeder.backend ∧
      Backend.Answers ((seeder.withPolicy .stopOnFirst).run session).seeder.backend
        (others.flatMap Attempt.block)
        ((seeder.withPolicy .collectAll).run session).seeder.backend ∧
      Chained seeder.source attempts
        ((seeder.withPolicy .stopOnFirst).run session).seeder.source ∧
      Chained ((seeder.withPolicy .stopOnFirst).run session).seeder.source others
        ((seeder.withPolicy .collectAll).run session).seeder.source := by
  obtain ⟨attempts, others, stopped, finished, split, halting, cut, ran, answers, answers', chained,
    chained'⟩ := Engine.fillTables_truncated seeder.interval jobs seeder.desk
  obtain ⟨stopping, stoppedSeeder⟩ := (seeder.withPolicy .stopOnFirst).run_tables ready
  obtain ⟨collecting, finishedSeeder⟩ := (seeder.withPolicy .collectAll).run_tables ready
  have cut' : (seeder.withPolicy .stopOnFirst).filled jobs = _ := cut
  have ran' : (seeder.withPolicy .collectAll).filled jobs = _ := ran
  rw [cut'] at stopping stoppedSeeder
  rw [ran'] at collecting finishedSeeder
  rw [stoppedSeeder, finishedSeeder]
  refine ⟨attempts, others, split, halting, stopping, ?_, answers, answers', chained, chained'⟩
  rw [collecting, Report.ofAttempts, List.map_nil, List.append_nil]

/-- **A run that stops at a failure is a run cut short.** Let a seeder run a session that is ready,
on any backend, once stopping at the first failure and once going on. The attempts of the first run
are the first attempts of the second, with the same calls, answers and outcomes, up to the first
that fails; the first run skips all that comes later, and the second goes on from where the first
has ended. If no attempt fails, both runs make the same calls, report the same and leave the same
backend and source. On the store in memory every table has after the first run the first of the rows
that it has after the second. -/
theorem stopping_run_truncates (ready : session.jobs = .ok jobs) :
    (∀ seeder : Seeder β σ,
      let stopping := seeder.withPolicy .stopOnFirst
      let collecting := seeder.withPolicy .collectAll
      ∃ attempts others : List (Attempt σ),
        jobs = (attempts ++ others).map Attempt.job ∧
        Halting .stopOnFirst attempts (others.map Attempt.job) ∧
        stopping.exchanged session = attempts.flatMap Attempt.block ∧
        collecting.exchanged session =
          stopping.exchanged session ++ others.flatMap Attempt.block ∧
        (stopping.run session).result =
          (Report.ofAttempts attempts (others.map Attempt.job)).result ∧
        (collecting.run session).result = (Report.ofAttempts (attempts ++ others) []).result ∧
        Chained seeder.source attempts (stopping.run session).seeder.source ∧
        Chained (stopping.run session).seeder.source others (collecting.run session).seeder.source ∧
        ((∀ attempt ∈ attempts, attempt.outcome.isFailure = false) →
          collecting.exchanged session = stopping.exchanged session ∧
          (collecting.run session).result = (stopping.run session).result ∧
          (collecting.run session).seeder.backend = (stopping.run session).seeder.backend ∧
          (collecting.run session).seeder.source = (stopping.run session).seeder.source)) ∧
    ∀ (seeder : Seeder Store σ) (name : String),
      ((seeder.withPolicy .stopOnFirst).run session).seeder.backend.rows name <+:
        ((seeder.withPolicy .collectAll).run session).seeder.backend.rows name := by
  refine ⟨fun seeder => ?_, fun seeder name => ?_⟩
  · intro stopping collecting
    obtain ⟨attempts, others, split, halting, stopped, finished, answers, answers', chained,
      chained'⟩ := seeder.traced.run_truncated ready
    have trace : stopping.exchanged session = attempts.flatMap Attempt.block :=
      (Traced.of_answers answers).1
    have trace' : collecting.exchanged session =
        stopping.exchanged session ++ others.flatMap Attempt.block := (Traced.of_answers answers').1
    have same := stopping.run_eq_seen session
    have same' := collecting.run_eq_seen session
    refine ⟨attempts, others, split, halting, trace, trace', ?_, ?_, ?_, ?_, fun success => ?_⟩
    · rw [same]
      exact stopped
    · rw [same']
      exact finished
    · rw [same]
      exact chained
    · rw [same, same']
      exact chained'
    · obtain rfl : others = [] :=
        List.map_eq_nil_iff.mp (halting.later_eq_nil_of_success success)
      have traced : _ = _ := answers'
      have drawn : _ = _ := chained'
      rw [same, same']
      refine ⟨trace'.trans (List.append_nil _), ?_, ?_, drawn.symm⟩
      · exact finished.trans (by rw [List.append_nil]; exact stopped.symm)
      · exact congrArg Traced.inner traced.symm
  · obtain ⟨_, _, _, _, _, _, _, answers, _⟩ := seeder.run_truncated ready
    exact Store.rows_prefix_of_answers answers name

end Runs

/-- A seeder of a store that is not declared to fail. -/
def Kennel.lucky : Seeder Store Script := { Kennel.impatient with backend := {} }

theorem Kennel.lucky_succeeds :
    ∃ report, ((Kennel.lucky.withPolicy .stopOnFirst).run Kennel.session).result = .ok report := by
  have succeeds :
      ((Kennel.lucky.withPolicy .stopOnFirst).run Kennel.session).result.toBool = true := by
    decide +kernel
  cases ended : ((Kennel.lucky.withPolicy .stopOnFirst).run Kennel.session).result with
  | ok report => exact ⟨report, rfl⟩
  | error error =>
    rw [ended] at succeeds
    cases succeeds

/-- Where the third dog is declared to fail, a run that stops leaves it at that and one that goes on
stores the dogs of the second table. Where nothing is declared to fail, both make the same calls. -/
theorem stopping_run_truncates_dogs :
    Kennel.session.jobs = .ok [Kennel.job 3 (by decide), Kennel.job 2 (by decide)] ∧
    (∃ attempts others : List (Attempt Script),
      [Kennel.job 3 (by decide), Kennel.job 2 (by decide)] =
        (attempts ++ others).map Attempt.job ∧
      (Kennel.impatient.withPolicy .stopOnFirst).exchanged Kennel.session =
        attempts.flatMap Attempt.block ∧
      (Kennel.impatient.withPolicy .collectAll).exchanged Kennel.session =
        (Kennel.impatient.withPolicy .stopOnFirst).exchanged Kennel.session ++
          others.flatMap Attempt.block) ∧
    ((Kennel.impatient.withPolicy .stopOnFirst).exchanged Kennel.session).length = 5 ∧
    ((Kennel.impatient.withPolicy .collectAll).exchanged Kennel.session).length = 9 ∧
    ((Kennel.impatient.withPolicy .stopOnFirst).run Kennel.session).seeder.backend.rows "dogs" <+:
      ((Kennel.impatient.withPolicy .collectAll).run Kennel.session).seeder.backend.rows "dogs" ∧
    (Kennel.lucky.withPolicy .collectAll).exchanged Kennel.session =
      (Kennel.lucky.withPolicy .stopOnFirst).exchanged Kennel.session := by
  obtain ⟨runs, stores⟩ := @stopping_run_truncates Store Script _ _ _ _ Kennel.session_ready
  obtain ⟨attempts, others, split, _, trace, trace', _⟩ := runs Kennel.impatient
  obtain ⟨good, _, _, _, _, _, result, _, _, _, alike⟩ := runs Kennel.lucky
  have success : ∀ attempt ∈ good, attempt.outcome.isFailure = false := fun attempt member =>
    Report.exists_result_eq_ok_iff.mp (result ▸ Kennel.lucky_succeeds) attempt.result
      (List.mem_append_left _ (List.mem_map_of_mem member))
  exact ⟨Kennel.session_ready, ⟨attempts, others, split, trace, trace'⟩, by decide +kernel,
    by decide +kernel, stores Kennel.impatient "dogs", (alike success).1⟩

end Seeding
