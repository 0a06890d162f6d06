/-
**Runs one after the other.**

Between two tables a run carries along its backend, its source and whether it has stopped, and
nothing else (`fillTables_append`). Between two runs of one seeder only the backend and the source
are carried along. So the run of two sessions joined is the run of the first and then of the second,
unless a failure in the first has stopped it (`Seeder.run_append`). The calls are joined as well,
since a trace can start anywhere (`Traced.after_faithful`).

Main statement: `run_joined`, for every backend, any two sessions that are ready, every policy and
every state of the source.
-/
import Seeding.Proofs.Engine.Alike

namespace Seeding

/-! ### Sessions -/

namespace Session

/-- The plans of one session and then those of another. -/
def append (first second : Session) : Session where
  plans := first.plans ++ second.plans

instance : Append Session := ⟨append⟩

/-- Two sessions that are ready are ready together, with the jobs of both. -/
theorem jobs_append {first second : Session} {jobs jobs' : List Job}
    (ready : first.jobs = .ok jobs) (ready' : second.jobs = .ok jobs') :
    (first ++ second).jobs = .ok (jobs ++ jobs') :=
  jobs_eq_ok_iff.mpr (List.rel_append (jobs_eq_ok_iff.mp ready) (jobs_eq_ok_iff.mp ready'))

end Session

/-! ### Tables -/

namespace Engine

variable {β σ : Type} [Backend β] [WordSource σ]

/-- Whether a run stops at one of these tables. -/
def stopsIn (policy : FailurePolicy) (entries : List TableResult) : Bool :=
  entries.any fun entry => stopsAfter policy entry.outcome

/-- A run does not stop at these tables if it goes on after failures or none of them fails. -/
theorem stopsIn_eq_false {policy : FailurePolicy} {entries : List TableResult}
    (goesOn : policy = .collectAll ∨ ∀ entry ∈ entries, entry.outcome.isFailure = false) :
    stopsIn policy entries = false := by
  refine List.any_eq_false.mpr fun entry member stops => ?_
  obtain ⟨stopping, failed⟩ := stopsAfter_eq_true_iff.mp stops
  rcases goesOn with collects | success
  · rw [collects] at stopping
    cases stopping
  · rw [success entry member] at failed
    cases failed

/-- **Tables one list after the other.** The second list starts from the desk that the first has
left, and is skipped if the run has stopped in the first. -/
theorem fillTables_append (policy : FailurePolicy) (interval : Nat) (stopped : Bool)
    (first second : List Job) (desk : Desk β σ) :
    fillTables policy interval stopped (first ++ second) desk =
      let filled := fillTables policy interval stopped first desk
      (fillTables policy interval (stopped || stopsIn policy filled.1) second filled.2).map
        (filled.1 ++ ·) id := by
  induction first generalizing stopped desk with
  | nil =>
    show _ = (fillTables policy interval (stopped || false) second desk).map ([] ++ ·) id
    rw [Bool.or_false]
    rfl
  | cons job rest ih =>
    rw [List.cons_append]
    cases stopped with
    | true =>
      simp only [fillTables_skip, ih, Bool.true_or]
      rfl
    | false =>
      simp only [fillTables_fill, ih]
      rfl

end Engine

/-! ### Traces -/

namespace Traced

variable {β : Type}

/-- A traced backend with other exchanges before its own. -/
def after (earlier : List Exchange) (traced : Traced β) : Traced β :=
  { traced with trace := earlier ++ traced.trace }

theorem after_faithful [Backend β] (earlier : List Exchange) :
    Backend.Faithful (after earlier : Traced β → Traced β) := by
  intro request traced
  simp only [Backend.perform, after, List.append_assoc]

end Traced

/-! ### Runs -/

section Runs

variable {β σ : Type} [Backend β] [WordSource σ]

namespace Seeder

/-- The tables of the first jobs are the first tables. -/
theorem filled_prefix (first second : List Job) (seeder : Seeder β σ) :
    (seeder.filled first).1 <+: (seeder.filled (first ++ second)).1 := by
  rw [filled, filled, Engine.fillTables_append]
  exact List.prefix_append _ _

/-- A run that does not stop in the first tables fills the others from where these have left it. -/
theorem filled_append (first second : List Job) (seeder : Seeder β σ)
    (goesOn : Engine.stopsIn seeder.policy (seeder.filled first).1 = false) :
    seeder.filled (first ++ second) =
      let filled := seeder.filled first
      ((seeder.leaving filled.2).filled second).map (filled.1 ++ ·)
        (Engine.Desk.after filled.2.log) := by
  -- the desk after the first tables has their notes in front of an empty log
  have start : (seeder.filled first).2 =
      (seeder.leaving (seeder.filled first).2).desk.after (seeder.filled first).2.log := by
    simp [Engine.Desk.after, desk, leaving]
  have others := (Engine.mirror_after (seeder.filled first).2.log).fillTables seeder.policy
    seeder.interval false second (seeder.leaving (seeder.filled first).2).desk
  rw [← start] at others
  show Engine.fillTables seeder.policy seeder.interval false (first ++ second) seeder.desk = _
  rw [Engine.fillTables_append]
  show (Engine.fillTables seeder.policy seeder.interval
    (Engine.stopsIn seeder.policy (seeder.filled first).1) second (seeder.filled first).2).map
      ((seeder.filled first).1 ++ ·) id = _
  rw [goesOn, others]
  rfl

/-- A traced run leaves what the run leaves, and its trace. -/
theorem traced_run_seeder (session : Session) (seeder : Seeder β σ) :
    (seeder.traced.run session).seeder =
      (seeder.run session).seeder.traced.seen (Traced.after (seeder.exchanged session)) := by
  have same := congrArg Run.seeder (seeder.run_eq_seen session)
  rw [same, exchanged]
  simp only [Run.seen, seen, traced, Traced.after, List.append_nil]

/-- A trace goes on with the calls of the next run. -/
theorem trace_of_runs (first second : Session) (seeder : Seeder β σ) :
    ((seeder.traced.run first).seeder.run second).seeder.backend.trace =
      seeder.exchanged first ++ (seeder.run first).seeder.exchanged second := by
  rw [traced_run_seeder, run_seen (Traced.after_faithful _)]
  rfl

variable {first second : Session} {jobs jobs' : List Job}

/-- **The run of two sessions joined.** Its report starts with that of the first session. If the run
does not stop there, the report goes on with that of the second session, and the run leaves what the
run of the second leaves. -/
theorem run_append (ready : first.jobs = .ok jobs) (ready' : second.jobs = .ok jobs')
    (seeder : Seeder β σ) :
    ∃ report report' joint : Report,
      (seeder.run first).result = report.result ∧
      ((seeder.run first).seeder.run second).result = report'.result ∧
      (seeder.run (first ++ second)).result = joint.result ∧
      report.tables <+: joint.tables ∧
      (Engine.stopsIn seeder.policy report.tables = false →
        joint.tables = report.tables ++ report'.tables ∧
        (seeder.run (first ++ second)).seeder = ((seeder.run first).seeder.run second).seeder) := by
  obtain ⟨result, left⟩ := seeder.run_tables ready
  obtain ⟨result', left'⟩ := (seeder.run first).seeder.run_tables ready'
  obtain ⟨joint, left''⟩ := seeder.run_tables (Session.jobs_append ready ready')
  refine ⟨_, _, _, result, result', joint, filled_prefix jobs jobs' seeder, fun goesOn => ?_⟩
  rw [left', left'', left, seeder.filled_append jobs jobs' goesOn]
  exact ⟨rfl, rfl⟩

end Seeder

/-- **Runs compose.** Take two sessions that are ready and a seeder on any backend. Run the joined
session, or run the first and then, with the seeder as that leaves it, the second. Both ways make
the same calls with the same answers and leave the same seeder, and the report of the joined run is
that of the first followed by that of the second, if the policy is to go on after failures or no
table of the first fails. The joined run succeeds exactly if both others do, whatever the policy. -/
theorem run_joined {first second : Session} {jobs jobs' : List Job}
    (ready : first.jobs = .ok jobs) (ready' : second.jobs = .ok jobs') (seeder : Seeder β σ) :
    let before := seeder.run first
    let after := before.seeder.run second
    let joined := seeder.run (first ++ second)
    (∃ report report' : Report,
      before.result = report.result ∧ after.result = report'.result ∧
      (seeder.policy = .collectAll ∨
          (∀ entry ∈ report.tables, entry.outcome.isFailure = false) →
        seeder.exchanged (first ++ second) =
          seeder.exchanged first ++ before.seeder.exchanged second ∧
        joined.seeder = after.seeder ∧
        joined.result = Report.result { tables := report.tables ++ report'.tables })) ∧
    ((∃ report, joined.result = .ok report) ↔
      (∃ report, before.result = .ok report) ∧ ∃ report, after.result = .ok report) := by
  intro before after joined
  obtain ⟨report, report', joint, result, result', result'', start, goesOn⟩ :=
    seeder.run_append ready ready'
  refine ⟨⟨report, report', result, result', fun condition => ?_⟩, ?_⟩
  · have continues := Engine.stopsIn_eq_false condition
    obtain ⟨tables, left⟩ := goesOn continues
    refine ⟨?_, left, ?_⟩
    · -- the traced run has the same report, so it goes on as well
      obtain ⟨traced, _, _, reported, _, _, _, goesOn'⟩ := seeder.traced.run_append ready ready'
      have same : before.result = traced.result := by
        rw [← reported]
        exact congrArg Run.result (seeder.run_eq_seen first)
      obtain rfl := Report.result_inj (result.symm.trans same)
      rw [← seeder.trace_of_runs, ← (goesOn' continues).2]
      rfl
    · rw [← tables]
      exact result''
  · rw [result, result', result'']
    simp only [Report.exists_result_eq_ok_iff]
    constructor
    · intro success
      have first : ∀ entry ∈ report.tables, entry.outcome.isFailure = false :=
        fun entry member => success entry (start.subset member)
      have tables := (goesOn (Engine.stopsIn_eq_false (Or.inr first))).1
      rw [tables] at success
      exact ⟨first, fun entry member => success entry (List.mem_append_right _ member)⟩
    · rintro ⟨first, second⟩ entry member
      have tables := (goesOn (Engine.stopsIn_eq_false (Or.inr first))).1
      rw [tables] at member
      exact (List.mem_append.mp member).elim (first entry) (second entry)

end Runs

/-- Four tables of dogs, two by two or all at once; each of them fails at its second dog. -/
theorem run_joined_dogs :
    Kennel.session.jobs = .ok [Kennel.job 3 (by decide), Kennel.job 2 (by decide)] ∧
    Kennel.seeder.policy = .collectAll ∧
    Kennel.seeder.exchanged (Kennel.session ++ Kennel.session) =
      Kennel.seeder.exchanged Kennel.session ++
        (Kennel.seeder.run Kennel.session).seeder.exchanged Kennel.session ∧
    (Kennel.seeder.run (Kennel.session ++ Kennel.session)).seeder =
      ((Kennel.seeder.run Kennel.session).seeder.run Kennel.session).seeder ∧
    (Kennel.seeder.exchanged (Kennel.session ++ Kennel.session)).length = 16 := by
  obtain ⟨⟨report, report', _, _, composes⟩, _⟩ :=
    run_joined Kennel.session_ready Kennel.session_ready Kennel.seeder
  obtain ⟨calls, left, _⟩ := composes (Or.inl rfl)
  exact ⟨Kennel.session_ready, rfl, calls, left, by decide +kernel⟩

end Seeding
