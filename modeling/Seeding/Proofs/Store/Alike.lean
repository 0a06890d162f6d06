/-
**Runs on stores that refuse other commits.**

Two stores are twins if they have the same open transaction, the same number of begins and the same
declared failures but for the commits. Twins stay twins under every call and answer begins and
insertions alike (`Twins.perform`). What a refused commit drops are the rows of one table only, since
a run puts the rows of each table in a transaction of its own. So two runs on twins give the same
rows to every table whose commits neither store refuses (`rows_of_twins`).

Main statement: `settling_answers_immaterial`, for every session and every state of the source, on
any two backends that fill alike and on any two stores that differ in the commits they refuse.
-/
import Seeding.Proofs.Engine.Alike
import Seeding.Proofs.Store.Run

namespace Seeding

namespace Store

/-! ### Twins -/

/-- The store with the commits of other tables declared to fail. -/
def refusing (commits : List String) (store : Store) : Store :=
  { store with faults := { store.faults with commits } }

/-- Two stores that differ at most in what was committed or rolled back and in the commits that are
declared to fail. -/
structure Twins (first second : Store) : Prop where
  insertFaults : second.faults.inserts = first.faults.inserts
  beginFaults : second.faults.begins = first.faults.begins
  transaction : second.transaction = first.transaction
  begins : second.begins = first.begins

theorem twins_refusing (commits : List String) (store : Store) :
    Twins store (store.refusing commits) := ⟨rfl, rfl, rfl, rfl⟩

/-- A commit closes the transaction, whether it is refused or not. -/
theorem commit_closes (store : Store) :
    store.commit.2.faults = store.faults ∧ store.commit.2.begins = store.begins ∧
      store.commit.2.transaction = none := by
  cases state : store.transaction with
  | none =>
    rw [commit_of_idle state]
    exact ⟨rfl, rfl, state⟩
  | some transaction =>
    cases refused : store.refusedCommit? transaction with
    | some name =>
      rw [commit_of_refused state refused]
      exact ⟨rfl, rfl, rfl⟩
    | none =>
      rw [commit_of_open state refused]
      exact ⟨rfl, rfl, rfl⟩

theorem rollback_closes (store : Store) :
    store.rollback.2.faults = store.faults ∧ store.rollback.2.begins = store.begins ∧
      store.rollback.2.transaction = none := by
  cases state : store.transaction with
  | none =>
    rw [rollback_of_idle state]
    exact ⟨rfl, rfl, state⟩
  | some transaction =>
    rw [rollback_of_open state]
    exact ⟨rfl, rfl, rfl⟩

namespace Twins

variable {first second : Store}

theorem begin (twins : Twins first second) :
    second.begin.1.result = first.begin.1.result ∧ Twins first.begin.2 second.begin.2 := by
  have declares : second.begins + 1 ∈ second.faults.begins ↔
      first.begins + 1 ∈ first.faults.begins := by
    rw [twins.begins, twins.beginFaults]
  have opened := twins.transaction
  cases state : first.transaction with
  | some transaction =>
    rw [state] at opened
    rw [begin_of_open state, begin_of_open opened]
    exact ⟨rfl, twins⟩
  | none =>
    rw [state] at opened
    by_cases declared : first.begins + 1 ∈ first.faults.begins
    · rw [begin_of_declared state declared, begin_of_declared opened (declares.mpr declared)]
      exact ⟨rfl, twins.insertFaults, twins.beginFaults, twins.transaction,
        congrArg (· + 1) twins.begins⟩
    · rw [begin_of_idle state declared, begin_of_idle opened (mt declares.mp declared)]
      exact ⟨rfl, twins.insertFaults, twins.beginFaults, rfl, congrArg (· + 1) twins.begins⟩

theorem insert (twins : Twins first second) (table : Table) (record : Record) :
    (second.insert table record).1.result = (first.insert table record).1.result ∧
      Twins (first.insert table record).2 (second.insert table record).2 := by
  have declares (attempt : String × Nat) :
      attempt ∈ second.faults.inserts ↔ attempt ∈ first.faults.inserts := by
    rw [twins.insertFaults]
  have opened := twins.transaction
  cases state : first.transaction with
  | none =>
    rw [state] at opened
    rw [insert_of_idle state, insert_of_idle opened]
    exact ⟨rfl, twins⟩
  | some transaction =>
    rw [state] at opened
    by_cases declared :
        (table.name, transaction.attempts.count table.name + 1) ∈ first.faults.inserts
    · rw [insert_of_declared state declared,
        insert_of_declared opened ((declares _).mpr declared)]
      exact ⟨rfl, twins.insertFaults, twins.beginFaults, rfl, twins.begins⟩
    · have undeclared := mt (declares _).mp declared
      cases checked : table.verify record with
      | error error =>
        rw [insert_of_unstorable state declared checked,
          insert_of_unstorable opened undeclared checked]
        exact ⟨rfl, twins.insertFaults, twins.beginFaults, rfl, twins.begins⟩
      | ok _ =>
        rw [insert_of_storable state declared checked,
          insert_of_storable opened undeclared checked]
        exact ⟨rfl, twins.insertFaults, twins.beginFaults, rfl, twins.begins⟩

/-- Stores that have closed their transactions are twins again. -/
theorem closed (twins : Twins first second) {last last' : Store}
    (closes : last.faults = first.faults ∧ last.begins = first.begins ∧ last.transaction = none)
    (closes' : last'.faults = second.faults ∧ last'.begins = second.begins ∧
      last'.transaction = none) : Twins last last' := by
  obtain ⟨faults, begins, none⟩ := closes
  obtain ⟨faults', begins', none'⟩ := closes'
  constructor
  · rw [faults, faults', twins.insertFaults]
  · rw [faults, faults', twins.beginFaults]
  · rw [none, none']
  · rw [begins, begins', twins.begins]

/-- **Every call leaves twins twins**, and they answer begins and insertions alike. -/
theorem perform (twins : Twins first second) (call : Call) :
    (call.fills = true →
      (Backend.perform call second).1.result = (Backend.perform call first).1.result) ∧
    Twins (Backend.perform call first).2 (Backend.perform call second).2 := by
  cases call with
  | begin => exact twins.begin.imp_left fun same _ => same
  | insert table record => exact (twins.insert table record).imp_left fun same _ => same
  | commit => exact ⟨nofun, twins.closed first.commit_closes second.commit_closes⟩
  | rollback => exact ⟨nofun, twins.closed first.rollback_closes second.rollback_closes⟩

theorem after (twins : Twins first second) (calls : List Call) :
    Twins (Backend.after calls first) (Backend.after calls second) := by
  induction calls generalizing first second with
  | nil => exact twins
  | cons call rest ih => exact ih (twins.perform call).2

/-- Twins fill alike on every sequence of calls. -/
theorem alikeOn (twins : Twins first second) (calls : List Call) :
    Backend.AlikeOn calls first second := fun earlier call _ _ =>
  ((twins.after earlier).perform call).1

end Twins

/-! ### Attempts -/

section Attempts

variable {σ : Type} [WordSource σ] {store last : Store}

/-- A store whose transaction is open refuses an attempt and is as it was. -/
theorem answers_block_of_open (attempt : Attempt σ) {transaction : Transaction}
    (opened : store.transaction = some transaction)
    (answers : Backend.Answers store attempt.block last) :
    attempt.ending = .refused .transactionAlreadyOpen ∧ last = store := by
  have refused : store.begin = ({ result := .error .transactionAlreadyOpen }, store) :=
    begin_of_open opened
  obtain ⟨job, source, ending⟩ := attempt
  cases ending with
  | refused error =>
    obtain ⟨given, rfl⟩ := answers
    change store.begin.1.result = _ at given
    rw [refused] at given
    exact ⟨congrArg Ending.refused (Except.error.inj given).symm, congrArg Prod.snd refused⟩
  | _ =>
    have begun : store.begin.1.result = .ok () := answers.1
    rw [refused] at begun
    cases begun

/-- A store whose transaction is open refuses all attempts. -/
theorem answers_blocks_of_open (attempts : List (Attempt σ)) {transaction : Transaction}
    (opened : store.transaction = some transaction)
    (answers : Backend.Answers store (attempts.flatMap Attempt.block) last) :
    (∀ attempt ∈ attempts, attempt.ending = .refused .transactionAlreadyOpen) ∧
      last = store := by
  induction attempts with
  | nil => exact ⟨fun _ member => absurd member List.not_mem_nil, answers.symm⟩
  | cons attempt rest ih =>
    obtain ⟨middle, here, later⟩ := Backend.answers_append.mp answers
    obtain ⟨refused, rfl⟩ := answers_block_of_open attempt opened here
    obtain ⟨others, same⟩ := ih later
    exact ⟨List.forall_mem_cons.mpr ⟨refused, others⟩, same⟩

end Attempts

end Store

/-- An attempt that does not fail keeps all records of its job. -/
theorem Attempt.kept_eq {σ : Type} [WordSource σ] (attempt : Attempt σ) :
    attempt.kept = if attempt.outcome.isFailure then []
      else (attempt.job.records attempt.job.rows attempt.source).1 := by
  obtain ⟨job, source, ending⟩ := attempt
  cases ending <;> rfl

/-- Declared failures decide alike about a table if they are the same but for other commits. -/
theorem Faults.outcome_congr {faults faults' : Faults} (inserts : faults'.inserts = faults.inserts)
    (begins : faults'.begins = faults.begins) {table : String}
    (commits : table ∈ faults'.commits ↔ table ∈ faults.commits) (number rows : Nat) :
    faults'.outcome number table rows = faults.outcome number table rows := by
  unfold outcome
  simp only [inserts, begins, commits]

namespace Store

section Rows

variable {σ : Type} [WordSource σ] {first second last last' : Store} {name : String}

/-- **Rows of twins.** Alike attempts, from idle twins that refuse no commit of a table, give that
table the same rows. -/
theorem rows_of_twins {attempts attempts' : List (Attempt σ)}
    (alike : List.Forall₂ Attempt.Alike attempts attempts') (twins : Twins first second)
    (idle : first.transaction = none) (accepted : name ∉ first.faults.commits)
    (accepted' : name ∉ second.faults.commits) (same : second.rows name = first.rows name)
    (answers : Backend.Answers first (attempts.flatMap Attempt.block) last)
    (answers' : Backend.Answers second (attempts'.flatMap Attempt.block) last') :
    last'.rows name = last.rows name := by
  induction alike generalizing first second with
  | nil =>
    obtain rfl : first = last := answers
    obtain rfl : second = last' := answers'
    exact same
  | @cons attempt attempt' _ _ head _ ih =>
    obtain ⟨middle, here, later⟩ := Backend.answers_append.mp answers
    obtain ⟨middle', here', later'⟩ := Backend.answers_append.mp answers'
    obtain ⟨outcome, rfl⟩ := answers_block attempt idle here
    obtain ⟨outcome', rfl⟩ := answers_block attempt' (twins.transaction.trans idle) here'
    have rows : (second.settled attempt').rows name = (first.settled attempt).rows name := by
      rw [rows_settled, rows_settled, same, head.job]
      by_cases named : attempt.job.table.name = name
      -- neither store refuses this commit, so the attempts end alike and keep the same records
      · have decided : attempt'.outcome = attempt.outcome := by
          rw [outcome, outcome', head.job, named, twins.begins]
          exact Faults.outcome_congr twins.insertFaults twins.beginFaults
            (iff_of_false accepted' accepted) _ _
        rw [attempt.kept_eq, attempt'.kept_eq, decided, head.job, head.source]
      · rw [if_neg named, if_neg named]
    have settled : Twins (first.settled attempt) (second.settled attempt') :=
      ⟨twins.insertFaults, twins.beginFaults, rfl, congrArg (· + 1) twins.begins⟩
    exact ih settled rfl accepted accepted' rows later later'

end Rows

end Store

/-! ### Runs -/

section Runs

variable {β γ σ : Type} [Backend β] [Backend γ] [WordSource σ]

/-- Runs on twins that refuse no commit of a table give it the same rows. -/
theorem run_rows_of_twins (session : Session) {first second : Seeder Store σ}
    (paired : first.Paired second) (twins : Store.Twins first.backend second.backend)
    {name : String} (accepted : name ∉ first.backend.faults.commits)
    (accepted' : name ∉ second.backend.faults.commits)
    (same : second.backend.rows name = first.backend.rows name) :
    (second.run session).seeder.backend.rows name =
      (first.run session).seeder.backend.rows name := by
  cases ready : session.jobs with
  | error unready =>
    rw [first.run_of_unready ready, second.run_of_unready ready]
    exact same
  | ok jobs =>
    obtain ⟨attempts, attempts', alikes, -, -, answers, answers', -⟩ :=
      run_alike ready paired (twins.alikeOn _)
    cases state : first.backend.transaction with
    | none => exact Store.rows_of_twins alikes twins state accepted accepted' same answers answers'
    | some transaction =>
      -- a transaction that was open before the run refuses all of it in both stores
      rw [(Store.answers_blocks_of_open attempts state answers).2,
        (Store.answers_blocks_of_open attempts' (twins.transaction.trans state) answers').2, same]

/-- **What was filled does not depend on how it was settled.** Take two seeders that go on after
failures and have the same source. If their backends answer begins and insertions alike at every
position of the calls of one run, whatever they answer to commits and rollbacks, then both runs make
the same calls with the same tables and records, get the same answers to begins and insertions and
leave the same source. Two stores that differ only in the commits they refuse are such backends, on
every sequence of calls; the runs give the same rows to every table whose commits neither refuses. -/
theorem settling_answers_immaterial (session : Session) :
    (∀ (first : Seeder β σ) (second : Seeder γ σ), first.Paired second →
      Backend.AlikeOn ((first.exchanged session).map Prod.fst) first.backend second.backend →
      (second.exchanged session).map Prod.fst = (first.exchanged session).map Prod.fst ∧
      fillings (second.exchanged session) = fillings (first.exchanged session) ∧
      (second.run session).seeder.source = (first.run session).seeder.source) ∧
    ∀ (first second : Seeder Store σ) (commits : List String), first.Paired second →
      second.backend = first.backend.refusing commits →
      (∀ calls, Backend.AlikeOn calls first.backend second.backend) ∧
      ∀ name, name ∉ first.backend.faults.commits → name ∉ commits →
        (second.run session).seeder.backend.rows name =
          (first.run session).seeder.backend.rows name := by
  refine ⟨fun first second paired alike => exchanged_alike paired alike, ?_⟩
  intro first second commits paired refusing
  have twins : Store.Twins first.backend second.backend := by
    rw [refusing]
    exact Store.twins_refusing commits first.backend
  refine ⟨twins.alikeOn, fun name accepted accepted' => ?_⟩
  refine run_rows_of_twins session paired twins accepted ?_ ?_
  · rw [refusing]
    exact accepted'
  · rw [refusing]
    rfl

end Runs

/-- The unlucky seeder with a store that refuses other commits. -/
def Kennel.refusing (commits : List String) : Seeder Store Script :=
  { Kennel.unlucky with backend := Kennel.unlucky.backend.refusing commits }

theorem Kennel.paired_refusing (commits : List String) :
    Kennel.unlucky.Paired (Kennel.refusing commits) := ⟨rfl, rfl, rfl⟩

/-- Dogs are drawn alike whether their commit is refused or not. If only commits of cats are refused,
the same dogs are stored. -/
theorem settling_answers_immaterial_dogs :
    (((Kennel.refusing ["dogs"]).exchanged Kennel.session).map Prod.fst =
        (Kennel.unlucky.exchanged Kennel.session).map Prod.fst ∧
      ((Kennel.refusing ["dogs"]).run Kennel.session).seeder.backend.commits = 0 ∧
      (Kennel.unlucky.run Kennel.session).seeder.backend.commits = 1) ∧
    ((Kennel.refusing ["cats"]).run Kennel.session).seeder.backend.rows "dogs" =
      (Kennel.unlucky.run Kennel.session).seeder.backend.rows "dogs" := by
  obtain ⟨runs, stores⟩ :=
    @settling_answers_immaterial Store Store Script _ _ _ Kennel.session
  refine ⟨⟨?_, by decide +kernel, by decide +kernel⟩, ?_⟩
  · have alike := (stores _ _ ["dogs"] (Kennel.paired_refusing ["dogs"]) rfl).1
    exact (runs _ _ (Kennel.paired_refusing ["dogs"]) (alike _)).1
  · exact (stores _ _ ["cats"] (Kennel.paired_refusing ["cats"]) rfl).2 "dogs"
      (List.not_mem_nil) (by decide)

end Seeding
