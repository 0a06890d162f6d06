/-
**Runs on the store in memory.**

The declared failures alone say how a table ends (`Faults.outcome`): its begin may be declared to
fail, else the first of its rows that is declared to, else its commit. Rows never fail for another
reason, since a job draws only records that its table can hold.

* `answers_block` — **one attempt** from an idle store: its outcome and the store after it.
* `run_filled` — **a whole run** from an idle store, for every session that is ready, every policy
  and every state of the source: the outcome of each attempt, the rows of each table, the counts of
  the store and the source after it.
-/
import Seeding.Proofs.Engine.Run
import Seeding.Proofs.Plan.Rows

namespace Seeding

/-! ### What declared failures say -/

/-- How a table with so many rows ends in a transaction of that number, all its rows being storable:
the first failure that is declared for it decides. -/
def Faults.outcome (faults : Faults) (number : Nat) (table : String) (rows : Nat) : Outcome :=
  if number ∈ faults.begins then .rolledBack none (.database .poolTimedOut)
  else
    match (List.range' 1 rows).find? fun row => faults.inserts.contains (table, row) with
    | some row => .rolledBack (some row) (.rejected table (.injectedRow row))
    | none =>
      if table ∈ faults.commits then .rolledBack none (.rejected table .injectedCommit)
      else .committed rows

namespace Faults

variable {faults : Faults} {number : Nat} {table : String} {rows : Nat}

theorem outcome_of_begin (declared : number ∈ faults.begins) :
    faults.outcome number table rows = .rolledBack none (.database .poolTimedOut) :=
  if_pos declared

theorem outcome_of_insert (undeclared : number ∉ faults.begins) {row : Nat} (first : 1 ≤ row)
    (last : row ≤ rows) (declared : (table, row) ∈ faults.inserts)
    (least : ∀ earlier, 1 ≤ earlier → earlier < row → (table, earlier) ∉ faults.inserts) :
    faults.outcome number table rows =
      .rolledBack (some row) (.rejected table (.injectedRow row)) := by
  have found : ((List.range' 1 rows).find? fun row => faults.inserts.contains (table, row)) =
      some row := by
    refine List.find?_range'_eq_some.mpr ⟨List.contains_iff_mem.mpr declared, ?_, ?_⟩
    · exact List.mem_range'_1.mpr ⟨first, by omega⟩
    · intro earlier above below
      simpa using least earlier above below
  rw [outcome, if_neg undeclared, found]

theorem outcome_of_rows (undeclared : number ∉ faults.begins)
    (clean : ∀ row, 1 ≤ row → row ≤ rows → (table, row) ∉ faults.inserts) :
    faults.outcome number table rows =
      if table ∈ faults.commits then .rolledBack none (.rejected table .injectedCommit)
      else .committed rows := by
  have found : ((List.range' 1 rows).find? fun row => faults.inserts.contains (table, row)) =
      none := by
    refine List.find?_range'_eq_none.mpr fun row above below => ?_
    simpa using clean row above (by omega)
  rw [outcome, if_neg undeclared, found]

end Faults

namespace Attempt

variable {σ : Type} [WordSource σ]

/-- The records that an attempt has made permanent. -/
def kept (attempt : Attempt σ) : List Record :=
  match attempt.ending with
  | .committed => attempt.drawn.1
  | _ => []

/-- Whether the transaction of an attempt was committed. -/
def isCommitted (attempt : Attempt σ) : Bool :=
  match attempt.ending with
  | .committed => true
  | _ => false

/-- Whether the transaction of an attempt was rolled back: it was if it was opened and failed. -/
def isDiscarded (attempt : Attempt σ) : Bool :=
  match attempt.ending with
  | .broken _ _ _ => true
  | .unconfirmed _ => true
  | _ => false

end Attempt

/-- What attempts make of an idle store. -/
structure Filled {σ : Type} [WordSource σ] (store : Store) (attempts : List (Attempt σ))
    (last : Store) : Prop where
  /-- An attempt ends as the failures say that are declared for its transaction. -/
  outcomes : ∀ (place : Nat) (attempt : Attempt σ), attempts[place]? = some attempt →
    attempt.outcome = store.faults.outcome (store.begins + place + 1) attempt.job.table.name
      attempt.job.rows
  idle : last.transaction = none
  faults : last.faults = store.faults
  /-- A table has the records of its committed attempts after those that it had. -/
  rows : ∀ name, last.rows name = store.rows name ++
    (attempts.filter fun attempt => attempt.job.table.name = name).flatMap Attempt.kept
  begins : last.begins = store.begins + attempts.length
  commits : last.commits = store.commits + attempts.countP Attempt.isCommitted
  rollbacks : last.rollbacks = store.rollbacks + attempts.countP Attempt.isDiscarded

namespace Store

section Blocks

variable {σ : Type} [WordSource σ] {store last : Store} {transaction : Transaction}

/-- **Stored rows.** The attempts at these rows were not declared to fail, and the transaction has
counted and staged them. -/
theorem answers_stored (job : Job) (records : List Record)
    (opened : store.transaction = some transaction)
    (answers : Backend.Answers store (job.stored records) last) :
    ∃ final : Transaction, last = { store with transaction := some final } ∧
      final.staged.toList =
        transaction.staged.toList ++ records.map (fun record => (job.table.name, record)) ∧
      final.attempts.count job.table.name =
        transaction.attempts.count job.table.name + records.length ∧
      ∀ row, transaction.attempts.count job.table.name < row →
        row ≤ transaction.attempts.count job.table.name + records.length →
        (job.table.name, row) ∉ store.faults.inserts := by
  induction records generalizing store transaction with
  | nil =>
    obtain rfl : store = last := answers
    refine ⟨transaction, by rw [← opened], (List.append_nil _).symm, rfl, ?_⟩
    intro row above below
    exact absurd above (Nat.not_lt.mpr below)
  | cons record rest ih =>
    obtain ⟨stored, later⟩ := answers
    obtain ⟨transaction', opened', undeclared, _, step⟩ := insert_ok_inv stored
    obtain rfl : transaction = transaction' := Option.some.inj (opened.symm.trans opened')
    have first : (Backend.perform (.insert job.table record) store).2 =
        { store with transaction := some (transaction.stagedRow job.table.name record) } := step
    rw [first] at later
    obtain ⟨final, reached, staged, counted, undeclared'⟩ := ih rfl later
    have count : (transaction.stagedRow job.table.name record).attempts.count job.table.name =
        transaction.attempts.count job.table.name + 1 := count_attempted transaction _
    rw [count] at counted undeclared'
    refine ⟨final, reached, ?_, ?_, ?_⟩
    · rw [staged, Transaction.stagedRow, Array.toList_push, List.append_assoc]
      rfl
    · rw [counted, List.length_cons]
      omega
    · intro row above below
      rw [List.length_cons] at below
      by_cases next : row = transaction.attempts.count job.table.name + 1
      · rw [next]
        exact undeclared
      · exact undeclared' row (by omega) (by omega)

/-- The rows of a transaction that an idle store has opened. -/
theorem answers_opened (job : Job) (records : List Record) {tail : List Exchange}
    (idle : store.transaction = none)
    (answers : Backend.Answers store ((.begin, .ok ()) :: job.stored records ++ tail) last) :
    store.begins + 1 ∉ store.faults.begins ∧
    (∀ row, 1 ≤ row → row ≤ records.length → (job.table.name, row) ∉ store.faults.inserts) ∧
    ∃ final : Transaction,
      final.staged.toList = records.map (fun record => (job.table.name, record)) ∧
      final.attempts.count job.table.name = records.length ∧
      Backend.Answers { store with begins := store.begins + 1, transaction := some final }
        tail last := by
  obtain ⟨begun, later⟩ := answers
  obtain ⟨undeclared, opened⟩ := begin_ok_inv idle begun
  obtain ⟨middle, rows, rest⟩ := Backend.answers_append.mp later
  have first : (Backend.perform .begin store).2 =
      { store with begins := store.begins + 1, transaction := some {} } := opened
  rw [first] at rows
  obtain ⟨final, rfl, staged, counted, undeclared'⟩ := answers_stored job records rfl rows
  have none : ({} : Transaction).attempts.count job.table.name = 0 := rfl
  rw [none, Nat.zero_add] at counted undeclared'
  exact ⟨undeclared, fun row above below => undeclared' row above below, final, staged, counted,
    rest⟩

/-- A storable row that fails was declared to; its rollback drops the transaction. -/
theorem answers_failure {table : Table} {record : Record} {error : StoreError}
    {answer : Except StoreError Unit} (opened : store.transaction = some transaction)
    (storable : table.verify record = .ok ())
    (answers : Backend.Answers store [(.insert table record, .error error), (.rollback, answer)]
      last) :
    (table.name, transaction.attempts.count table.name + 1) ∈ store.faults.inserts ∧
      error = .rejected table.name (.injectedRow (transaction.attempts.count table.name + 1)) ∧
      last = { store with transaction := none, rollbacks := store.rollbacks + 1 } := by
  obtain ⟨refused, _, rfl⟩ := answers
  obtain ⟨declared, cause, step⟩ := insert_error_inv opened storable refused
  refine ⟨declared, cause, ?_⟩
  show (store.insert table record).2.rollback.2 = _
  rw [step, rollback_of_open rfl]

/-- A commit that fails was declared to for the table of the rows; it drops them. -/
theorem answers_commit_error {name : String} {records : List Record} {error : StoreError}
    (opened : store.transaction = some transaction) (filled : records ≠ [])
    (staged : transaction.staged.toList = records.map fun record => (name, record))
    (answers : Backend.Answers store [(.commit, .error error)] last) :
    name ∈ store.faults.commits ∧ error = .rejected name .injectedCommit ∧
      last = { store with transaction := none, rollbacks := store.rollbacks + 1 } := by
  obtain ⟨refused, rfl⟩ := answers
  change store.commit.1.result = _ at refused
  show _ ∧ _ ∧ store.commit.2 = _
  have decided := refusedCommit?_eq store filled staged
  by_cases declared : name ∈ store.faults.commits
  · rw [if_pos declared] at decided
    rw [commit_of_refused opened decided] at refused ⊢
    exact ⟨declared, (Except.error.inj refused).symm, rfl⟩
  · rw [if_neg declared] at decided
    rw [commit_of_open opened decided] at refused
    cases refused

/-- A commit that succeeds was not declared to fail; it makes the rows permanent. -/
theorem answers_commit_ok {name : String} {records : List Record}
    (opened : store.transaction = some transaction) (filled : records ≠ [])
    (staged : transaction.staged.toList = records.map fun record => (name, record))
    (answers : Backend.Answers store [(.commit, .ok ())] last) :
    name ∉ store.faults.commits ∧
      last = { store with
        committed := store.committed.addAll (records.map fun record => (name, record))
        transaction := none
        commits := store.commits + 1 } := by
  obtain ⟨accepted, rfl⟩ := answers
  change store.commit.1.result = _ at accepted
  show _ ∧ store.commit.2 = _
  have decided := refusedCommit?_eq store filled staged
  by_cases declared : name ∈ store.faults.commits
  · rw [if_pos declared] at decided
    rw [commit_of_refused opened decided] at accepted
    cases accepted
  · rw [if_neg declared] at decided
    rw [commit_of_open opened decided, staged]
    exact ⟨declared, rfl⟩

end Blocks

/-! ### One attempt -/

section Attempts

variable {σ : Type} [WordSource σ] {store last : Store}

/-- A store after an attempt that started when no transaction was open. -/
def settled (store : Store) (attempt : Attempt σ) : Store where
  faults := store.faults
  committed := store.committed.addAll
    (attempt.kept.map fun record => (attempt.job.table.name, record))
  transaction := none
  begins := store.begins + 1
  commits := store.commits + if attempt.isCommitted then 1 else 0
  rollbacks := store.rollbacks + if attempt.isDiscarded then 1 else 0

/-- **One attempt.** An idle store that has answered the calls of an attempt ends it as the declared
failures say, and has settled it. -/
theorem answers_block (attempt : Attempt σ) (idle : store.transaction = none)
    (answers : Backend.Answers store attempt.block last) :
    attempt.outcome = store.faults.outcome (store.begins + 1) attempt.job.table.name
      attempt.job.rows ∧ last = store.settled attempt := by
  obtain ⟨job, source, ending⟩ := attempt
  cases ending with
  | refused error =>
    obtain ⟨refused, rfl⟩ := answers
    obtain ⟨declared, rfl, step⟩ := begin_error_inv idle refused
    refine ⟨(Faults.outcome_of_begin declared).symm, ?_⟩
    show store.begin.2 = _
    rw [step, idle]
    rfl
  | broken before error answer =>
    obtain ⟨undeclared, clean, final, staged, counted, tail⟩ :=
      answers_opened job (job.records before source).1 idle answers
    obtain ⟨declared, cause, rfl⟩ :=
      answers_failure rfl (job.bindings.draw_verified _) tail
    have number : final.attempts.count job.table.name = before :=
      counted.trans (job.length_records before source)
    rw [number] at declared cause
    refine ⟨?_, rfl⟩
    have least : ∀ row : Nat, 1 ≤ row → row < before.val + 1 →
        (job.table.name, row) ∉ store.faults.inserts := by
      intro row above below
      refine clean row above ?_
      rw [← counted, number]
      exact Nat.le_of_lt_succ below
    rw [Faults.outcome_of_insert undeclared (Nat.succ_pos _) before.isLt declared least, ← cause]
    rfl
  | unconfirmed error =>
    obtain ⟨undeclared, clean, final, staged, _, tail⟩ :=
      answers_opened job (job.records job.rows source).1 idle answers
    obtain ⟨declared, cause, rfl⟩ :=
      answers_commit_error rfl (job.records_ne_nil source) staged tail
    refine ⟨?_, rfl⟩
    rw [job.length_records job.rows source] at clean
    rw [Faults.outcome_of_rows undeclared clean, if_pos declared, ← cause]
    rfl
  | committed =>
    obtain ⟨undeclared, clean, final, staged, _, tail⟩ :=
      answers_opened job (job.records job.rows source).1 idle answers
    obtain ⟨declared, rfl⟩ := answers_commit_ok rfl (job.records_ne_nil source) staged tail
    refine ⟨?_, rfl⟩
    rw [job.length_records job.rows source] at clean
    rw [Faults.outcome_of_rows undeclared clean, if_neg declared]
    rfl

/-- A committed attempt adds its records at the end of its table. -/
theorem rows_settled (store : Store) (attempt : Attempt σ) (name : String) :
    (store.settled attempt).rows name =
      store.rows name ++ if attempt.job.table.name = name then attempt.kept else [] := by
  show (store.committed.addAll _).rows name = _
  rw [Ledger.rows_addAll, List.filter_map, List.map_map]
  by_cases same : attempt.job.table.name = name
  · simp [same, Function.comp_def, rows]
  · simp [same, Function.comp_def, rows]

/-! ### Whole runs -/

/-- **Attempts one after the other**, from an idle store. -/
theorem answers_blocks (attempts : List (Attempt σ)) (idle : store.transaction = none)
    (answers : Backend.Answers store (attempts.flatMap Attempt.block) last) :
    Filled store attempts last := by
  induction attempts generalizing store with
  | nil =>
    obtain rfl : store = last := answers
    exact {
      outcomes := fun _ _ member => absurd member (by simp)
      idle
      faults := rfl
      rows := fun _ => (List.append_nil _).symm
      begins := rfl
      commits := rfl
      rollbacks := rfl }
  | cons attempt rest ih =>
    rw [List.flatMap_cons] at answers
    obtain ⟨middle, here, later⟩ := Backend.answers_append.mp answers
    obtain ⟨outcome, rfl⟩ := answers_block attempt idle here
    have filled := ih rfl later
    constructor
    · intro place other member
      cases place with
      | zero =>
        obtain rfl : attempt = other := Option.some.inj member
        exact outcome
      | succ place =>
        rw [Nat.add_comm place 1, ← Nat.add_assoc]
        exact filled.outcomes place other member
    · exact filled.idle
    · exact filled.faults
    · intro name
      rw [filled.rows, rows_settled, List.append_assoc, List.filter_cons]
      by_cases same : attempt.job.table.name = name
      · rw [if_pos same, if_pos (decide_eq_true same), List.flatMap_cons]
      · rw [if_neg same, if_neg (by simpa using same), List.nil_append]
    · rw [filled.begins, settled, List.length_cons, Nat.add_assoc, Nat.add_comm 1]
    · rw [filled.commits, settled, List.countP_cons, Nat.add_assoc, Nat.add_comm (List.countP _ _)]
    · rw [filled.rollbacks, settled, List.countP_cons, Nat.add_assoc,
        Nat.add_comm (List.countP _ _)]

end Attempts

end Store

/-- **A whole run on the store in memory**, in closed form. A run of a session that is ready, from
an idle store with any declared failures and from any source, attempts its jobs in order as far as
the policy lets it. Each attempt ends as the failures say that are declared for its transaction; the
report has the outcomes of the attempts and the skipped jobs after them. No transaction stays open,
each table gets the records of its committed attempts at its end, and the counts go up by the
transactions that were begun, committed and rolled back. -/
theorem run_filled {σ : Type} [WordSource σ] {session : Session} {jobs : List Job}
    (ready : session.jobs = .ok jobs) (seeder : Seeder Store σ)
    (idle : seeder.backend.transaction = none) :
    ∃ (attempts : List (Attempt σ)) (later : List Job),
      jobs = attempts.map Attempt.job ++ later ∧
      Halting seeder.policy attempts later ∧
      Chained seeder.source attempts (seeder.run session).seeder.source ∧
      (seeder.run session).result =
        Report.result { tables := attempts.map Attempt.result ++ later.map Job.skipped } ∧
      Filled seeder.backend attempts (seeder.run session).seeder.backend := by
  obtain ⟨attempts, later, split, halting, result, answers, chained⟩ := seeder.run_attempts ready
  have filled := Store.answers_blocks attempts idle answers
  exact ⟨attempts, later, split, halting, chained, result, filled⟩

/-- A seeder whose first begin is declared to fail, and with it the third dog of a transaction. -/
def Kennel.unlucky : Seeder Store Script where
  backend := { faults := { begins := [1], inserts := [("dogs", 3)] } }
  source := { words := [1, 2, 3] }
  interval := 2
  positive := Nat.two_pos

/-- The first table of a run is refused where the first begin is declared to fail. -/
theorem run_filled_dogs :
    Kennel.session.jobs = .ok [Kennel.job 3 (by decide), Kennel.job 2 (by decide)] ∧
    Kennel.unlucky.backend.transaction = none ∧
    ∃ (attempts : List (Attempt Script)) (later : List Job),
      [Kennel.job 3 (by decide), Kennel.job 2 (by decide)] = attempts.map Attempt.job ++ later ∧
      Filled Kennel.unlucky.backend attempts
        (Kennel.unlucky.run Kennel.session).seeder.backend ∧
      ∀ attempt, attempts[0]? = some attempt →
        attempt.outcome = .rolledBack none (.database .poolTimedOut) := by
  obtain ⟨attempts, later, split, _, _, _, filled⟩ :=
    run_filled Kennel.session_ready Kennel.unlucky rfl
  refine ⟨Kennel.session_ready, rfl, attempts, later, split, filled, fun attempt first => ?_⟩
  rw [filled.outcomes 0 attempt first]
  exact Faults.outcome_of_begin List.mem_cons_self

end Seeding
