/-
**What a call does to the store.**

Each call has a few courses, told apart by whether a transaction is open, whether the call is
declared to fail and, for a row, whether it can be stored. The equations below give the answer and
the next store for each of them; nothing else needs to open the definitions of the calls.
-/
import Seeding.Store.Basic

namespace Seeding

namespace Transaction

/-- The transaction after one more attempt to insert into a table. -/
def attempted (transaction : Transaction) (table : String) : Transaction :=
  { transaction with attempts := transaction.attempts.add table }

/-- The transaction after a row was staged. -/
def stagedRow (transaction : Transaction) (table : String) (record : Record) : Transaction where
  staged := transaction.staged.push (table, record)
  attempts := transaction.attempts.add table

end Transaction

namespace Store

variable {store : Store} {transaction : Transaction} {table : Table} {record : Record}

/-! ### Begin -/

theorem begin_of_open (opened : store.transaction = some transaction) :
    store.begin = ({ result := .error .transactionAlreadyOpen }, store) := by
  simp only [begin, opened]

theorem begin_of_declared (idle : store.transaction = none)
    (declared : store.begins + 1 ∈ store.faults.begins) :
    store.begin = ({ result := .error (.database .poolTimedOut) },
      { store with begins := store.begins + 1 }) := by
  simp only [begin, idle, if_pos declared]

theorem begin_of_idle (idle : store.transaction = none)
    (undeclared : store.begins + 1 ∉ store.faults.begins) :
    store.begin = ({ result := .ok () },
      { store with begins := store.begins + 1, transaction := some {} }) := by
  simp only [begin, idle, if_neg undeclared]

/-- An idle store refuses a begin only if its number is declared. -/
theorem begin_error_inv {error : StoreError} (idle : store.transaction = none)
    (refused : store.begin.1.result = .error error) :
    store.begins + 1 ∈ store.faults.begins ∧ error = .database .poolTimedOut ∧
      store.begin.2 = { store with begins := store.begins + 1 } := by
  by_cases declared : store.begins + 1 ∈ store.faults.begins
  · rw [begin_of_declared idle declared] at refused ⊢
    exact ⟨declared, (Except.error.inj refused).symm, rfl⟩
  · rw [begin_of_idle idle declared] at refused
    cases refused

theorem begin_ok_inv (idle : store.transaction = none) (begun : store.begin.1.result = .ok ()) :
    store.begins + 1 ∉ store.faults.begins ∧
      store.begin.2 = { store with begins := store.begins + 1, transaction := some {} } := by
  by_cases declared : store.begins + 1 ∈ store.faults.begins
  · rw [begin_of_declared idle declared] at begun
    cases begun
  · rw [begin_of_idle idle declared]
    exact ⟨declared, rfl⟩

/-! ### Insert -/

theorem insert_of_idle (idle : store.transaction = none) :
    store.insert table record = ({ result := .error .noTransaction }, store) := by
  simp only [insert, idle]

/-- The number of an attempt is one more than the attempts before it. -/
theorem count_attempted (transaction : Transaction) (table : String) :
    (transaction.attempted table).attempts.count table = transaction.attempts.count table + 1 := by
  simp [Transaction.attempted, Tally.count_add]

theorem insert_of_declared (opened : store.transaction = some transaction)
    (declared : (table.name, transaction.attempts.count table.name + 1) ∈ store.faults.inserts) :
    store.insert table record =
      ({ result := .error (.rejected table.name
          (.injectedRow (transaction.attempts.count table.name + 1))) },
        { store with transaction := some (transaction.attempted table.name) }) := by
  rw [← count_attempted] at declared ⊢
  simp only [insert, opened]
  exact if_pos declared

theorem insert_of_unstorable (opened : store.transaction = some transaction)
    (undeclared : (table.name, transaction.attempts.count table.name + 1) ∉ store.faults.inserts)
    {error : StoreError} (unstorable : table.verify record = .error error) :
    store.insert table record = ({ result := .error error },
      { store with transaction := some (transaction.attempted table.name) }) := by
  rw [← count_attempted] at undeclared
  simp only [insert, opened, unstorable]
  exact if_neg undeclared

theorem insert_of_storable (opened : store.transaction = some transaction)
    (undeclared : (table.name, transaction.attempts.count table.name + 1) ∉ store.faults.inserts)
    (storable : table.verify record = .ok ()) :
    store.insert table record = ({ result := .ok () },
      { store with transaction := some (transaction.stagedRow table.name record) }) := by
  rw [← count_attempted] at undeclared
  simp only [insert, opened, storable]
  exact if_neg undeclared

/-- **What an insertion can do**: it fails without a transaction and changes nothing, it fails in one
and counts, or it stages its row. -/
theorem insert_cases (store : Store) (table : Table) (record : Record) :
    (store.transaction = none ∧
      store.insert table record = ({ result := .error .noTransaction }, store)) ∨
    ∃ transaction, store.transaction = some transaction ∧
      ((∃ error, store.insert table record = ({ result := .error error },
          { store with transaction := some (transaction.attempted table.name) })) ∨
        (table.name, transaction.attempts.count table.name + 1) ∉ store.faults.inserts ∧
          table.verify record = .ok () ∧
          store.insert table record = ({ result := .ok () },
            { store with transaction := some (transaction.stagedRow table.name record) })) := by
  cases state : store.transaction with
  | none => exact Or.inl ⟨rfl, insert_of_idle state⟩
  | some transaction =>
    refine Or.inr ⟨transaction, rfl, ?_⟩
    by_cases declared :
        (table.name, transaction.attempts.count table.name + 1) ∈ store.faults.inserts
    · exact Or.inl ⟨_, insert_of_declared state declared⟩
    · cases checked : table.verify record with
      | error error => exact Or.inl ⟨error, insert_of_unstorable state declared checked⟩
      | ok _ => exact Or.inr ⟨declared, rfl, insert_of_storable state declared checked⟩

/-- A row is stored only in a transaction, undeclared and if the table can hold it. -/
theorem insert_ok_inv (stored : (store.insert table record).1.result = .ok ()) :
    ∃ transaction, store.transaction = some transaction ∧
      (table.name, transaction.attempts.count table.name + 1) ∉ store.faults.inserts ∧
      table.verify record = .ok () ∧
      (store.insert table record).2 =
        { store with transaction := some (transaction.stagedRow table.name record) } := by
  rcases store.insert_cases table record with
    ⟨_, refused⟩ | ⟨transaction, state, ⟨error, refused⟩ | ⟨undeclared, storable, step⟩⟩
  · rw [refused] at stored
    cases stored
  · rw [refused] at stored
    cases stored
  · exact ⟨transaction, state, undeclared, storable, by rw [step]⟩

/-- A storable row fails in a transaction only if its attempt is declared to. -/
theorem insert_error_inv {error : StoreError} (opened : store.transaction = some transaction)
    (storable : table.verify record = .ok ())
    (refused : (store.insert table record).1.result = .error error) :
    let row := transaction.attempts.count table.name + 1
    (table.name, row) ∈ store.faults.inserts ∧ error = .rejected table.name (.injectedRow row) ∧
      (store.insert table record).2 =
        { store with transaction := some (transaction.attempted table.name) } := by
  intro row
  by_cases declared : (table.name, row) ∈ store.faults.inserts
  · rw [insert_of_declared opened declared] at refused ⊢
    exact ⟨declared, (Except.error.inj refused).symm, rfl⟩
  · rw [insert_of_storable opened declared storable] at refused
    cases refused

/-- A record that can be stored is refused only outside a transaction or by a declared failure. -/
theorem insert_refusal {error : StoreError} (storable : table.verify record = .ok ())
    (refused : (store.insert table record).1.result = .error error) :
    error = .noTransaction ∨ ∃ row, error = .rejected table.name (.injectedRow row) := by
  cases state : store.transaction with
  | none =>
    rw [insert_of_idle state] at refused
    exact Or.inl (Except.error.inj refused).symm
  | some transaction => exact Or.inr ⟨_, (insert_error_inv state storable refused).2.1⟩

/-! ### Commit and rollback -/

theorem commit_of_idle (idle : store.transaction = none) :
    store.commit = ({ result := .error .noTransaction }, store) := by
  simp only [commit, idle]

theorem commit_of_refused (opened : store.transaction = some transaction) {name : String}
    (refused : store.refusedCommit? transaction = some name) :
    store.commit = ({ result := .error (.rejected name .injectedCommit)
                      log := [.store (.discardingOnCommit transaction.staged.size)] },
      { store with transaction := none, rollbacks := store.rollbacks + 1 }) := by
  simp only [commit, opened, refused]

theorem commit_of_open (opened : store.transaction = some transaction)
    (accepted : store.refusedCommit? transaction = none) :
    store.commit = ({ result := .ok (), log := [.store (.committing transaction.staged.size)] },
      { store with
        committed := store.committed.addAll transaction.staged.toList
        transaction := none
        commits := store.commits + 1 }) := by
  simp only [commit, opened, accepted]

/-- A commit with rows of one table is refused if the commits of that table are declared to be. -/
theorem refusedCommit?_eq (store : Store) {name : String} {records : List Record}
    (filled : records ≠ [])
    (staged : transaction.staged.toList = records.map fun record => (name, record)) :
    store.refusedCommit? transaction = if name ∈ store.faults.commits then some name else none := by
  obtain ⟨first, rest, rfl⟩ := List.exists_cons_of_ne_nil filled
  rw [refusedCommit?, staged]
  by_cases declared : name ∈ store.faults.commits
  · simp [declared]
  · simp [declared]

theorem rollback_of_idle (idle : store.transaction = none) :
    store.rollback = ({ result := .error .noTransaction }, store) := by
  simp only [rollback, idle]

theorem rollback_of_open (opened : store.transaction = some transaction) :
    store.rollback = ({ result := .ok (), log := [.store (.discarding transaction.staged.size)] },
      { store with transaction := none, rollbacks := store.rollbacks + 1 }) := by
  simp only [rollback, opened]

/-! ### Committed rows -/

theorem begin_committed (store : Store) : store.begin.2.committed = store.committed := by
  cases state : store.transaction with
  | some transaction => rw [begin_of_open state]
  | none =>
    by_cases declared : store.begins + 1 ∈ store.faults.begins
    · rw [begin_of_declared state declared]
    · rw [begin_of_idle state declared]

theorem insert_committed (table : Table) (record : Record) (store : Store) :
    (store.insert table record).2.committed = store.committed := by
  rcases store.insert_cases table record with
    ⟨_, step⟩ | ⟨transaction, _, ⟨error, step⟩ | ⟨_, _, step⟩⟩ <;> rw [step]

theorem rollback_committed (store : Store) : store.rollback.2.committed = store.committed := by
  cases state : store.transaction with
  | none => rw [rollback_of_idle state]
  | some transaction => rw [rollback_of_open state]

/-- A commit makes the staged rows permanent if it succeeds, and none if it fails. -/
theorem commit_committed (store : Store) :
    store.commit.2.committed = store.committed ∨
      store.commit.1.result = .ok () ∧
        ∃ rows, store.commit.2.committed = store.committed.addAll rows := by
  cases state : store.transaction with
  | none => exact Or.inl (by rw [commit_of_idle state])
  | some transaction =>
    cases refused : store.refusedCommit? transaction with
    | some name => exact Or.inl (by rw [commit_of_refused state refused])
    | none =>
      rw [commit_of_open state refused]
      exact Or.inr ⟨rfl, _, rfl⟩

end Store

end Seeding
