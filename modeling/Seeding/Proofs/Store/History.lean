/-
**The store as a log of transactions.**

A history is what the answers to a sequence of calls say: the rows of each transaction whose commit
succeeded, in the order of the commits, and the rows of the open one. A row counts if its insert
succeeded; a rollback or a commit that fails forgets the rows of its transaction.

* `tracks_perform` — **one call**: the store's committed and staged rows follow the history.
* `keeps_log` — **any sequence of calls**, from an empty store with any declared failures: the
  rows of a table are those of the committed transactions (`KeepsLog`).
-/
import Seeding.Proofs.Backend.Calls
import Seeding.Proofs.Store.Steps

namespace Seeding

/-! ### Histories -/

/-- The rows that calls have made permanent, by transaction, and those that are still pending. -/
structure History where
  committed : List (List (Table × Record)) := []
  pending : Option (List (Table × Record)) := none

namespace History

/-- The history after one more call and its result. -/
def note (history : History) : Exchange → History
  | (.begin, .ok ()) => { history with pending := some [] }
  | (.insert table record, .ok ()) =>
    { history with pending := history.pending.map (· ++ [(table, record)]) }
  | (.commit, .ok ()) =>
    { committed := history.committed ++ history.pending.toList, pending := none }
  | (.commit, .error _) => { history with pending := none }
  | (.rollback, .ok ()) => { history with pending := none }
  | (_, .error _) => history

/-- The history after a sequence of calls with their results. -/
def ofExchanges (exchanges : List Exchange) : History := exchanges.foldl note {}

/-- The records of some rows that were given for tables of a name, in order. -/
def recordsOf (name : String) (rows : List (Table × Record)) : List Record :=
  (rows.filter fun row => row.1.name = name).map Prod.snd

/-- The committed records of a table, in the order of the commits and then of the inserts. -/
def rows (history : History) (name : String) : List Record :=
  history.committed.flatMap (recordsOf name)

end History

/-- Whether an exchange opened a transaction. -/
def Exchange.opens : Exchange → Bool
  | (.begin, .ok ()) => true
  | _ => false

namespace Transaction

/-- Rows as a transaction stages them, under the names of their tables. -/
def named (rows : List (Table × Record)) : List (String × Record) :=
  rows.map fun row => (row.1.name, row.2)

/-- The staged records of a name are those that were given for tables of that name. -/
theorem records_named (name : String) (rows : List (Table × Record)) :
    ((named rows).filter fun row => row.1 = name).map Prod.snd = History.recordsOf name rows := by
  simp only [named, History.recordsOf, List.filter_map, List.map_map]
  rfl

end Transaction

namespace Store

/-! ### One call -/

/-- The store is where the history of its calls says, after so many transactions were opened. -/
structure Tracks (store : Store) (history : History) (opened : Nat) : Prop where
  rows : ∀ name, store.rows name = history.rows name
  staged : (store.transaction.map fun transaction => transaction.staged.toList) =
    history.pending.map Transaction.named
  committed_storable : ∀ rows ∈ history.committed, ∀ row ∈ rows, row.1.verify row.2 = .ok ()
  pending_storable : ∀ rows ∈ history.pending, ∀ row ∈ rows, row.1.verify row.2 = .ok ()
  opened : opened = store.commits + store.rollbacks + if store.isOpen then 1 else 0

variable {store : Store} {history : History} {opened : Nat}

/-- An idle store has no pending rows in its history. -/
theorem Tracks.pending_of_idle (tracks : Tracks store history opened)
    (idle : store.transaction = none) : history.pending = none := by
  simpa [idle] using tracks.staged.symm

/-- An open transaction has staged the pending rows of the history. -/
theorem Tracks.pending_of_open (tracks : Tracks store history opened) {transaction : Transaction}
    (state : store.transaction = some transaction) :
    ∃ rows, history.pending = some rows ∧
      transaction.staged.toList = Transaction.named rows := by
  have staged := tracks.staged
  rw [state, eq_comm] at staged
  obtain ⟨rows, pending, named⟩ := Option.map_eq_some_iff.mp staged
  exact ⟨rows, pending, named.symm⟩

/-- The commits and rollbacks of an idle store have closed all its transactions. -/
theorem Tracks.opened_of_idle (tracks : Tracks store history opened)
    (idle : store.transaction = none) : opened = store.commits + store.rollbacks := by
  simpa [isOpen, idle] using tracks.opened

/-- The commits and rollbacks of a store have closed all its transactions but the open one. -/
theorem Tracks.opened_of_open (tracks : Tracks store history opened) {transaction : Transaction}
    (state : store.transaction = some transaction) :
    opened = store.commits + store.rollbacks + 1 := by
  simpa [isOpen, state] using tracks.opened

/-- What a store tracks is told by its rows, the staged ones and the two counts. -/
theorem Tracks.of_same (tracks : Tracks store history opened) {next : Store}
    (committed : next.committed = store.committed)
    (staged : (next.transaction.map fun transaction => transaction.staged.toList) =
      store.transaction.map fun transaction => transaction.staged.toList)
    (commits : next.commits = store.commits) (rollbacks : next.rollbacks = store.rollbacks) :
    Tracks next history opened where
  rows name := by rw [← tracks.rows, Store.rows, committed, Store.rows]
  staged := by rw [← tracks.staged, staged]
  committed_storable := tracks.committed_storable
  pending_storable := tracks.pending_storable
  opened := by
    have sameOpen : next.isOpen = store.isOpen := by
      simpa [isOpen] using congrArg Option.isSome staged
    rw [tracks.opened, commits, rollbacks, sameOpen]

/-- A begin keeps the invariant. -/
theorem Tracks.begin (tracks : Tracks store history opened) :
    Tracks store.begin.2 (history.note (.begin, store.begin.1.result))
      (opened + if Exchange.opens (.begin, store.begin.1.result) then 1 else 0) := by
  cases state : store.transaction with
  | some transaction =>
    rw [begin_of_open state]
    exact tracks
  | none =>
    by_cases declared : store.begins + 1 ∈ store.faults.begins
    · rw [begin_of_declared state declared]
      exact tracks.of_same rfl rfl rfl rfl
    · rw [begin_of_idle state declared]
      exact {
        rows := tracks.rows
        staged := rfl
        committed_storable := tracks.committed_storable
        pending_storable := by simp [History.note]
        opened := congrArg (· + 1) (tracks.opened_of_idle state) }

/-- An insert keeps the invariant. -/
theorem Tracks.insert (tracks : Tracks store history opened) (table : Table) (record : Record) :
    Tracks (store.insert table record).2
      (history.note (.insert table record, (store.insert table record).1.result)) opened := by
  rcases store.insert_cases table record with
    ⟨_, step⟩ | ⟨transaction, state, ⟨error, step⟩ | ⟨_, storable, step⟩⟩
  · rw [step]
    exact tracks
  · rw [step]
    exact tracks.of_same rfl (by rw [state]; rfl) rfl rfl
  · rw [step]
    obtain ⟨rows, pending, named⟩ := tracks.pending_of_open state
    exact {
      rows := tracks.rows
      staged := by simp [History.note, pending, Transaction.stagedRow, named, Transaction.named]
      committed_storable := tracks.committed_storable
      pending_storable := by
        have earlier := tracks.pending_storable rows pending
        simpa [History.note, pending, or_imp, forall_and, storable] using earlier
      opened := tracks.opened_of_open state }

/-- A commit keeps the invariant. -/
theorem Tracks.commit (tracks : Tracks store history opened) :
    Tracks store.commit.2 (history.note (.commit, store.commit.1.result)) opened := by
  cases state : store.transaction with
  | none =>
    rw [commit_of_idle state]
    have pending := tracks.pending_of_idle state
    have unchanged : history.note (.commit, .error .noTransaction) = history := by
      rw [History.note, ← pending]
    rw [unchanged]
    exact tracks
  | some transaction =>
    have closed := tracks.opened_of_open state
    cases refused : store.refusedCommit? transaction with
    | some name =>
      rw [commit_of_refused state refused]
      exact {
        rows := tracks.rows
        staged := rfl
        committed_storable := tracks.committed_storable
        pending_storable := by simp [History.note]
        opened := closed.trans (Nat.add_assoc _ _ _) }
    | none =>
      rw [commit_of_open state refused]
      obtain ⟨rows, pending, named⟩ := tracks.pending_of_open state
      exact {
        rows := fun name => by
          have before : store.committed.rows name = history.rows name := tracks.rows name
          show (store.committed.addAll transaction.staged.toList).rows name = _
          rw [Ledger.rows_addAll, named, Transaction.records_named, before]
          simp [History.note, History.rows, pending]
        staged := rfl
        committed_storable := fun rows member => by
          rcases List.mem_append.mp member with before | last
          · exact tracks.committed_storable rows before
          · exact tracks.pending_storable rows (Option.mem_toList.mp last)
        pending_storable := by simp [History.note]
        opened := closed.trans (Nat.add_right_comm _ _ _) }

/-- A rollback keeps the invariant. -/
theorem Tracks.rollback (tracks : Tracks store history opened) :
    Tracks store.rollback.2 (history.note (.rollback, store.rollback.1.result)) opened := by
  cases state : store.transaction with
  | none =>
    rw [rollback_of_idle state]
    exact tracks
  | some transaction =>
    rw [rollback_of_open state]
    exact {
      rows := tracks.rows
      staged := rfl
      committed_storable := tracks.committed_storable
      pending_storable := by simp [History.note]
      opened := (tracks.opened_of_open state).trans (Nat.add_assoc _ _ _) }

/-- **One call.** Every call keeps the store where the history of its calls says. -/
theorem tracks_perform (call : Call) (tracks : Tracks store history opened) :
    let answer := Backend.perform call store
    Tracks answer.2 (history.note (call, answer.1.result))
      (opened + if Exchange.opens (call, answer.1.result) then 1 else 0) := by
  cases call with
  | begin => exact tracks.begin
  | insert table record => exact tracks.insert table record
  | commit => exact tracks.commit
  | rollback => exact tracks.rollback

/-- A call leaves the committed rows alone, unless it is a commit that succeeds. -/
theorem rows_perform (call : Call) (store : Store) (name : String) :
    let answer := Backend.perform call store
    answer.2.rows name = store.rows name ∨
      (call = .commit ∧ answer.1.result = .ok ()) ∧ store.rows name <+: answer.2.rows name := by
  simp only [rows]
  cases call with
  | begin => exact Or.inl (congrArg (Ledger.rows · name) store.begin_committed)
  | insert table record =>
    exact Or.inl (congrArg (Ledger.rows · name) (store.insert_committed table record))
  | rollback => exact Or.inl (congrArg (Ledger.rows · name) store.rollback_committed)
  | commit =>
    rcases store.commit_committed with unchanged | ⟨succeeded, rows, added⟩
    · exact Or.inl (congrArg (Ledger.rows · name) unchanged)
    · refine Or.inr ⟨⟨rfl, succeeded⟩, ?_⟩
      show store.committed.rows name <+: store.commit.2.committed.rows name
      rw [added, Ledger.rows_addAll]
      exact List.prefix_append _ _

/-! ### The list of tables -/

/-- Tables are listed in ascending order of their names. -/
theorem tables_ordered (store : Store) : (store.tables.map Prod.fst).Pairwise (· < ·) := by
  have names : store.tables.map Prod.fst = store.committed.entries.map Prod.fst := by
    rw [tables, List.map_map]
    rfl
  rw [names]
  exact store.committed.ordered

/-- A table is listed if it has rows, and then with all of them. -/
theorem mem_tables_iff (store : Store) {name : String} {records : List Record} :
    (name, records) ∈ store.tables ↔ store.rows name = records ∧ records ≠ [] := by
  have listed := @Ledger.mem_entries_iff store.committed name records.toArray
  rw [rows, tables, List.mem_map]
  constructor
  · rintro ⟨⟨key, rows⟩, member, same⟩
    obtain ⟨rfl, rfl⟩ := Prod.mk.inj same
    have filled := store.committed.mem_entries_iff.mp member
    exact ⟨filled.1, fun empty => filled.2 (Array.toList_eq_nil_iff.mp empty)⟩
  · rintro ⟨same, filled⟩
    refine ⟨(name, records.toArray), listed.mpr ⟨same, ?_⟩, rfl⟩
    exact fun empty => filled (congrArg Array.toList empty)

/-! ### Any sequence of calls -/

/-- What a sequence of calls with their results says of the store that they lead to. -/
structure KeepsLog (store : Store) (exchanges : List Exchange) : Prop where
  /-- A table has the records whose inserts and then whose commits succeeded, in this order. -/
  rows : ∀ name, store.rows name = (History.ofExchanges exchanges).rows name
  /-- One more call keeps the rows as a prefix, and only a commit that succeeds changes them. -/
  grows : ∀ (call : Call) (name : String),
    store.rows name <+: (Backend.perform call store).2.rows name ∧
      ((Backend.perform call store).2.rows name ≠ store.rows name →
        call = .commit ∧ (Backend.perform call store).1.result = .ok ())
  /-- A committed record passed the check of the table that it was given for. -/
  storable : ∀ rows ∈ (History.ofExchanges exchanges).committed,
    ∀ row ∈ rows, row.1.verify row.2 = .ok ()
  /-- Tables are listed in ascending order. -/
  ordered : (store.tables.map Prod.fst).Pairwise (· < ·)
  /-- Just the tables with rows are listed, each with its rows. -/
  listed : ∀ (name : String) (records : List Record),
    (name, records) ∈ store.tables ↔ store.rows name = records ∧ records ≠ []
  /-- Every transaction that was opened was committed, was rolled back or is open. -/
  opened : exchanges.countP Exchange.opens =
    store.commits + store.rollbacks + if store.isOpen then 1 else 0

/-- The invariant holds after any sequence of calls if it holds before. -/
theorem Tracks.after (tracks : Tracks store history opened) (calls : List Call) :
    Tracks (Backend.after calls store)
      ((Backend.exchanges calls store).foldl History.note history)
      (opened + (Backend.exchanges calls store).countP Exchange.opens) := by
  induction calls generalizing store history opened with
  | nil => exact tracks
  | cons call rest ih =>
    have later := ih (tracks_perform call tracks)
    rw [Backend.exchanges, List.countP_cons, Nat.add_comm (List.countP _ _), ← Nat.add_assoc]
    exact later

/-- An empty store is where the empty history says. -/
theorem tracks_empty (faults : Faults) : Tracks { faults } {} 0 where
  rows _ := rfl
  staged := rfl
  committed_storable _ member := absurd member List.not_mem_nil
  pending_storable _ member := by cases member
  opened := rfl

/-- **The store is an atomic log of its transactions.** After any sequence of calls from an empty
store, with any declared failures and whichever calls failed, the rows of a table are those of the
committed transactions. -/
theorem keeps_log (faults : Faults) (calls : List Call) :
    let empty : Store := { faults }
    (Backend.exchanges calls empty).map Prod.fst = calls ∧
      KeepsLog (Backend.after calls empty) (Backend.exchanges calls empty) := by
  intro empty
  refine ⟨Backend.calls_exchanges calls empty, ?_⟩
  have tracks := (tracks_empty faults).after calls
  constructor
  · exact tracks.rows
  · intro call name
    rcases rows_perform call (Backend.after calls empty) name with same | ⟨committed, grown⟩
    · exact ⟨same ▸ List.prefix_refl _, fun changed => absurd same changed⟩
    · exact ⟨grown, fun _ => committed⟩
  · exact tracks.committed_storable
  · exact tables_ordered _
  · exact fun name records => mem_tables_iff _
  · rw [← tracks.opened, Nat.zero_add]

end Store

end Seeding
