/-
**The store in memory.**

The store keeps the rows of committed transactions and the rows staged in the open one. It checks
every record as a database would, and it can be told to fail: at an attempt to insert into a table,
counted from the begin of the transaction; at the commit of a transaction with rows of a table; or
at a begin, counted over the life of the store.
-/
import Seeding.Backend
import Seeding.Store.Rules
import Seeding.Store.Ledger

namespace Seeding

/-- The calls that are declared to fail. -/
structure Faults where
  /-- Attempts to insert: a table and the number of the attempt in its transaction. -/
  inserts : List (String × Nat) := []
  /-- Tables whose rows make a commit fail. -/
  commits : List String := []
  /-- Numbers of begins. -/
  begins : List Nat := []
  deriving DecidableEq, Repr

/-- An open transaction: its rows in order, and the attempts to insert into each table. -/
structure Transaction where
  staged : Array (String × Record) := #[]
  attempts : Tally := []
  deriving DecidableEq, Repr

/-- The store in memory. -/
structure Store where
  faults : Faults := {}
  committed : Ledger := .empty
  transaction : Option Transaction := none
  begins : Nat := 0
  commits : Nat := 0
  rollbacks : Nat := 0
  deriving DecidableEq, Repr

namespace Store

/-- The committed rows of a table, in order. -/
def rows (store : Store) (table : String) : List Record := store.committed.rows table

/-- The committed rows of all tables, in ascending order of their names. -/
def tables (store : Store) : List (String × List Record) :=
  store.committed.entries.map fun entry => (entry.1, entry.2.toList)

/-- Whether a transaction is open. -/
def isOpen (store : Store) : Bool := store.transaction.isSome

/-- Opens a transaction. -/
def begin (store : Store) : Reply × Store :=
  match store.transaction with
  | some _ => ({ result := .error .transactionAlreadyOpen }, store)
  | none =>
    let number := store.begins + 1
    if number ∈ store.faults.begins then
      ({ result := .error (.database .poolTimedOut) }, { store with begins := number })
    else
      ({ result := .ok () }, { store with begins := number, transaction := some {} })

/-- Stages a row in the open transaction. -/
def insert (table : Table) (record : Record) (store : Store) : Reply × Store :=
  match store.transaction with
  | none => ({ result := .error .noTransaction }, store)
  | some transaction =>
    let attempts := transaction.attempts.add table.name
    let counted := { transaction with attempts }
    let number := attempts.count table.name
    if (table.name, number) ∈ store.faults.inserts then
      ({ result := .error (.rejected table.name (.injectedRow number)) },
        { store with transaction := some counted })
    else
      match table.verify record with
      | .error error => ({ result := .error error }, { store with transaction := some counted })
      | .ok () =>
        let staged := transaction.staged.push (table.name, record)
        ({ result := .ok () }, { store with transaction := some { staged, attempts } })

/-- The first staged row of a table whose commit is declared to fail, by the table's name. -/
def refusedCommit? (store : Store) (transaction : Transaction) : Option String :=
  (transaction.staged.toList.find? fun row => row.1 ∈ store.faults.commits).map Prod.fst

/-- Makes the staged rows permanent. -/
def commit (store : Store) : Reply × Store :=
  match store.transaction with
  | none => ({ result := .error .noTransaction }, store)
  | some transaction =>
    match store.refusedCommit? transaction with
    | some table =>
      ({ result := .error (.rejected table .injectedCommit)
         log := [.store (.discardingOnCommit transaction.staged.size)] },
        { store with transaction := none, rollbacks := store.rollbacks + 1 })
    | none =>
      ({ result := .ok (), log := [.store (.committing transaction.staged.size)] },
        { store with
          committed := store.committed.addAll transaction.staged.toList
          transaction := none
          commits := store.commits + 1 })

/-- Drops the staged rows. -/
def rollback (store : Store) : Reply × Store :=
  match store.transaction with
  | none => ({ result := .error .noTransaction }, store)
  | some transaction =>
    ({ result := .ok (), log := [.store (.discarding transaction.staged.size)] },
      { store with transaction := none, rollbacks := store.rollbacks + 1 })

/-- Answers a call. -/
def perform : Call → Store → Reply × Store
  | .begin, store => store.begin
  | .insert table record, store => store.insert table record
  | .commit, store => store.commit
  | .rollback, store => store.rollback

instance : Backend Store where
  perform := perform

end Store

end Seeding
