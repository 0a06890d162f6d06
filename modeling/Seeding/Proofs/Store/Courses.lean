/-
**The courses that a call can take.**

A call that does not fit is refused and changes nothing. A call that fits takes one of a few courses,
each with its result and its next store, told apart by what is declared to fail and by the rules of
the columns. `course_perform`: every call takes one of them. What calls keep and what they count is
proved by going through the courses, with no look at how a call is answered.
-/
import Seeding.Proofs.Backend.Transactions

namespace Seeding.Store

/-- A call that a store answers with this result takes it to that store. -/
inductive Course (store : Store) : Call → Except StoreError Unit → Store → Prop
  /-- The call does not fit. -/
  | misplaced {call : Call} {error : StoreError}
      (misfit : call.refusal? store.isOpen = some error) : Course store call (.error error) store
  | beginRefused (idle : store.transaction = none)
      (declared : store.begins + 1 ∈ store.faults.begins) :
      Course store .begin (.error (.database .poolTimedOut))
        { store with begins := store.begins + 1 }
  | begun (idle : store.transaction = none)
      (undeclared : store.begins + 1 ∉ store.faults.begins) :
      Course store .begin (.ok ())
        { store with begins := store.begins + 1, transaction := some {} }
  | rowRefused {table : Table} {record : Record} {transaction : Transaction}
      (opened : store.transaction = some transaction)
      (declared : (table.name, transaction.attempts.count table.name + 1) ∈ store.faults.inserts) :
      Course store (.insert table record)
        (.error (.rejected table.name
          (.injectedRow (transaction.attempts.count table.name + 1))))
        { store with transaction := some (transaction.attempted table.name) }
  | rowUnstorable {table : Table} {record : Record} {transaction : Transaction}
      {error : StoreError} (opened : store.transaction = some transaction)
      (undeclared :
        (table.name, transaction.attempts.count table.name + 1) ∉ store.faults.inserts)
      (unstorable : table.verify record = .error error) :
      Course store (.insert table record) (.error error)
        { store with transaction := some (transaction.attempted table.name) }
  | rowStaged {table : Table} {record : Record} {transaction : Transaction}
      (opened : store.transaction = some transaction)
      (undeclared :
        (table.name, transaction.attempts.count table.name + 1) ∉ store.faults.inserts)
      (storable : table.verify record = .ok ()) :
      Course store (.insert table record) (.ok ())
        { store with transaction := some (transaction.stagedRow table.name record) }
  | commitRefused {transaction : Transaction} {name : String}
      (opened : store.transaction = some transaction)
      (refused : store.refusedCommit? transaction = some name) :
      Course store .commit (.error (.rejected name .injectedCommit))
        { store with transaction := none, rollbacks := store.rollbacks + 1 }
  | committed {transaction : Transaction} (opened : store.transaction = some transaction)
      (accepted : store.refusedCommit? transaction = none) :
      Course store .commit (.ok ())
        { store with
          committed := store.committed.addAll transaction.staged.toList
          transaction := none
          commits := store.commits + 1 }
  | rolledBack {transaction : Transaction} (opened : store.transaction = some transaction) :
      Course store .rollback (.ok ())
        { store with transaction := none, rollbacks := store.rollbacks + 1 }

variable {store next : Store} {call : Call} {result : Except StoreError Unit}

theorem isOpen_of_idle (idle : store.transaction = none) : store.isOpen = false := by
  rw [isOpen, idle]
  rfl

theorem isOpen_of_open {transaction : Transaction}
    (opened : store.transaction = some transaction) : store.isOpen = true := by
  rw [isOpen, opened]
  rfl

/-- A call that does not fit takes the course of a call that does not fit. -/
theorem course_of_misfit {error : StoreError} (misfit : call.refusal? store.isOpen = some error) :
    Course store call (Backend.perform call store).1.result (Backend.perform call store).2 := by
  rw [transactional.refuses call store error misfit]
  exact .misplaced misfit

/-- **Every call takes one of the courses.** -/
theorem course_perform (call : Call) (store : Store) :
    Course store call (Backend.perform call store).1.result (Backend.perform call store).2 := by
  cases state : store.transaction with
  | none =>
    have idle : store.isOpen = false := isOpen_of_idle state
    cases call with
    | begin =>
      simp only [Backend.perform, perform]
      by_cases declared : store.begins + 1 ∈ store.faults.begins
      · rw [begin_of_declared state declared]
        exact .beginRefused state declared
      · rw [begin_of_idle state declared]
        exact .begun state declared
    | _ => exact course_of_misfit (by rw [idle]; rfl)
  | some transaction =>
    cases call with
    | begin => exact course_of_misfit (by rw [isOpen_of_open state]; rfl)
    | insert table record =>
      simp only [Backend.perform, perform]
      by_cases declared :
          (table.name, transaction.attempts.count table.name + 1) ∈ store.faults.inserts
      · rw [insert_of_declared state declared]
        exact .rowRefused state declared
      · cases checked : table.verify record with
        | error error =>
          rw [insert_of_unstorable state declared checked]
          exact .rowUnstorable state declared checked
        | ok _ =>
          rw [insert_of_storable state declared checked]
          exact .rowStaged state declared checked
    | commit =>
      simp only [Backend.perform, perform]
      cases refused : store.refusedCommit? transaction with
      | some name =>
        rw [commit_of_refused state refused]
        exact .commitRefused state refused
      | none =>
        rw [commit_of_open state refused]
        exact .committed state refused
    | rollback =>
      simp only [Backend.perform, perform]
      rw [rollback_of_open state]
      exact .rolledBack state

/-- A call that fails takes a course with its error. -/
theorem course_of_failed (call : Call) {error : StoreError}
    (failed : (Backend.perform call store).1.result = .error error) :
    Course store call (.error error) (Backend.perform call store).2 := by
  have course := course_perform call store
  rwa [failed] at course

/-- No call changes what is declared to fail. -/
theorem Course.faults (course : Course store call result next) : next.faults = store.faults := by
  cases course <;> rfl

end Seeding.Store
