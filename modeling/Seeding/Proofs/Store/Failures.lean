/-
**What calls that fail leave behind.**

A call that does not fit leaves nothing behind. If all such calls are left out of a sequence, the
others are answered as before and lead to the same state, in every backend that keeps its transaction
(`Transactional.exchanges_fitting`). A call that fits and fails changes what it must and no more: a
begin the number of begins, an insertion the number of attempts into its table, and a commit drops
the staged rows and counts as a rollback (`SparedByFailures`).

Main statement: `failures_spare`, for every store and every sequence of calls.
-/
import Seeding.Proofs.Backend.InStep
import Seeding.Proofs.Store.Courses

namespace Seeding

/-! ### Calls that do not fit -/

/-- Whether a call was refused as one that does not fit. -/
def Exchange.isMisplaced : Exchange → Bool
  | (_, .error .noTransaction) => true
  | (_, .error .transactionAlreadyOpen) => true
  | _ => false

/-- The exchanges but for the calls that were refused as not fitting. -/
def Exchange.fitting (exchanges : List Exchange) : List Exchange :=
  exchanges.filter fun exchange => !exchange.isMisplaced

/-- Why a call is refused if it does not fit. -/
def Call.misfit : Call → StoreError
  | .begin => .transactionAlreadyOpen
  | _ => .noTransaction

theorem Call.error_of_refusal {call : Call} {opened : Bool} {error : StoreError}
    (refused : call.refusal? opened = some error) : error = call.misfit := by
  cases call <;> cases opened <;> cases refused <;> rfl

theorem Exchange.isMisplaced_misfit (call : Call) :
    isMisplaced (call, .error call.misfit) = true := by
  cases call <;> rfl

theorem Exchange.Admitted.isMisplaced_eq_false {call : Call} {result : Except StoreError Unit}
    (admitted : Exchange.Admitted (call, result)) :
    Exchange.isMisplaced (call, result) = false := by
  obtain ⟨needed, single⟩ := admitted
  cases result with
  | ok _ => rfl
  | error error =>
    cases error with
    | noTransaction => exact absurd rfl needed
    | transactionAlreadyOpen => exact absurd rfl single
    | _ => rfl

namespace Backend.Transactional

variable {β : Type} [Backend β] {isOpen : β → Bool}

/-- **Calls that do not fit can be left out.** The calls that fit are answered as before, and lead
where all of them led. -/
theorem exchanges_fitting (transactional : Transactional isOpen) (calls : List Call)
    (backend : β) :
    exchanges ((Exchange.fitting (exchanges calls backend)).map Prod.fst) backend =
        Exchange.fitting (exchanges calls backend) ∧
      after ((Exchange.fitting (exchanges calls backend)).map Prod.fst) backend =
        after calls backend := by
  induction calls generalizing backend with
  | nil => exact ⟨rfl, rfl⟩
  | cons call rest ih =>
    obtain ⟨answers, leads⟩ := ih (perform call backend).2
    have later : after (call :: rest) backend = after rest (perform call backend).2 := rfl
    cases place : call.refusal? (isOpen backend) with
    | some error =>
      have refused := transactional.refuses call backend error place
      have misplaced : Exchange.isMisplaced (call, (perform call backend).1.result) = true := by
        rw [refused, Call.error_of_refusal place]
        exact Exchange.isMisplaced_misfit call
      have omitted : Exchange.fitting (exchanges (call :: rest) backend) =
          Exchange.fitting (exchanges rest (perform call backend).2) :=
        List.filter_cons_of_neg (by simp [misplaced])
      have unchanged : (perform call backend).2 = backend := congrArg Prod.snd refused
      rw [omitted, later]
      rw [unchanged] at answers leads ⊢
      exact ⟨answers, leads⟩
    | none =>
      have admitted := (transactional.accepts call backend place).1.isMisplaced_eq_false
      have kept : Exchange.fitting (exchanges (call :: rest) backend) =
          (call, (perform call backend).1.result) ::
            Exchange.fitting (exchanges rest (perform call backend).2) :=
        List.filter_cons_of_pos (by simp [admitted])
      rw [kept, later, List.map_cons, exchanges, answers]
      exact ⟨rfl, leads⟩

end Backend.Transactional

namespace Store

/-! ### Calls that fit and fail -/

variable {store next : Store} {error : StoreError}

/-- A call that does not fit changes nothing. -/
theorem Course.misplaced_frame {call : Call} (course : Course store call (.error error) next)
    (misplaced : error = .noTransaction ∨ error = .transactionAlreadyOpen) : next = store := by
  cases course with
  | misplaced misfit => rfl
  | beginRefused | rowRefused | commitRefused => simp at misplaced
  | rowUnstorable opened undeclared unstorable =>
    -- the rules of the columns know no transactions
    cases Table.ofRecord_of_verify unstorable <;> simp at misplaced

/-- A begin that fits and fails changes the number of begins. -/
theorem Course.begin_frame (course : Course store .begin (.error error) next)
    (single : error ≠ .transactionAlreadyOpen) :
    error = .database .poolTimedOut ∧ next = { store with begins := store.begins + 1 } := by
  cases course with
  | misplaced misfit => exact absurd (Call.error_of_refusal misfit) single
  | beginRefused => exact ⟨rfl, rfl⟩

/-- An insertion that fits and fails changes the number of attempts into its table. -/
theorem Course.insert_frame {table : Table} {record : Record}
    (course : Course store (.insert table record) (.error error) next)
    (needed : error ≠ .noTransaction) :
    ∃ before after : Transaction, store.transaction = some before ∧
      next = { store with transaction := some after } ∧ after.staged = before.staged ∧
      ∀ name, after.attempts.count name =
        before.attempts.count name + if table.name = name then 1 else 0 := by
  cases course with
  | misplaced misfit => exact absurd (Call.error_of_refusal misfit) needed
  | @rowRefused _ _ transaction opened =>
    exact ⟨transaction, _, opened, rfl, rfl, fun name => Tally.count_add _ _ _⟩
  | @rowUnstorable _ _ transaction _ opened =>
    exact ⟨transaction, _, opened, rfl, rfl, fun name => Tally.count_add _ _ _⟩

/-- A commit that fits and fails drops the staged rows and counts as a rollback. -/
theorem Course.commit_frame (course : Course store .commit (.error error) next)
    (needed : error ≠ .noTransaction) :
    store.isOpen = true ∧
      next = { store with transaction := none, rollbacks := store.rollbacks + 1 } := by
  cases course with
  | misplaced misfit => exact absurd (Call.error_of_refusal misfit) needed
  | commitRefused opened => exact ⟨isOpen_of_open opened, rfl⟩

/-- A rollback fails only if it does not fit. -/
theorem Course.rollback_fails (course : Course store .rollback (.error error) next) :
    error = .noTransaction := by
  cases course with
  | misplaced misfit => exact Call.error_of_refusal misfit

/-- What the next call leaves of a store if it fails. -/
structure SparedByFailures (store : Store) : Prop where
  /-- A call that does not fit leaves the store as it is. -/
  misplaced : ∀ (call : Call) (error : StoreError),
    (Backend.perform call store).1.result = .error error →
    error = .noTransaction ∨ error = .transactionAlreadyOpen →
      (Backend.perform call store).2 = store
  /-- A begin that is declared to fail adds to the begins. -/
  begin : ∀ error, store.begin.1.result = .error error → error ≠ .transactionAlreadyOpen →
    error = .database .poolTimedOut ∧ store.begin.2 = { store with begins := store.begins + 1 }
  /-- An insertion that fails, for whatever reason, adds to the attempts into its table. The
  transaction stays open with the rows that it has staged. -/
  insert : ∀ (table : Table) (record : Record) (error : StoreError),
    (store.insert table record).1.result = .error error → error ≠ .noTransaction →
      ∃ before after : Transaction, store.transaction = some before ∧
        (store.insert table record).2 = { store with transaction := some after } ∧
        after.staged = before.staged ∧
        ∀ name, after.attempts.count name =
          before.attempts.count name + if table.name = name then 1 else 0
  /-- A commit that fails drops the staged rows and adds to the rollbacks. -/
  commit : ∀ error, store.commit.1.result = .error error → error ≠ .noTransaction →
    store.isOpen = true ∧
      store.commit.2 = { store with transaction := none, rollbacks := store.rollbacks + 1 }
  /-- A rollback fails only if it does not fit. -/
  rollback : ∀ error, store.rollback.1.result = .error error → error = .noTransaction

/-- Every store is spared by calls that fail. -/
theorem sparedByFailures (store : Store) : SparedByFailures store where
  misplaced call _ failed misplaced := (course_of_failed call failed).misplaced_frame misplaced
  begin _ failed single := (course_of_failed .begin failed).begin_frame single
  insert table record _ failed needed :=
    (course_of_failed (.insert table record) failed).insert_frame needed
  commit _ failed needed := (course_of_failed .commit failed).commit_frame needed
  rollback _ failed := (course_of_failed .rollback failed).rollback_fails

/-- **Calls that fail leave the store intact.** Make any sequence of calls to any store. If the calls
that were refused as not fitting are left out, the others get the same results and lead to the same
store. A call that comes next and fails for another reason changes only the count that it must: a
begin the begins, an insertion the attempts into its table, and a commit drops the staged rows and is
counted as a rollback. -/
theorem failures_spare (store : Store) (calls : List Call) :
    let fitting := Exchange.fitting (Backend.exchanges calls store)
    Backend.exchanges (fitting.map Prod.fst) store = fitting ∧
      Backend.after (fitting.map Prod.fst) store = Backend.after calls store ∧
      SparedByFailures (Backend.after calls store) := by
  intro fitting
  obtain ⟨answers, leads⟩ := transactional.exchanges_fitting calls store
  exact ⟨answers, leads, sparedByFailures _⟩

end Store

/-- Without the commit and the rollback that need a transaction and the begin that finds one open, the
muddle leads to the same store. -/
theorem failures_spare_dogs :
    let fitting := Exchange.fitting (Backend.exchanges Kennel.muddle Kennel.strandedStore)
    fitting.map Prod.fst = [.begin, .begin, .insert Kennel.dogs Kennel.pug,
        .insert Kennel.dogs Kennel.pug, .commit] ∧
      Backend.after (fitting.map Prod.fst) Kennel.strandedStore =
        Backend.after Kennel.muddle Kennel.strandedStore :=
  ⟨by decide +kernel, (Store.failures_spare Kennel.strandedStore Kennel.muddle).2.1⟩

end Seeding
