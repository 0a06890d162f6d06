/-
**One transaction at a time.**

A call fits if it opens a transaction where none is open, or if it needs one and one is open. A
backend keeps its transaction (`Transactional`) if it refuses the calls that do not fit, and no
others, for that reason, and if whether its transaction is open depends on the calls that fit and
their results alone: a begin that succeeds opens it, a commit or a rollback ends it even if it
fails.

* `Transactional.admits_all` — calls that fit one after the other (`Fits`) are all admitted, and
  open and end the transaction of the backend as they say.
* `Fits.balance` — such calls have opened as many transactions as they have ended, but for the open
  one.
* `Store.transactional`, `Postgres.Client.transactional` — the store in memory keeps its
  transaction, and so does a client of any server, whatever the server answers.
-/
import Seeding.Postgres.Client
import Seeding.Proofs.Store.History
import Seeding.Proofs.Store.Rules

namespace Seeding

/-! ### Calls that fit -/

/-- Why a call does not fit, by whether a transaction is open. -/
def Call.refusal? : Call → (isOpen : Bool) → Option StoreError
  | .begin, true => some .transactionAlreadyOpen
  | .begin, false => none
  | _, true => none
  | _, false => some .noTransaction

/-- Whether a call that fits leaves a transaction open, by whether it succeeded. -/
def Call.leavesOpen : Call → (succeeded : Bool) → Bool
  | .begin, succeeded => succeeded
  | .insert _ _, _ => true
  | .commit, _ => false
  | .rollback, _ => false

/-- A call was not refused as one that does not fit. -/
def Exchange.Admitted (exchange : Exchange) : Prop :=
  exchange.2 ≠ .error .noTransaction ∧ exchange.2 ≠ .error .transactionAlreadyOpen

namespace Exchange

theorem admitted_ok (call : Call) : Admitted (call, .ok ()) := by
  simp [Admitted]

/-- A call is admitted if it fails for another reason than those of a call that does not fit. -/
theorem admitted_error (call : Call) {error : StoreError} (needless : error ≠ .noTransaction)
    (single : error ≠ .transactionAlreadyOpen) : Admitted (call, .error error) :=
  ⟨fun same => needless (Except.error.inj same), fun same => single (Except.error.inj same)⟩

end Exchange

/-- Whether an exchange ended a transaction, kept or not. -/
def Exchange.ends : Exchange → Bool
  | (.commit, _) => true
  | (.rollback, _) => true
  | _ => false

/-- Each call fits what the earlier ones have left. -/
def Fits : (isOpen : Bool) → List Exchange → (last : Bool) → Prop
  | isOpen, [], last => isOpen = last
  | isOpen, (call, result) :: rest, last =>
    call.refusal? isOpen = none ∧ Fits (call.leavesOpen result.toBool) rest last

/-- Calls in a row fit one part after the other. -/
theorem fits_append {first second : List Exchange} {isOpen last : Bool} :
    Fits isOpen (first ++ second) last ↔
      ∃ middle, Fits isOpen first middle ∧ Fits middle second last := by
  induction first generalizing isOpen with
  | nil => exact ⟨fun fits => ⟨isOpen, rfl, fits⟩, fun ⟨_, same, fits⟩ => same ▸ fits⟩
  | cons exchange rest ih =>
    simp only [List.cons_append, Fits, ih]
    constructor
    · rintro ⟨fitting, middle, left, right⟩
      exact ⟨middle, ⟨fitting, left⟩, right⟩
    · rintro ⟨middle, ⟨fitting, left⟩, right⟩
      exact ⟨fitting, middle, left, right⟩

namespace Fits

/-- One call that fits opens a transaction or ends it, or does neither. -/
theorem balance_call {call : Call} {isOpen : Bool} (fitting : call.refusal? isOpen = none)
    (result : Except StoreError Unit) :
    (if isOpen then 1 else 0) + (if Exchange.opens (call, result) then 1 else 0) =
      (if Exchange.ends (call, result) then 1 else 0) +
        if call.leavesOpen result.toBool then 1 else 0 := by
  cases call <;> cases isOpen <;> cases result <;> first | rfl | cases fitting

/-- **Calls that fit have opened as many transactions as they have ended**, but for the open one. -/
theorem balance {exchanges : List Exchange} {isOpen last : Bool}
    (fits : Fits isOpen exchanges last) :
    (if isOpen then 1 else 0) + exchanges.countP Exchange.opens =
      exchanges.countP Exchange.ends + if last then 1 else 0 := by
  induction exchanges generalizing isOpen with
  | nil =>
    obtain rfl : isOpen = last := fits
    exact Nat.add_comm _ 0
  | cons exchange rest ih =>
    obtain ⟨call, result⟩ := exchange
    obtain ⟨fitting, later⟩ := fits
    have one := balance_call fitting result
    have others := ih later
    rw [List.countP_cons, List.countP_cons]
    omega

end Fits

/-! ### Backends -/

/-- A backend that tells whether a transaction is open, and that a call does not fit. -/
structure Backend.Transactional {β : Type} [Backend β] (isOpen : β → Bool) : Prop where
  /-- A call that does not fit is refused for that reason and changes nothing. -/
  refuses : ∀ (call : Call) (backend : β) (error : StoreError),
    call.refusal? (isOpen backend) = some error →
      perform call backend = ({ result := .error error }, backend)
  /-- A call that fits is admitted. It opens a transaction if it is a begin that succeeds, and keeps
  the open one only if it is an insertion. -/
  accepts : ∀ (call : Call) (backend : β), call.refusal? (isOpen backend) = none →
    let answer := perform call backend
    Exchange.Admitted (call, answer.1.result) ∧
      isOpen answer.2 = call.leavesOpen answer.1.result.toBool

/-- **Calls that fit are all admitted**, and leave a transaction open if they say so. -/
theorem Backend.Transactional.admits_all {β : Type} [Backend β] {isOpen : β → Bool}
    (transactional : Transactional isOpen) {exchanges : List Exchange} {backend last : β}
    {leftOpen : Bool} (answers : Answers backend exchanges last)
    (fits : Fits (isOpen backend) exchanges leftOpen) :
    (∀ exchange ∈ exchanges, exchange.Admitted) ∧ isOpen last = leftOpen := by
  induction exchanges generalizing backend with
  | nil =>
    obtain rfl : backend = last := answers
    exact ⟨fun _ member => absurd member List.not_mem_nil, fits⟩
  | cons exchange rest ih =>
    obtain ⟨call, result⟩ := exchange
    obtain ⟨rfl, answers⟩ := answers
    obtain ⟨fitting, fits⟩ := fits
    obtain ⟨admitted, follows⟩ := transactional.accepts call backend fitting
    rw [← follows] at fits
    obtain ⟨others, left⟩ := ih answers fits
    exact ⟨List.forall_mem_cons.mpr ⟨admitted, others⟩, left⟩

/-! ### The store in memory -/

namespace Store

variable {store : Store}

/-- A begin that fits is admitted, and opens a transaction if it succeeds. -/
theorem begin_fits (idle : store.transaction = none) :
    Exchange.Admitted (.begin, store.begin.1.result) ∧
      store.begin.2.isOpen = store.begin.1.result.toBool := by
  by_cases declared : store.begins + 1 ∈ store.faults.begins
  · rw [begin_of_declared idle declared, isOpen, idle]
    exact ⟨Exchange.admitted_error _ (by simp) (by simp), rfl⟩
  · rw [begin_of_idle idle declared]
    exact ⟨Exchange.admitted_ok _, rfl⟩

/-- An insertion that fits is admitted, and leaves the transaction open. -/
theorem insert_fits {transaction : Transaction} (opened : store.transaction = some transaction)
    (table : Table) (record : Record) :
    Exchange.Admitted (.insert table record, (store.insert table record).1.result) ∧
      (store.insert table record).2.isOpen = true := by
  by_cases declared : (table.name, transaction.attempts.count table.name + 1) ∈ store.faults.inserts
  · rw [insert_of_declared opened declared]
    exact ⟨Exchange.admitted_error _ (by simp) (by simp), rfl⟩
  · cases checked : table.verify record with
    | ok _ =>
      rw [insert_of_storable opened declared checked]
      exact ⟨Exchange.admitted_ok _, rfl⟩
    | error error =>
      rw [insert_of_unstorable opened declared checked]
      refine ⟨?_, rfl⟩
      -- the rules of the columns know no transactions
      cases Table.ofRecord_of_verify checked <;> exact Exchange.admitted_error _ (by simp) (by simp)

/-- A commit that fits is admitted, and ends the transaction. -/
theorem commit_fits {transaction : Transaction} (opened : store.transaction = some transaction) :
    Exchange.Admitted (.commit, store.commit.1.result) ∧ store.commit.2.isOpen = false := by
  cases refused : store.refusedCommit? transaction with
  | some name =>
    rw [commit_of_refused opened refused]
    exact ⟨Exchange.admitted_error _ (by simp) (by simp), rfl⟩
  | none =>
    rw [commit_of_open opened refused]
    exact ⟨Exchange.admitted_ok _, rfl⟩

/-- A rollback that fits is admitted, and ends the transaction. -/
theorem rollback_fits {transaction : Transaction} (opened : store.transaction = some transaction) :
    Exchange.Admitted (.rollback, store.rollback.1.result) ∧ store.rollback.2.isOpen = false := by
  rw [rollback_of_open opened]
  exact ⟨Exchange.admitted_ok _, rfl⟩

/-- **The store in memory keeps its transaction**, whichever calls are declared to fail. -/
theorem transactional : Backend.Transactional Store.isOpen where
  refuses call store error misfit := by
    rw [isOpen] at misfit
    cases state : store.transaction with
    | none =>
      rw [state] at misfit
      cases call <;> cases misfit
      · exact insert_of_idle state
      · exact commit_of_idle state
      · exact rollback_of_idle state
    | some transaction =>
      rw [state] at misfit
      cases call <;> cases misfit
      exact begin_of_open state
  accepts call store fits := by
    rw [isOpen] at fits
    cases state : store.transaction with
    | none =>
      rw [state] at fits
      cases call <;> cases fits
      exact begin_fits state
    | some transaction =>
      rw [state] at fits
      cases call with
      | begin => cases fits
      | insert table record => exact insert_fits state table record
      | commit => exact commit_fits state
      | rollback => exact rollback_fits state

end Store

/-! ### Clients of a server -/

namespace Postgres.Client

variable {ς : Type} [Server ς]

/-- A call whose statement was sent is admitted, whatever the answer. -/
theorem admitted_sent (call : Call) (statement : String) (answer : Answer) :
    Exchange.Admitted (call, (sent statement answer).result) := by
  cases answer with
  | error error => exact Exchange.admitted_error call (by simp) (by simp)
  | ok _ => exact Exchange.admitted_ok call

theorem toBool_sent (statement : String) (answer : Answer) :
    (sent statement answer).result.toBool = answer.toBool := by
  cases answer <;> rfl

/-- **A client keeps its transaction**, whatever its server answers. -/
theorem transactional : Backend.Transactional (inTransaction : Client ς → Bool) where
  refuses call client error misfit := by
    cases state : client.inTransaction with
    | true =>
      rw [state] at misfit
      cases call <;> cases misfit
      exact if_pos state
    | false =>
      rw [state] at misfit
      cases call <;> cases misfit <;> exact if_neg (Bool.eq_false_iff.mp state)
  accepts call client fits := by
    cases state : client.inTransaction with
    | true =>
      rw [state] at fits
      have sends {sending refusing : Reply × Client ς} :
          (if client.inTransaction then sending else refusing) = sending := if_pos state
      cases call with
      | begin => cases fits
      | insert table record =>
        simp only [Backend.perform, insert, sends]
        exact ⟨admitted_sent _ _ _, state⟩
      | commit =>
        simp only [Backend.perform, commit, sends]
        exact ⟨admitted_sent _ _ _, rfl⟩
      | rollback =>
        simp only [Backend.perform, rollback, sends]
        exact ⟨admitted_sent _ _ _, rfl⟩
    | false =>
      rw [state] at fits
      cases call <;> cases fits
      simp only [Backend.perform, begin, state]
      exact ⟨admitted_sent _ _ _, (toBool_sent _ _).symm⟩

end Postgres.Client

end Seeding
