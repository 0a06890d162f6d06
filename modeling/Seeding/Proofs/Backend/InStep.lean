/-
**Two backends in step.**

Take two backends that keep their transaction and give both the same calls, in any order. Whether a
call fits depends on nothing but whether a transaction is open, and so does whether one is open
afterwards, once it is known that the call succeeded. So the two stay in step as long as they agree
on the calls that fit: they give the same verdict on every call, and both have a transaction open or
neither has.

* `Transactional.in_step` — one call keeps two such backends in step.
* `backends_in_step` — a client of any server and a store in memory are in step at every call, if
  the server and the store agree on the calls that reach them (`AgreeOn`).
-/
import Seeding.Postgres.Scripted
import Seeding.Proofs.Backend.Transactions
import Seeding.Proofs.Plan.Rows

namespace Seeding

/-! ### Verdicts -/

/-- What the result of a call tells about the transaction: the call went well, or did not fit, or
failed for a reason that has nothing to do with its place. -/
inductive Verdict where
  | ok
  | noTransaction
  | transactionAlreadyOpen
  | failed
  deriving DecidableEq, Repr

/-- The verdict on a call with this result. -/
def Verdict.of : Except StoreError Unit → Verdict
  | .ok () => .ok
  | .error .noTransaction => .noTransaction
  | .error .transactionAlreadyOpen => .transactionAlreadyOpen
  | .error _ => .failed

/-- The verdict on an admitted call tells whether it succeeded, and no more. -/
theorem Exchange.Admitted.verdict {call : Call} {result : Except StoreError Unit}
    (admitted : Exchange.Admitted (call, result)) :
    Verdict.of result = if result.toBool then .ok else .failed := by
  obtain ⟨needed, single⟩ := admitted
  cases result with
  | ok _ => rfl
  | error error =>
    cases error with
    | noTransaction => exact absurd rfl needed
    | transactionAlreadyOpen => exact absurd rfl single
    | _ => rfl

/-! ### One call -/

namespace Backend

variable {β γ : Type} [Backend β] [Backend γ]

/-- The verdict that a backend gives on a call. -/
def verdict (call : Call) (backend : β) : Verdict := Verdict.of (perform call backend).1.result

/-- Two backends take a call in step. -/
structure InStep (isOpen : β → Bool) (isOpen' : γ → Bool) (call : Call) (first : β) (second : γ) :
    Prop where
  /-- Before the call both have a transaction open, or neither has. -/
  before : isOpen first = isOpen' second
  /-- Both give the same verdict. -/
  verdict : verdict call first = verdict call second
  /-- So it is after the call. -/
  after : isOpen (perform call first).2 = isOpen' (perform call second).2
  /-- If the call fits and fails, it leaves no transaction open, unless it is an insertion, which
  leaves it open. -/
  failed : Backend.verdict call first = .failed →
    isOpen (perform call first).2 = call.leavesOpen false

namespace Transactional

variable {isOpen : β → Bool} {isOpen' : γ → Bool}

/-- A call that does not fit is refused with that verdict, and changes nothing. -/
theorem verdict_of_misfit (transactional : Transactional isOpen) {call : Call} {backend : β}
    {error : StoreError} (misfit : call.refusal? (isOpen backend) = some error) :
    verdict call backend = Verdict.of (.error error) ∧ (perform call backend).2 = backend := by
  unfold verdict
  rw [transactional.refuses call backend error misfit]
  exact ⟨rfl, rfl⟩

/-- The verdict on a call that fits tells whether it succeeded. -/
theorem verdict_of_fit (transactional : Transactional isOpen) {call : Call} {backend : β}
    (fits : call.refusal? (isOpen backend) = none) :
    verdict call backend =
      if (perform call backend).1.result.toBool then .ok else .failed :=
  (transactional.accepts call backend fits).1.verdict

/-- A call is refused with one of the two verdicts on calls that do not fit. -/
theorem verdict_ne_failed {call : Call} {opened : Bool} {error : StoreError}
    (misfit : call.refusal? opened = some error) : Verdict.of (.error error) ≠ .failed := by
  cases call <;> cases opened <;> cases misfit <;> decide

/-- **One call keeps two backends in step**, if they agree on whether it succeeds in case it fits. -/
theorem in_step (transactional : Transactional isOpen) (transactional' : Transactional isOpen')
    {call : Call} {first : β} {second : γ} (before : isOpen first = isOpen' second)
    (agree : call.refusal? (isOpen first) = none →
      (perform call first).1.result.toBool = (perform call second).1.result.toBool) :
    InStep isOpen isOpen' call first second := by
  cases place : call.refusal? (isOpen first) with
  | some error =>
    have place' : call.refusal? (isOpen' second) = some error := before ▸ place
    obtain ⟨verdict, unchanged⟩ := transactional.verdict_of_misfit place
    obtain ⟨verdict', unchanged'⟩ := transactional'.verdict_of_misfit place'
    refine ⟨before, verdict.trans verdict'.symm, ?_, fun failed => ?_⟩
    · rw [unchanged, unchanged']
      exact before
    · exact absurd (verdict.symm.trans failed) (verdict_ne_failed place)
  | none =>
    have place' : call.refusal? (isOpen' second) = none := before ▸ place
    have succeeds := agree place
    have follows := (transactional.accepts call first place).2
    have follows' := (transactional'.accepts call second place').2
    refine ⟨before, ?_, ?_, fun failed => ?_⟩
    · rw [transactional.verdict_of_fit place, transactional'.verdict_of_fit place', succeeds]
    · rw [follows, follows', succeeds]
    · rw [transactional.verdict_of_fit place] at failed
      have unsuccessful : (perform call first).1.result.toBool = false := by
        by_contra success
        rw [Bool.not_eq_false] at success
        rw [if_pos success] at failed
        cases failed
      rw [follows, unsuccessful]

end Transactional

end Backend

/-! ### A client and a store -/

namespace Postgres

variable {ς : Type} [Server ς]

/-- What a server answers to the statement of a call. -/
def Server.answer (server : ς) : Call → Answer
  | .begin => (Server.begin server).1
  | .insert table record => (Server.execute (insertStatement table record) server).1
  | .commit => (Server.commit server).1
  | .rollback => (Server.rollback server).1

/-- A call that fits succeeds if the server says so. -/
theorem Client.toBool_of_fit {call : Call} {client : Client ς}
    (fits : call.refusal? client.inTransaction = none) :
    (Backend.perform call client).1.result.toBool = (Server.answer client.server call).toBool := by
  cases state : client.inTransaction <;> rw [state] at fits <;> cases call <;> cases fits <;>
    simp only [Backend.perform, Client.begin, Client.insert, Client.commit, Client.rollback, state,
      if_true, Bool.false_eq_true, if_false, Server.answer, Client.toBool_sent]

/-- Along the calls, the server and the store agree on whether a call succeeds, whenever it fits and
so gets to them. -/
def AgreeOn : List Call → Client ς → Store → Prop
  | [], _, _ => True
  | call :: rest, client, store =>
    (call.refusal? client.inTransaction = none → call.refusal? store.isOpen = none →
      (Server.answer client.server call).toBool =
        (Backend.perform call store).1.result.toBool) ∧
    AgreeOn rest (Backend.perform call client).2 (Backend.perform call store).2

instance AgreeOn.decidable :
    (calls : List Call) → (client : Client ς) → (store : Store) →
      Decidable (AgreeOn calls client store)
  | [], _, _ => inferInstanceAs (Decidable True)
  | call :: rest, client, store =>
    let _ := decidable rest (Backend.perform call client).2 (Backend.perform call store).2
    inferInstanceAs (Decidable ((call.refusal? client.inTransaction = none →
      call.refusal? store.isOpen = none → (Server.answer client.server call).toBool =
        (Backend.perform call store).1.result.toBool) ∧
      AgreeOn rest (Backend.perform call client).2 (Backend.perform call store).2))

end Postgres

/-- **A dry run keeps step with a server.** Give the same calls, in any order, to a client of any
server and to a store in memory with any declared failures, both without an open transaction. If the
server and the store agree on whether a call succeeds, whenever the call fits, then both give the
same verdict on every call, and at every moment both have a transaction open or neither has: a begin
or a commit that fails leaves both idle, an insertion that fails leaves both open. -/
theorem backends_in_step {ς : Type} [Postgres.Server ς] {calls : List Call}
    {client : Postgres.Client ς} {store : Store}
    (idle : client.inTransaction = false) (idle' : store.isOpen = false)
    (agree : Postgres.AgreeOn calls client store) :
    ∀ earlier call later, calls = earlier ++ call :: later →
      Backend.InStep Postgres.Client.inTransaction Store.isOpen call
        (Backend.after earlier client) (Backend.after earlier store) := by
  intro earlier call later split
  have before : client.inTransaction = store.isOpen := idle.trans idle'.symm
  clear idle idle'
  -- the calls before this one keep both in step, whatever state they start from
  induction earlier generalizing calls client store with
  | nil =>
    subst split
    refine Postgres.Client.transactional.in_step Store.transactional before fun fits => ?_
    rw [Postgres.Client.toBool_of_fit fits]
    exact agree.1 fits (before ▸ fits)
  | cons other rest ih =>
    subst split
    obtain ⟨here, later⟩ := agree
    refine ih later rfl ?_
    refine (Postgres.Client.transactional.in_step Store.transactional before fun fits => ?_).after
    rw [Postgres.Client.toBool_of_fit fits]
    exact here fits (before ▸ fits)

namespace Kennel

/-- A dog of unknown age. -/
def pug : Record :=
  ((Record.empty.set "name" (.text "Rex")).set "breed" (.enumerant "PUG")).set "age" .null

/-- Calls of which some do not fit: the first commit, the third begin and the last rollback. -/
def muddle : List Call :=
  [.commit, .begin, .begin, .begin, .insert dogs pug, .insert dogs pug, .commit, .rollback]

/-- A client of a server that fails the first BEGIN, the second INSERT and the first COMMIT. -/
def strandedClient : Postgres.Client Postgres.ScriptedServer where
  server := {
    faults := [
      { kind := "BEGIN", number := 1, message := "starting up" },
      { kind := "INSERT", number := 2, message := "out of disk" },
      { kind := "COMMIT", number := 1, message := "out of disk" }] }

/-- A store that is declared to fail the first begin, the second dog and the commit of dogs. -/
def strandedStore : Store where
  faults := { begins := [1], inserts := [("dogs", 2)], commits := ["dogs"] }

end Kennel

/-- The commit of dogs fails on both sides, after a begin and an insertion that did, and leaves both
idle. -/
theorem backends_in_step_dogs :
    Kennel.strandedClient.inTransaction = false ∧ Kennel.strandedStore.isOpen = false ∧
    Postgres.AgreeOn Kennel.muddle Kennel.strandedClient Kennel.strandedStore ∧
    (Backend.exchanges Kennel.muddle Kennel.strandedClient).map (Verdict.of ·.2) =
      [.noTransaction, .failed, .ok, .transactionAlreadyOpen, .ok, .failed, .failed,
        .noTransaction] ∧
    Backend.InStep Postgres.Client.inTransaction Store.isOpen .commit
      (Backend.after (Kennel.muddle.take 6) Kennel.strandedClient)
      (Backend.after (Kennel.muddle.take 6) Kennel.strandedStore) := by
  have agree : Postgres.AgreeOn Kennel.muddle Kennel.strandedClient Kennel.strandedStore := by
    decide +kernel
  exact ⟨rfl, rfl, agree, by decide +kernel,
    backends_in_step rfl rfl agree (Kennel.muddle.take 6) .commit [.rollback] rfl⟩

end Seeding
