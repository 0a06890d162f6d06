/-
**Which calls declared failures hit.**

A failure is declared under a number. Which call has that number is told by the exchanges alone: an
attempt to insert into a table follows the attempts into it since the last begin that succeeded,
whatever became of them (`attemptsInto`), and a begin follows the begins that found no transaction
open (`idleBegins`). The rows that can make a commit fail are those whose insertion succeeded in the
open transaction (`History.pending`).

* `Numbered.course` — **one call**: the store counts as its exchanges do.
* `failures_hit_declared` — **any sequence of calls**, from an empty store with any declared
  failures: the next call fails because it was declared to exactly if its own number, or the table of
  a staged row, is declared (`HitsDeclared`).
-/
import Mathlib
import Seeding.Proofs.Backend.InStep
import Seeding.Proofs.Store.Courses

namespace Seeding

/-! ### Numbers of calls -/

namespace Exchange

/-- Whether an exchange is an attempt to insert into a table of this name. -/
def isAttempt (name : String) : Exchange → Bool
  | (.insert table _, _) => table.name == name
  | _ => false

/-- Whether an exchange is a begin. -/
def isBegin : Exchange → Bool
  | (.begin, _) => true
  | _ => false

end Exchange

/-- The attempts to insert into a table of this name since the last begin that succeeded. -/
def attemptsInto (name : String) (exchanges : List Exchange) : Nat :=
  (exchanges.rtakeWhile fun exchange => !exchange.opens).countP (Exchange.isAttempt name)

/-- The begins among some exchanges that found no transaction open, by the history before them. -/
def History.idleBegins : History → List Exchange → Nat
  | _, [] => 0
  | history, exchange :: rest =>
    (if exchange.isBegin && history.pending.isNone then 1 else 0) +
      idleBegins (history.note exchange) rest

/-- The begins of a sequence of exchanges that found no transaction open. -/
def idleBegins (exchanges : List Exchange) : Nat := History.idleBegins {} exchanges

/-- A begin that succeeds starts the numbers of attempts anew. -/
theorem attemptsInto_opened (name : String) (earlier : List Exchange) {exchange : Exchange}
    (opens : exchange.opens = true) : attemptsInto name (earlier ++ [exchange]) = 0 := by
  rw [attemptsInto, List.rtakeWhile_concat_neg _ _ _ (by simp [opens]), List.countP_nil]

/-- Any other exchange adds at most itself. -/
theorem attemptsInto_concat (name : String) (earlier : List Exchange) {exchange : Exchange}
    (remains : exchange.opens = false) :
    attemptsInto name (earlier ++ [exchange]) =
      attemptsInto name earlier + if exchange.isAttempt name then 1 else 0 := by
  rw [attemptsInto, List.rtakeWhile_concat_pos _ _ _ (by simp [remains]), List.countP_append,
    List.countP_singleton, attemptsInto]

theorem History.idleBegins_concat (history : History) (earlier : List Exchange)
    (exchange : Exchange) :
    history.idleBegins (earlier ++ [exchange]) = history.idleBegins earlier +
      if exchange.isBegin && (earlier.foldl note history).pending.isNone then 1 else 0 := by
  induction earlier generalizing history with
  | nil => simp [idleBegins]
  | cons first rest ih =>
    rw [List.cons_append, idleBegins, ih, idleBegins, List.foldl_cons, Nat.add_assoc]

theorem idleBegins_concat (earlier : List Exchange) (exchange : Exchange) :
    idleBegins (earlier ++ [exchange]) = idleBegins earlier +
      if exchange.isBegin && (History.ofExchanges earlier).pending.isNone then 1 else 0 :=
  History.idleBegins_concat {} earlier exchange

namespace Store

variable {store next : Store} {exchanges : List Exchange} {call : Call}
  {result : Except StoreError Unit}

/-! ### One call -/

/-- A store that tracks a history has a transaction open if the history does. -/
theorem Tracks.isOpen {history : History} {opened : Nat} (tracks : Tracks store history opened) :
    store.isOpen = history.pending.isSome := by
  simpa [Store.isOpen] using congrArg Option.isSome tracks.staged

/-- A store counts as its exchanges do. -/
structure Numbered (store : Store) (exchanges : List Exchange) : Prop where
  attempts : ∀ transaction, store.transaction = some transaction →
    ∀ name, transaction.attempts.count name = attemptsInto name exchanges
  begins : store.begins = idleBegins exchanges

/-- Without a transaction there are no attempts to count. -/
theorem Numbered.of_idle (idle : store.transaction = none)
    (begins : store.begins = idleBegins exchanges) : Numbered store exchanges where
  attempts transaction opened := by
    rw [idle] at opened
    cases opened
  begins := begins

/-- An exchange that is no begin leaves the number of begins. -/
theorem idleBegins_other (other : Exchange.isBegin (call, result) = false) :
    idleBegins (exchanges ++ [(call, result)]) = idleBegins exchanges := by
  rw [idleBegins_concat, other]
  rfl

/-- A begin on an idle store adds one to the number of begins. -/
theorem idleBegins_idle (agrees : store.isOpen = (History.ofExchanges exchanges).pending.isSome)
    (idle : store.transaction = none) :
    idleBegins (exchanges ++ [(.begin, result)]) = idleBegins exchanges + 1 := by
  have absent : (History.ofExchanges exchanges).pending.isNone = true := by
    rw [isOpen_of_idle idle] at agrees
    simpa using agrees.symm
  rw [idleBegins_concat, absent]
  rfl

/-- An attempt adds one to the number of attempts into its table. -/
theorem Numbered.attempted (numbered : Numbered store exchanges) {table : Table} {record : Record}
    {transaction final : Transaction} (opened : store.transaction = some transaction)
    (counted : final.attempts = transaction.attempts.add table.name) :
    Numbered { store with transaction := some final }
      (exchanges ++ [(.insert table record, result)]) where
  attempts other same name := by
    obtain rfl : final = other := Option.some.inj same
    rw [counted, Tally.count_add, numbered.attempts transaction opened,
      attemptsInto_concat name exchanges (by cases result <;> rfl)]
    simp [Exchange.isAttempt]
  begins := numbered.begins.trans (idleBegins_other rfl).symm

/-- **One call** keeps the counts of the store at the numbers of its exchanges. -/
theorem Numbered.course (numbered : Numbered store exchanges)
    (agrees : store.isOpen = (History.ofExchanges exchanges).pending.isSome)
    (course : Course store call result next) :
    Numbered next (exchanges ++ [(call, result)]) := by
  cases course with
  | misplaced misfit =>
    cases state : store.transaction with
    | none =>
      rw [isOpen_of_idle state] at misfit
      refine .of_idle state ?_
      rw [numbered.begins, idleBegins_other]
      cases call with
      | begin => cases misfit
      | _ => rfl
    | some transaction =>
      rw [isOpen_of_open state] at misfit
      cases call <;> cases misfit
      have pending : (History.ofExchanges exchanges).pending.isNone = false := by
        rw [isOpen_of_open state] at agrees
        simpa using agrees.symm
      refine ⟨fun transaction opened name => ?_, ?_⟩
      · rw [numbered.attempts transaction opened, attemptsInto_concat name exchanges rfl]
        rfl
      · rw [numbered.begins, idleBegins_concat, pending]
        rfl
  | beginRefused idle =>
    refine .of_idle idle ?_
    rw [idleBegins_idle agrees idle, ← numbered.begins]
  | begun idle =>
    refine ⟨fun transaction opened name => ?_, ?_⟩
    · obtain rfl : {} = transaction := Option.some.inj opened
      rw [attemptsInto_opened name exchanges rfl]
      rfl
    · rw [idleBegins_idle agrees idle, ← numbered.begins]
  | rowRefused opened => exact numbered.attempted opened rfl
  | rowUnstorable opened => exact numbered.attempted opened rfl
  | rowStaged opened => exact numbered.attempted opened rfl
  | commitRefused | committed | rolledBack =>
    exact .of_idle rfl (numbered.begins.trans (idleBegins_other rfl).symm)

/-! ### Any sequence of calls -/

/-- Whether the history of its calls has a transaction open tells whether the store has. -/
theorem isOpen_after (faults : Faults) (calls : List Call) :
    (Backend.after calls ({ faults } : Store)).isOpen =
      (History.ofExchanges (Backend.exchanges calls ({ faults } : Store))).pending.isSome :=
  ((tracks_empty faults).after calls).isOpen

/-- An empty store counts as its exchanges do, after any sequence of calls. -/
theorem numbered_after (faults : Faults) (calls : List Call) :
    Numbered (Backend.after calls ({ faults } : Store))
      (Backend.exchanges calls ({ faults } : Store)) := by
  induction calls using List.reverseRecOn with
  | nil => exact .of_idle rfl rfl
  | append_singleton earlier call ih =>
    rw [Backend.after_append, Backend.exchanges_append]
    exact ih.course (isOpen_after faults earlier) (course_perform call _)

/-- No sequence of calls changes what is declared to fail. -/
theorem faults_after (calls : List Call) (store : Store) :
    (Backend.after calls store).faults = store.faults := by
  induction calls generalizing store with
  | nil => rfl
  | cons call rest ih => exact (ih _).trans (course_perform call store).faults

/-! ### Calls that are declared to fail -/

section Declared

variable {transaction : Transaction} {rows : List (Table × Record)}

/-- An attempt in a transaction is rejected if its number is declared; else the rules of the columns
decide. -/
theorem insert_result (opened : store.transaction = some transaction) (table : Table)
    (record : Record) :
    let number := transaction.attempts.count table.name + 1
    (store.insert table record).1.result =
      if (table.name, number) ∈ store.faults.inserts then
        .error (.rejected table.name (.injectedRow number))
      else table.verify record := by
  intro number
  by_cases declared : (table.name, number) ∈ store.faults.inserts
  · rw [insert_of_declared opened declared, if_pos declared]
  · rw [if_neg declared]
    cases checked : table.verify record with
    | error error => rw [insert_of_unstorable opened declared checked]
    | ok _ => rw [insert_of_storable opened declared checked]

/-- The rules of the columns reject no row, so a rejected attempt was declared to fail. -/
theorem insert_rejected_iff (opened : store.transaction = some transaction) (table : Table)
    (record : Record) :
    (∃ name reason, (store.insert table record).1.result = .error (.rejected name reason)) ↔
      (table.name, transaction.attempts.count table.name + 1) ∈ store.faults.inserts := by
  rw [insert_result opened table record]
  constructor
  · rintro ⟨name, reason, rejected⟩
    by_contra undeclared
    rw [if_neg undeclared] at rejected
    cases Table.ofRecord_of_verify rejected
  · intro declared
    exact ⟨_, _, if_pos declared⟩

/-- A begin without a transaction fails if its number is declared. -/
theorem begin_result (idle : store.transaction = none) :
    store.begin.1.result =
      if store.begins + 1 ∈ store.faults.begins then .error (.database .poolTimedOut)
      else .ok () := by
  by_cases declared : store.begins + 1 ∈ store.faults.begins
  · rw [begin_of_declared idle declared, if_pos declared]
  · rw [begin_of_idle idle declared, if_neg declared]

theorem begin_database_iff (idle : store.transaction = none) :
    (∃ error, store.begin.1.result = .error (.database error)) ↔
      store.begins + 1 ∈ store.faults.begins := by
  rw [begin_result idle]
  constructor
  · rintro ⟨error, failed⟩
    by_contra undeclared
    rw [if_neg undeclared] at failed
    cases failed
  · intro declared
    exact ⟨_, if_pos declared⟩

/-- A commit fails for the first staged row of a table whose commits are declared to. -/
theorem commit_result (opened : store.transaction = some transaction)
    (staged : transaction.staged.toList = Transaction.named rows) :
    store.commit.1.result =
      match rows.find? fun row => row.1.name ∈ store.faults.commits with
      | some row => .error (.rejected row.1.name .injectedCommit)
      | none => .ok () := by
  have refused : store.refusedCommit? transaction =
      (rows.find? fun row => row.1.name ∈ store.faults.commits).map fun row => row.1.name := by
    rw [refusedCommit?, staged, Transaction.named, List.find?_map, Option.map_map]
    rfl
  cases found : rows.find? fun row => row.1.name ∈ store.faults.commits with
  | none =>
    rw [found] at refused
    rw [commit_of_open opened refused]
  | some row =>
    rw [found] at refused
    rw [commit_of_refused opened refused]

theorem commit_error_iff (opened : store.transaction = some transaction)
    (staged : transaction.staged.toList = Transaction.named rows) :
    (∃ error, store.commit.1.result = .error error) ↔
      ∃ row ∈ rows, row.1.name ∈ store.faults.commits := by
  rw [commit_result opened staged]
  cases found : rows.find? fun row => row.1.name ∈ store.faults.commits with
  | none =>
    have accepted := List.find?_eq_none.mp found
    simpa using accepted
  | some row =>
    have declared := List.find?_some found
    exact iff_of_true ⟨_, rfl⟩ ⟨row, List.mem_of_find?_eq_some found, by simpa using declared⟩

/-- The error of a commit names the table of the first staged row whose commits are declared. -/
theorem commit_error (opened : store.transaction = some transaction)
    (staged : transaction.staged.toList = Transaction.named rows) {error : StoreError}
    (failed : store.commit.1.result = .error error) :
    ∃ earlier row later, rows = earlier ++ row :: later ∧
      (∀ other ∈ earlier, other.1.name ∉ store.faults.commits) ∧
      row.1.name ∈ store.faults.commits ∧ error = .rejected row.1.name .injectedCommit := by
  rw [commit_result opened staged] at failed
  cases found : rows.find? fun row => row.1.name ∈ store.faults.commits with
  | none =>
    rw [found] at failed
    cases failed
  | some row =>
    rw [found] at failed
    cases failed
    obtain ⟨declared, earlier, later, split, accepted⟩ := List.find?_eq_some_iff_append.mp found
    exact ⟨earlier, row, later, split, by simpa using accepted, by simpa using declared, rfl⟩

end Declared

/-- What declared failures make of the next call, after some exchanges that led to a store. -/
structure HitsDeclared (faults : Faults) (exchanges : List Exchange) (store : Store) : Prop where
  /-- The exchanges tell whether a transaction is open. -/
  isOpen : store.isOpen = (History.ofExchanges exchanges).pending.isSome
  /-- In a transaction, an attempt to insert is rejected exactly if its number is declared for its
  table. This is decided first; only then the rules of the columns say whether the row is staged. -/
  insert : store.isOpen = true → ∀ (table : Table) (record : Record),
    let number := attemptsInto table.name exchanges + 1
    let result := (store.insert table record).1.result
    ((∃ name reason, result = .error (.rejected name reason)) ↔
        (table.name, number) ∈ faults.inserts) ∧
      result = if (table.name, number) ∈ faults.inserts then
          .error (.rejected table.name (.injectedRow number))
        else table.verify record
  /-- Without a transaction, a begin fails exactly if its number is declared. -/
  begin : store.isOpen = false →
    let number := idleBegins exchanges + 1
    ((∃ error, store.begin.1.result = .error (.database error)) ↔ number ∈ faults.begins) ∧
      store.begin.1.result =
        if number ∈ faults.begins then .error (.database .poolTimedOut) else .ok ()
  /-- A commit of staged rows fails exactly if the commits of the table of one of them are declared
  to, and the error names the table of the first such row. -/
  commit : ∀ rows, (History.ofExchanges exchanges).pending = some rows →
    ((∃ error, store.commit.1.result = .error error) ↔
        ∃ row ∈ rows, row.1.name ∈ faults.commits) ∧
      ∀ error, store.commit.1.result = .error error →
        ∃ earlier row later, rows = earlier ++ row :: later ∧
          (∀ other ∈ earlier, other.1.name ∉ faults.commits) ∧ row.1.name ∈ faults.commits ∧
          error = .rejected row.1.name .injectedCommit

/-- **Declared failures hit exactly the calls that they declare.** Make any sequence of calls to an
empty store with any declared failures. The next attempt to insert into a table is rejected exactly
if its number in the transaction is declared, before its record is looked at; the next begin fails
exactly if its number is declared; and the next commit fails exactly if the commits of a table with
staged rows are. -/
theorem failures_hit_declared (faults : Faults) (calls : List Call) :
    let empty : Store := { faults }
    HitsDeclared faults (Backend.exchanges calls empty) (Backend.after calls empty) := by
  intro empty
  have agrees : (Backend.after calls empty).isOpen = _ := isOpen_after faults calls
  have numbered : Numbered (Backend.after calls empty) _ := numbered_after faults calls
  have tracks := (tracks_empty faults).after calls
  have same : (Backend.after calls empty).faults = faults := faults_after calls empty
  refine ⟨agrees, fun opened table record => ?_, fun idle => ?_, fun rows pending => ?_⟩
  · obtain ⟨transaction, state⟩ := Option.isSome_iff_exists.mp opened
    have number := numbered.attempts transaction state table.name
    rw [← number, ← same]
    exact ⟨insert_rejected_iff state table record, insert_result state table record⟩
  · have state := Option.not_isSome_iff_eq_none.mp (Bool.eq_false_iff.mp idle)
    rw [← numbered.begins, ← same]
    exact ⟨begin_database_iff state, begin_result state⟩
  · rw [pending] at agrees
    obtain ⟨transaction, state⟩ := Option.isSome_iff_exists.mp agrees
    obtain ⟨rows', pending', staged⟩ := tracks.pending_of_open state
    obtain rfl : rows = rows' := Option.some.inj (pending.symm.trans pending')
    rw [← same]
    exact ⟨commit_error_iff state staged, fun error failed => commit_error state staged failed⟩

end Store

/-- Calls to the stranded store: a begin that fails, another, and a dog of which nothing is known. -/
def Kennel.nameless : List Call := [.begin, .begin, .insert dogs Record.empty]

/-- The dog of which nothing is known is not stored but counts, so the next dog is the second. -/
theorem failures_hit_declared_dogs :
    let store := Backend.after Kennel.nameless Kennel.strandedStore
    store.isOpen = true ∧
      (store.insert Kennel.dogs Kennel.pug).1.result =
        .error (.rejected "dogs" (.injectedRow 2)) := by
  have hits := Store.failures_hit_declared Kennel.strandedStore.faults Kennel.nameless
  have opened : (Backend.after Kennel.nameless Kennel.strandedStore).isOpen = true := rfl
  exact ⟨opened, (hits.insert opened Kennel.dogs Kennel.pug).2⟩

end Seeding
