/-
**Sessions and the declarations that make them.**

A table is declared by what is done with its new plan: steps that may be refused, each chosen by the
answers to those before, and an answer at the end. Such a procedure may pass a refusal on or pass
over it, and it may leave a plan that is half configured. Procedures whose steps are declarations
build whole sessions in the same way.

Whether a declaration succeeds, and with which plan, does not depend on the session. So a session
has the plans of the declarations that succeeded, in order, and nothing else (`plans_after`), and one
that is built by declarations in a row fails with the first refusal that is passed on
(`changed_inOrder`).

Main statement: `declarations_collected`, for every sequence of declarations and every way to build
a session.
-/
import Seeding.Proofs.Plan.Declarations
import Seeding.Proofs.Session

namespace Seeding

/-! ### Procedures -/

/-- Steps that may be refused, each chosen by the answers to those before, and an answer at the
end. -/
inductive Procedure (ι : Type) where
  | answer (result : Except DeclarationError Unit)
  | step (item : ι) (next : Except DeclarationError Unit → Procedure ι)

namespace Procedure

variable {ι σ : Type} (attempt : σ → ι → Except DeclarationError Unit × σ)

/-- Makes the steps of a procedure: its answer, and the state that they leave. -/
def run : Procedure ι → σ → Except DeclarationError Unit × σ
  | .answer result, state => (result, state)
  | .step item next, state =>
    run (next (attempt state item).1) (attempt state item).2

/-- The steps that a procedure makes, in order. -/
def made : Procedure ι → σ → List ι
  | .answer _, _ => []
  | .step item next, state =>
    item :: made (next (attempt state item).1) (attempt state item).2

/-- The state that a procedure leaves, unless it answers with an error. -/
def changed (procedure : Procedure ι) (state : σ) : Except DeclarationError σ :=
  (procedure.run attempt state).1.map fun _ => (procedure.run attempt state).2

/-- Steps in a row. The refusal of a step that is strict is passed on and ends them; any other is
passed over. -/
def inOrder : List (ι × Bool) → Procedure ι
  | [] => .answer (.ok ())
  | (item, strict) :: rest => .step item fun
    | .ok () => inOrder rest
    | .error error => if strict then .answer (.error error) else inOrder rest

/-- A procedure leaves what its steps leave, whatever it answers. -/
theorem run_state (procedure : Procedure ι) (state : σ) :
    (procedure.run attempt state).2 =
      (procedure.made attempt state).foldl (fun state item => (attempt state item).2) state := by
  induction procedure generalizing state with
  | answer result => rfl
  | step item next ih => exact ih (attempt state item).1 (attempt state item).2

end Procedure

/-! ### One declaration -/

/-- A table that is declared, and what is done with its plan. -/
structure Declaration where
  table : Table
  configure : Procedure Plan.Step

namespace Declaration

/-- The answer of a declaration. -/
def answer (declaration : Declaration) : Except DeclarationError Unit :=
  (declaration.configure.run Plan.attempt (Plan.new declaration.table)).1

/-- The plan that the steps of a declaration leave. -/
def plan (declaration : Declaration) : Plan :=
  (declaration.configure.run Plan.attempt (Plan.new declaration.table)).2

/-- The steps that are made with the plan. -/
def steps (declaration : Declaration) : List Plan.Step :=
  declaration.configure.made Plan.attempt (Plan.new declaration.table)

/-- The plan of a declaration that succeeds. -/
def plan? (declaration : Declaration) : Option Plan :=
  declaration.answer.toOption.map fun _ => declaration.plan

/-- The error of a declaration that fails. -/
def error? (declaration : Declaration) : Option DeclarationError :=
  match declaration.answer with
  | .ok () => none
  | .error error => some error

variable {declaration : Declaration} {error : DeclarationError}

theorem plan_eq (declaration : Declaration) :
    declaration.plan = (Plan.new declaration.table).after declaration.steps :=
  declaration.configure.run_state Plan.attempt (Plan.new declaration.table)

theorem plan_table (declaration : Declaration) : declaration.plan.table = declaration.table := by
  rw [plan_eq]
  exact Plan.table_after declaration.steps (Plan.new declaration.table)

theorem plan?_of_ok (succeeds : declaration.answer = .ok ()) :
    declaration.plan? = some declaration.plan := by
  rw [plan?, succeeds]
  rfl

theorem plan?_of_error (fails : declaration.answer = .error error) : declaration.plan? = none := by
  rw [plan?, fails]
  rfl

theorem error?_eq_some_iff :
    declaration.error? = some error ↔ declaration.answer = .error error := by
  unfold error?
  cases declaration.answer <;> simp

theorem error?_eq_none_iff : declaration.error? = none ↔ declaration.answer = .ok () := by
  unfold error?
  cases declaration.answer <;> simp

end Declaration

namespace Session

variable {session : Session} {declaration : Declaration} {error : DeclarationError}

/-- Tries a declaration: its answer, and the session after it, which is unchanged by a refusal. -/
def attempt (session : Session) (declaration : Declaration) :
    Except DeclarationError Unit × Session :=
  match session.declare declaration.table (declaration.configure.changed Plan.attempt) with
  | .ok changed => (.ok (), changed)
  | .error error => (.error error, session)

/-- **A declaration that succeeds** adds its plan at the end. -/
theorem attempt_of_ok (session : Session) (succeeds : declaration.answer = .ok ()) :
    session.attempt declaration = (.ok (), { plans := session.plans ++ [declaration.plan] }) := by
  have configured : declaration.configure.changed Plan.attempt (Plan.new declaration.table) =
      .ok declaration.plan := by
    rw [Procedure.changed]
    change declaration.answer.map _ = _
    rw [succeeds]
    rfl
  rw [attempt, declare, configured]
  rfl

/-- **A declaration that fails** changes nothing, however far it came. -/
theorem attempt_of_error (session : Session) (fails : declaration.answer = .error error) :
    session.attempt declaration = (.error error, session) := by
  have configured : declaration.configure.changed Plan.attempt (Plan.new declaration.table) =
      .error error := by
    rw [Procedure.changed]
    change declaration.answer.map _ = _
    rw [fails]
    rfl
  rw [attempt, declare, configured]
  rfl

theorem attempt_answer (session : Session) (declaration : Declaration) :
    (session.attempt declaration).1 = declaration.answer := by
  cases answered : declaration.answer with
  | ok _ => rw [session.attempt_of_ok answered]
  | error error => rw [session.attempt_of_error answered]

theorem attempt_plans (session : Session) (declaration : Declaration) :
    (session.attempt declaration).2.plans = session.plans ++ declaration.plan?.toList := by
  cases answered : declaration.answer with
  | ok _ =>
    rw [session.attempt_of_ok answered, Declaration.plan?_of_ok answered]
    rfl
  | error error =>
    rw [session.attempt_of_error answered, Declaration.plan?_of_error answered]
    exact (List.append_nil _).symm

/-! ### Sequences of declarations -/

/-- The session after a list of declarations, some of which may be refused. -/
def after (declarations : List Declaration) (session : Session) : Session :=
  declarations.foldl (fun session declaration => (session.attempt declaration).2) session

/-- **The plans of a session** are those of the declarations that succeeded, in order. -/
theorem plans_after (declarations : List Declaration) (session : Session) :
    (session.after declarations).plans =
      session.plans ++ declarations.filterMap Declaration.plan? := by
  induction declarations generalizing session with
  | nil => exact (List.append_nil _).symm
  | cons declaration rest ih =>
    have later : (session.after (declaration :: rest)).plans = _ :=
      ih (session.attempt declaration).2
    rw [later, attempt_plans, List.append_assoc]
    cases planned : declaration.plan? with
    | none => rw [List.filterMap_cons_none planned]; rfl
    | some plan => rw [List.filterMap_cons_some planned]; rfl

/-- The plans for tables of one name are those of the declarations for them. -/
theorem filter_plans (declarations : List Declaration) (name : String) :
    (declarations.filterMap Declaration.plan?).filter (fun plan => plan.table.name = name) =
      (declarations.filter fun declaration => declaration.table.name = name).filterMap
        Declaration.plan? := by
  rw [List.filter_filterMap, List.filterMap_filter]
  congr 1
  funext declaration
  cases answered : declaration.answer with
  | error error => simp [Declaration.plan?_of_error answered]
  | ok _ =>
    rw [Declaration.plan?_of_ok answered, ← declaration.plan_table]
    by_cases named : declaration.plan.table.name = name
    · simp [named, Option.filter]
    · simp [named, Option.filter]

/-! ### Building a session -/

/-- A session that is built has the plans of the declarations that were made and succeeded. -/
theorem changed_building (building : Procedure Declaration) (session : Session) :
    building.changed attempt session =
      (building.run attempt session).1.map fun _ =>
        { plans := session.plans ++
            (building.made attempt session).filterMap Declaration.plan? } := by
  have left : (building.run attempt session).2 = session.after (building.made attempt session) :=
    building.run_state attempt session
  rw [Procedure.changed, left, ← plans_after]

/-- The error that a declaration passes on, if it is strict. -/
def passedOn? (call : Declaration × Bool) : Option DeclarationError :=
  if call.2 then call.1.error? else none

/-- **Declarations in a row** end with the first error that is passed on. -/
theorem changed_inOrder (calls : List (Declaration × Bool)) (session : Session) :
    (Procedure.inOrder calls).changed attempt session =
      match calls.findSome? passedOn? with
      | some error => .error error
      | none => .ok (session.after (calls.map Prod.fst)) := by
  induction calls generalizing session with
  | nil => rfl
  | cons call rest ih =>
    obtain ⟨declaration, strict⟩ := call
    have goesOn := ih (session.attempt declaration).2
    have stepped : (Procedure.inOrder ((declaration, strict) :: rest)).changed attempt session =
        Procedure.changed attempt
          (match declaration.answer with
            | .ok () => Procedure.inOrder rest
            | .error error => if strict then .answer (.error error) else Procedure.inOrder rest)
          (session.attempt declaration).2 := by
      rw [← session.attempt_answer declaration]
      rfl
    rw [stepped, List.findSome?_cons, passedOn?]
    cases answered : declaration.answer with
    | ok _ =>
      have clean : declaration.error? = none := Declaration.error?_eq_none_iff.mpr answered
      simp only [clean, ite_self]
      exact goesOn
    | error error =>
      have failed : declaration.error? = some error := Declaration.error?_eq_some_iff.mpr answered
      cases strict with
      | true =>
        simp only [failed, if_true]
        rfl
      | false => exact goesOn

theorem passedOn?_eq_none_iff {call : Declaration × Bool} :
    passedOn? call = none ↔ (call.2 = true → call.1.answer = .ok ()) := by
  rw [← Declaration.error?_eq_none_iff]
  simp [passedOn?]

theorem passedOn?_eq_some_iff {call : Declaration × Bool} :
    passedOn? call = some error ↔ call.2 = true ∧ call.1.answer = .error error := by
  rw [← Declaration.error?_eq_some_iff]
  simp [passedOn?]

/-! ### What a session holds -/

/-- The first plan without bindings stands after plans that have theirs. -/
theorem jobs_eq_error_iff_first {unready : Unready} :
    session.jobs = .error unready ↔
      ∃ earlier plan later, session.plans = earlier ++ plan :: later ∧ plan.bindings = none ∧
        (∀ other ∈ earlier, other.bindings.isSome = true) ∧
        unready = { table := plan.table.name } := by
  rw [jobs_eq_error_iff]
  simp only [List.find?_eq_some_iff_append]
  constructor
  · rintro ⟨plan, ⟨unbound, earlier, later, split, bound⟩, named⟩
    refine ⟨earlier, plan, later, split, by simpa [Plan.isUnbound] using unbound, ?_, named⟩
    exact fun other member => by simpa [Plan.isUnbound] using bound other member
  · rintro ⟨earlier, plan, later, split, unbound, bound, named⟩
    refine ⟨plan, ⟨by simp [Plan.isUnbound, unbound], earlier, later, split, ?_⟩, named⟩
    exact fun other member => by simpa [Plan.isUnbound] using bound other member

/-- A session is ready if all its plans have their bindings. -/
theorem ready_iff (session : Session) :
    (∃ jobs, session.jobs = .ok jobs) ↔ ∀ plan ∈ session.plans, plan.bindings.isSome = true := by
  cases ready : session.jobs with
  | ok jobs =>
    refine iff_of_true ⟨jobs, rfl⟩ fun plan member => ?_
    refine Option.isSome_iff_ne_none.mpr fun unbound => ?_
    obtain ⟨unready, refused⟩ := session.unready_iff.mpr ⟨plan, member, unbound⟩
    rw [ready] at refused
    cases refused
  | error unready =>
    obtain ⟨plan, member, unbound⟩ := session.unready_iff.mp ⟨unready, ready⟩
    refine iff_of_false (by simp) fun bound => ?_
    have set := bound plan member
    rw [unbound] at set
    cases set

/-- What a session that was empty holds after some declarations. -/
structure Collected (declarations : List Declaration) (session : Session) : Prop where
  /-- It has the plans of the declarations that succeeded, in order, and nothing else. -/
  plans : session.plans = declarations.filterMap Declaration.plan?
  /-- Tables of one name have a plan for each of their declarations that succeeded. -/
  separate : ∀ name, session.plans.filter (fun plan => plan.table.name = name) =
    (declarations.filter fun declaration => declaration.table.name = name).filterMap
      Declaration.plan?
  /-- A next declaration that fails gives its error and leaves the session as it is. -/
  refused : ∀ declaration error, declaration.answer = .error error →
    session.attempt declaration = (.error error, session)
  /-- A next declaration that succeeds adds one plan at the end, as its steps have left it. -/
  appended : ∀ declaration, declaration.answer = .ok () →
    session.attempt declaration = (.ok (),
      { plans := session.plans ++ [(Plan.new declaration.table).after declaration.steps] })
  /-- It is ready if all these plans have their bindings. -/
  ready_iff : (∃ jobs, session.jobs = .ok jobs) ↔
    ∀ plan ∈ session.plans, plan.bindings.isSome = true
  /-- If not, the first of them that has none is named. -/
  unready_iff : ∀ unready, session.jobs = .error unready ↔
    ∃ earlier plan later, session.plans = earlier ++ plan :: later ∧ plan.bindings = none ∧
      (∀ other ∈ earlier, other.bindings.isSome = true) ∧ unready = { table := plan.table.name }

theorem collected_after (declarations : List Declaration) :
    (after declarations {}).Collected declarations where
  plans := plans_after declarations {}
  separate name := by
    rw [plans_after declarations {}]
    exact filter_plans declarations name
  refused _ _ fails := attempt_of_error _ fails
  appended declaration succeeds := by
    rw [← declaration.plan_eq]
    exact attempt_of_ok _ succeeds
  ready_iff := ready_iff _
  unready_iff _ := jobs_eq_error_iff_first

/-- Declarations in a row build a session unless an error is passed on. -/
theorem ofDeclarations_inOrder_eq_ok_iff {calls : List (Declaration × Bool)} :
    ofDeclarations ((Procedure.inOrder calls).changed attempt) = .ok session ↔
      (∀ call ∈ calls, call.2 = true → call.1.answer = .ok ()) ∧
        session.plans = (calls.map Prod.fst).filterMap Declaration.plan? := by
  have clean : calls.findSome? passedOn? = none ↔
      ∀ call ∈ calls, call.2 = true → call.1.answer = .ok () := by
    simp only [List.findSome?_eq_none_iff, passedOn?_eq_none_iff]
  rw [ofDeclarations, changed_inOrder, ← clean]
  cases calls.findSome? passedOn? with
  | some error => simp
  | none =>
    have plans := plans_after (calls.map Prod.fst) {}
    obtain ⟨held⟩ := session
    simp only [Except.ok.injEq, true_and]
    constructor
    · intro built
      rw [built] at plans
      exact plans
    · rintro rfl
      exact congrArg Session.mk plans

/-- The error of declarations in a row is the first that is passed on. -/
theorem ofDeclarations_inOrder_eq_error_iff {calls : List (Declaration × Bool)} :
    ofDeclarations ((Procedure.inOrder calls).changed attempt) = .error error ↔
      ∃ earlier declaration later, calls = earlier ++ (declaration, true) :: later ∧
        declaration.answer = .error error ∧
        ∀ call ∈ earlier, call.2 = true → call.1.answer = .ok () := by
  have first : calls.findSome? passedOn? = some error ↔
      ∃ earlier declaration later, calls = earlier ++ (declaration, true) :: later ∧
        declaration.answer = .error error ∧
        ∀ call ∈ earlier, call.2 = true → call.1.answer = .ok () := by
    simp only [List.findSome?_eq_some_iff, passedOn?_eq_some_iff, passedOn?_eq_none_iff]
    constructor
    · rintro ⟨earlier, ⟨declaration, strict⟩, later, split, ⟨rfl, fails⟩, clean⟩
      exact ⟨earlier, declaration, later, split, fails, clean⟩
    · rintro ⟨earlier, declaration, later, split, fails, clean⟩
      exact ⟨earlier, (declaration, true), later, split, ⟨rfl, fails⟩, clean⟩
  rw [ofDeclarations, changed_inOrder, ← first]
  cases calls.findSome? passedOn? with
  | some found => simp
  | none => simp

end Session

/-- **A session holds exactly its successful declarations.** Declare tables one after the other,
each with any steps on its plan, refused ones passed on or passed over. The session then has the
plans of the declarations that succeeded, in order; a failed one leaves no trace; and the session is
ready if none of its plans was left without bindings. A session that is built, in whatever way, is
that of the declarations that were made, or the error that the building answers with. If the
declarations are made in a row, that is the first error that is passed on. -/
theorem declarations_collected (declarations : List Declaration)
    (building : Procedure Declaration) (calls : List (Declaration × Bool)) :
    (Session.after declarations {}).Collected declarations ∧
    Session.ofDeclarations (building.changed Session.attempt) =
      (building.run Session.attempt {}).1.map (fun _ =>
        { plans := (building.made Session.attempt {}).filterMap Declaration.plan? }) ∧
    (∀ session, Session.ofDeclarations ((Procedure.inOrder calls).changed Session.attempt) =
        .ok session ↔
      (∀ call ∈ calls, call.2 = true → call.1.answer = .ok ()) ∧
        session.plans = (calls.map Prod.fst).filterMap Declaration.plan?) ∧
    ∀ error, Session.ofDeclarations ((Procedure.inOrder calls).changed Session.attempt) =
        .error error ↔
      ∃ earlier declaration later, calls = earlier ++ (declaration, true) :: later ∧
        declaration.answer = .error error ∧
        ∀ call ∈ earlier, call.2 = true → call.1.answer = .ok () :=
  ⟨Session.collected_after declarations, Session.changed_building building {},
    fun _ => Session.ofDeclarations_inOrder_eq_ok_iff,
    fun _ => Session.ofDeclarations_inOrder_eq_error_iff⟩

namespace Kennel

/-- Dogs get two rows and their bindings. -/
def litter : Declaration where
  table := dogs
  configure := .inOrder [(.rows 2, true), (.bind bindings, true)]

/-- Dogs get four rows and then none, which is passed on. -/
def stray : Declaration where
  table := dogs
  configure := .inOrder [(.rows 4, true), (.rows 0, true), (.bind bindings, true)]

/-- Dogs get no rows and no bindings, and both is passed over. -/
def shelter : Declaration where
  table := dogs
  configure := .inOrder [(.rows 0, false), (.bind [], false)]

end Kennel

/-- Of three declarations of dogs the second fails, and the third leaves its plan without bindings.
To build a session from them fails where the failure is passed on. -/
theorem declarations_collected_dogs :
    let session := Session.after [Kennel.litter, Kennel.stray, Kennel.shelter] {}
    session.plans.map Plan.rows = [2, 50] ∧
    session.jobs = .error { table := "dogs" } ∧
    Session.ofDeclarations ((Procedure.inOrder
      [(Kennel.litter, true), (Kennel.stray, true), (Kennel.shelter, true)]).changed
        Session.attempt) = .error (.noRows "dogs") := by
  have fails : Kennel.stray.answer = .error (.noRows "dogs") := rfl
  obtain ⟨collected, -, -, errors⟩ := declarations_collected
    [Kennel.litter, Kennel.stray, Kennel.shelter] (.answer (.ok ()))
    [(Kennel.litter, true), (Kennel.stray, true), (Kennel.shelter, true)]
  have plans : Session.plans _ = [Kennel.litter.plan, Kennel.shelter.plan] := collected.plans
  refine ⟨by rw [plans]; rfl, ?_, ?_⟩
  · exact (collected.unready_iff _).mpr
      ⟨[Kennel.litter.plan], Kennel.shelter.plan, [], plans, rfl, by simp; rfl, rfl⟩
  · exact (errors _).mpr ⟨[(Kennel.litter, true)], Kennel.stray, [(Kennel.shelter, true)], rfl,
      fails, by simp; rfl⟩

end Seeding
