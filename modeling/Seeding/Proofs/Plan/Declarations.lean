/-
**A plan over its whole life.**

A plan is made for a table and then goes through declarations in any order, of which some are
refused. `attempted` says what one of them can do. From it follows what any sequence of them leaves:
the plan has the last number of rows that was not zero, and the first list of bindings that was sound
for its table, and it keeps those bindings for good (`Keeps`).

Main statement: `declarations_kept`, for every table and every sequence of declarations.
-/
import Seeding.Proofs.Plan.Objections

namespace Seeding

/-- Whether bindings are sound for a table can be found out. -/
instance Bindings.Sound.decidable (table : Table) (list : List Binding) :
    Decidable (Bindings.Sound table list) :=
  decidable_of_iff (Bindings.fault? table list = none) Bindings.sound_iff

namespace Plan

/-! ### One declaration -/

/-- A declaration that is answered like this takes a plan to that plan. -/
inductive Attempted (plan : Plan) : Step → Except DeclarationError Unit → Plan → Prop
  | noRows : Attempted plan (.rows 0) (.error (.noRows plan.table.name)) plan
  | rows {count : Nat} (positive : 0 < count) :
      Attempted plan (.rows count) (.ok ()) { plan with rows := count, positive }
  | already {list : List Binding} (bound : plan.bindings.isSome = true) :
      Attempted plan (.bind list) (.error (.generatorsAlreadySet plan.table.name)) plan
  | faulty {list : List Binding} {error : DeclarationError} (unbound : plan.bindings = none)
      (objection : Bindings.Objection plan.table list error) :
      Attempted plan (.bind list) (.error error) plan
  | bound {list : List Binding} (unbound : plan.bindings = none)
      (sound : Bindings.fault? plan.table list = none) :
      Attempted plan (.bind list) (.ok ()) { plan with bindings := some { list, sound } }

/-- **Every declaration takes one of these courses.** -/
theorem attempted (plan : Plan) (step : Step) :
    Attempted plan step (plan.attempt step).1 (plan.attempt step).2 := by
  cases step with
  | rows count =>
    by_cases positive : 0 < count
    · have declared : plan.declare (.rows count) = .ok { plan with rows := count, positive } :=
        dif_pos positive
      rw [attempt, declared]
      exact .rows positive
    · obtain rfl : count = 0 := Nat.eq_zero_of_not_pos positive
      exact .noRows
  | bind list =>
    cases state : plan.bindings with
    | some bindings =>
      have bound : plan.bindings.isSome = true := by rw [state]; rfl
      have declared : plan.declare (.bind list) = _ := bind_of_bound bound
      rw [attempt, declared]
      exact .already bound
    | none =>
      cases found : Bindings.fault? plan.table list with
      | none =>
        have declared : plan.declare (.bind list) = _ := bind_of_sound state found
        rw [attempt, declared]
        exact .bound state found
      | some error =>
        have declared : plan.declare (.bind list) = _ := bind_of_faulty state found
        rw [attempt, declared]
        exact .faulty state (Bindings.fault?_eq_some_iff.mp found)

/-- The number of rows that a declaration can set: zero is none. -/
def Step.count? : Step → Option Nat
  | .rows count => if 0 < count then some count else none
  | .bind _ => none

/-- The bindings that a declaration can set: those that are sound for the table. -/
def Step.sound? (table : Table) : Step → Option (List Binding)
  | .rows _ => none
  | .bind list => if Bindings.Sound table list then some list else none

/-- The bindings that a declaration has set, by its answer. -/
def Step.accepted? : Step × Except DeclarationError Unit → Option (List Binding)
  | (.bind list, .ok ()) => some list
  | _ => none

/-- The bindings of a plan, if they are set. -/
def list? (plan : Plan) : Option (List Binding) := plan.bindings.map Bindings.list

namespace Attempted

variable {plan next : Plan} {step : Step} {answer : Except DeclarationError Unit}

theorem table (course : Attempted plan step answer next) : next.table = plan.table := by
  cases course <;> rfl

theorem rows_eq (course : Attempted plan step answer next) :
    next.rows = step.count?.getD plan.rows := by
  cases course with
  | rows positive => simp [Step.count?, positive]
  | _ => rfl

/-- A declaration that is refused changes nothing. -/
theorem unchanged {error : DeclarationError} (course : Attempted plan step (.error error) next) :
    next = plan := by
  cases course <;> rfl

/-- Bindings that are set stay; if none are, a sound list is set. -/
theorem list? (course : Attempted plan step answer next) :
    next.list? = plan.list?.or (step.sound? plan.table) := by
  cases course with
  | noRows => exact Option.or_none.symm
  | rows positive => exact Option.or_none.symm
  | already bound =>
    obtain ⟨bindings, state⟩ := Option.isSome_iff_exists.mp bound
    have set : plan.list? = some bindings.list := by rw [Plan.list?, state]; rfl
    rw [set]
    rfl
  | faulty unbound objection =>
    rw [Step.sound?, if_neg objection.not_sound, Option.or_none]
  | bound unbound sound =>
    have unset : plan.list? = none := Option.map_eq_none_iff.mpr unbound
    rw [unset, Step.sound?, if_pos (Bindings.sound_iff.mp sound)]
    rfl

/-- A declaration sets the bindings that its answer says it has set. -/
theorem accepted (course : Attempted plan step answer next) :
    next.list?.toList = plan.list?.toList ++ (Step.accepted? (step, answer)).toList := by
  cases course with
  | bound unbound sound =>
    have unset : plan.list? = none := Option.map_eq_none_iff.mpr unbound
    rw [unset]
    rfl
  | _ => exact (List.append_nil _).symm

end Attempted

/-! ### Sequences of declarations -/

/-- The plan after a list of declarations, some of which may be refused. -/
def after (steps : List Step) (plan : Plan) : Plan :=
  steps.foldl (fun plan step => (plan.attempt step).2) plan

/-- The declarations of a list with their answers. -/
def answers : List Step → Plan → List (Step × Except DeclarationError Unit)
  | [], _ => []
  | step :: rest, plan => (step, (plan.attempt step).1) :: answers rest (plan.attempt step).2

theorem table_after (steps : List Step) (plan : Plan) : (plan.after steps).table = plan.table := by
  induction steps generalizing plan with
  | nil => rfl
  | cons step rest ih => exact (ih _).trans (attempted plan step).table

/-- The number of rows is the last that was set. -/
theorem rows_after (steps : List Step) (plan : Plan) :
    (plan.after steps).rows = (steps.filterMap Step.count?).getLast?.getD plan.rows := by
  induction steps generalizing plan with
  | nil => rfl
  | cons step rest ih =>
    have here := (attempted plan step).rows_eq
    have later : (plan.after (step :: rest)).rows = _ := ih (plan.attempt step).2
    rw [later, here]
    cases counted : step.count? with
    | none => rw [List.filterMap_cons_none counted]; rfl
    | some count => rw [List.filterMap_cons_some counted, List.getLast?_cons]; rfl

/-- The bindings are the first that could be set. -/
theorem list?_after (steps : List Step) (plan : Plan) :
    (plan.after steps).list? = plan.list?.or (steps.findSome? (Step.sound? plan.table)) := by
  induction steps generalizing plan with
  | nil => exact (Option.or_none).symm
  | cons step rest ih =>
    have course := attempted plan step
    have later : (plan.after (step :: rest)).list? = _ := ih (plan.attempt step).2
    rw [later, course.list?, course.table, Option.or_assoc, List.findSome?_cons]
    cases step.sound? plan.table <;> rfl

theorem accepted_after (steps : List Step) (plan : Plan) :
    (plan.after steps).list?.toList =
      plan.list?.toList ++ (answers steps plan).filterMap Step.accepted? := by
  induction steps generalizing plan with
  | nil => exact (List.append_nil _).symm
  | cons step rest ih =>
    have here := (attempted plan step).accepted
    have later : (plan.after (step :: rest)).list?.toList = _ := ih (plan.attempt step).2
    rw [later, here, answers, List.append_assoc]
    cases accepted : Step.accepted? (step, (plan.attempt step).1) with
    | none => rw [List.filterMap_cons_none accepted]; rfl
    | some list => rw [List.filterMap_cons_some accepted]; rfl

/-! ### What a plan keeps -/

section Kept

variable {table : Table} {steps : List Step} {plan : Plan} {list : List Binding}

theorem Step.sound?_eq_some_iff {step : Step} :
    step.sound? table = some list ↔ step = .bind list ∧ Bindings.Sound table list := by
  cases step with
  | rows count => simp [Step.sound?]
  | bind other =>
    simp only [Step.sound?, Option.ite_none_right_eq_some, Option.some.injEq, Step.bind.injEq]
    constructor
    · rintro ⟨sound, rfl⟩
      exact ⟨rfl, sound⟩
    · rintro ⟨rfl, sound⟩
      exact ⟨sound, rfl⟩

/-- No declaration of some sets bindings if none of their bindings are sound. -/
theorem forall_sound?_iff :
    (∀ step ∈ steps, step.sound? table = none) ↔
      ∀ list, .bind list ∈ steps → ¬ Bindings.Sound table list := by
  constructor
  · intro none list member sound
    have some := Step.sound?_eq_some_iff.mpr ⟨rfl, sound⟩
    rw [none _ member] at some
    cases some
  · intro unsound step member
    refine Option.eq_none_iff_forall_ne_some.mpr fun list found => ?_
    obtain ⟨rfl, sound⟩ := Step.sound?_eq_some_iff.mp found
    exact unsound list member sound

/-- The first sound bindings of some declarations. -/
theorem first_sound_iff :
    steps.findSome? (Step.sound? table) = some list ↔
      ∃ earlier later, steps = earlier ++ .bind list :: later ∧ Bindings.Sound table list ∧
        ∀ other, .bind other ∈ earlier → ¬ Bindings.Sound table other := by
  rw [List.findSome?_eq_some_iff]
  constructor
  · rintro ⟨earlier, step, later, split, found, unsound⟩
    obtain ⟨rfl, sound⟩ := Step.sound?_eq_some_iff.mp found
    exact ⟨earlier, later, split, sound, forall_sound?_iff.mp unsound⟩
  · rintro ⟨earlier, later, split, sound, unsound⟩
    exact ⟨earlier, .bind list, later, split, Step.sound?_eq_some_iff.mpr ⟨rfl, sound⟩,
      forall_sound?_iff.mpr unsound⟩

theorem bound_eq_ok_iff : plan.bound = .ok list ↔ plan.list? = some list := by
  rw [bound, ready, list?]
  cases plan.bindings with
  | none => simp [Except.map]
  | some bindings => simp [Except.map]

/-- As long as no bindings among the declarations of a new plan are sound, it has none. -/
theorem unset_of_unsound (unsound : ∀ list, .bind list ∈ steps → ¬ Bindings.Sound table list) :
    ((new table).after steps).list? = none := by
  rw [list?_after]
  exact List.findSome?_eq_none_iff.mpr (forall_sound?_iff.mpr unsound)

theorem bound_of_unset (unset : plan.list? = none) :
    plan.bound = .error { table := plan.table.name } := by
  rw [bound, ready, Option.map_eq_none_iff.mp unset]
  rfl

theorem toOption_bound (plan : Plan) : plan.bound.toOption = plan.list? := by
  rw [bound, ready, list?]
  cases plan.bindings <;> rfl

/-- A plan without bindings draws nothing. -/
theorem draw_of_unset {σ : Type} [WordSource σ] (unset : plan.list? = none) (source : σ) :
    plan.draw source = (.error { table := plan.table.name }, source) := by
  rw [draw, ready, Option.map_eq_none_iff.mp unset]
  rfl

/-- A plan without bindings takes sound ones. -/
theorem attempt_of_sound (unset : plan.list? = none) (sound : Bindings.Sound plan.table list) :
    (plan.attempt (.bind list)).1 = .ok () ∧
      (plan.attempt (.bind list)).2.list? = some list := by
  have declared : plan.declare (.bind list) = _ :=
    bind_of_sound (Option.map_eq_none_iff.mp unset) (Bindings.sound_iff.mpr sound)
  rw [attempt, declared]
  exact ⟨rfl, rfl⟩

/-- Bindings of a plan are sound for its table. -/
theorem sound_of_set (set : plan.list? = some list) : Bindings.Sound plan.table list := by
  obtain ⟨bindings, -, rfl⟩ := Option.map_eq_some_iff.mp set
  exact Bindings.sound_iff.mp bindings.sound

end Kept

/-- What a plan for a table keeps of the declarations that it went through. -/
structure Keeps (table : Table) (steps : List Step) (plan : Plan) : Prop where
  sameTable : plan.table = table
  /-- The number of rows is the last one that was given and is not zero, or the usual one. -/
  rows : plan.rows = (steps.filterMap Step.count?).getLast?.getD 50
  positive : 0 < plan.rows
  /-- A declaration that is refused changes nothing. -/
  refused : ∀ step error, (plan.attempt step).1 = .error error → (plan.attempt step).2 = plan
  /-- The bindings are the first list that was sound for the table. -/
  bound_iff : ∀ list, plan.bound = .ok list ↔
    ∃ earlier later, steps = earlier ++ .bind list :: later ∧ Bindings.Sound table list ∧
      ∀ other, .bind other ∈ earlier → ¬ Bindings.Sound table other
  /-- They are the only list that was accepted, by the answers. -/
  accepted : (answers steps (new table)).filterMap Step.accepted? = plan.bound.toOption.toList
  /-- Nothing that is declared later changes them. -/
  kept : ∀ list, plan.bound = .ok list → ∀ more, (plan.after more).bound = .ok list
  /-- As long as no list was sound, the plan has no bindings, and draws neither a record nor a word. -/
  unready : (∀ list, .bind list ∈ steps → ¬ Bindings.Sound table list) →
    plan.bound = .error { table := table.name } ∧
      ∀ (σ : Type) [WordSource σ] (source : σ),
        plan.draw source = (.error { table := table.name }, source)
  /-- It then accepts the next list that is sound, whatever was refused before. -/
  retries : (∀ list, .bind list ∈ steps → ¬ Bindings.Sound table list) →
    ∀ list, Bindings.Sound table list → (plan.attempt (.bind list)).1 = .ok () ∧
      (plan.attempt (.bind list)).2.bound = .ok list
  /-- Bindings have different names, own columns and generators that passed the check of their
  columns, and they cover the required columns. -/
  sound : ∀ list, plan.bound = .ok list →
    (list.map fun binding => binding.column.name).Nodup ∧
    (∀ binding ∈ list, table.Owns binding.column ∧
      binding.generator.check binding.column = .ok ()) ∧
    ∀ column ∈ table.required, ∃ binding ∈ list, binding.column.name = column.name

/-- **A plan over its whole life.** Whatever is declared for a table and whatever of it is refused, the
plan is for that table, has the last number of rows that was not zero, or 50, and has the first list of
bindings that was sound, for good. Until there is one, it is not ready and draws nothing. -/
theorem declarations_kept (table : Table) (steps : List Step) :
    Keeps table steps ((new table).after steps) where
  sameTable := table_after steps (new table)
  rows := rows_after steps (new table)
  positive := ((new table).after steps).positive
  refused step error refused := by
    have course := attempted ((new table).after steps) step
    rw [refused] at course
    exact course.unchanged
  bound_iff list := by
    rw [bound_eq_ok_iff, list?_after]
    exact first_sound_iff
  accepted := by
    rw [toOption_bound]
    exact (accepted_after steps (new table)).symm
  kept list bound more := by
    rw [bound_eq_ok_iff, list?_after, bound_eq_ok_iff.mp bound]
    rfl
  unready unsound := by
    have unset := unset_of_unsound unsound
    rw [bound_of_unset unset, table_after]
    refine ⟨rfl, fun σ _ source => ?_⟩
    rw [draw_of_unset unset, table_after]
    rfl
  retries unsound list sound := by
    have same : ((new table).after steps).table = table := table_after steps (new table)
    rw [← same] at sound
    obtain ⟨accepted, set⟩ := attempt_of_sound (unset_of_unsound unsound) sound
    exact ⟨accepted, bound_eq_ok_iff.mpr set⟩
  sound list bound := by
    have sound := sound_of_set (bound_eq_ok_iff.mp bound)
    rw [table_after] at sound
    exact ⟨sound.distinct, fun binding member => ⟨sound.owned binding member, binding.fits⟩,
      fun column required => List.mem_map.mp (sound.covered column required)⟩

end Plan

/-- Declarations for dogs: no rows, four rows, a list with a column behind another, the bindings of
dogs, and none at all. -/
def Kennel.attempts : List Plan.Step := [
  .rows 0, .rows 4, .bind (Kennel.bindings ++ [Kennel.hidden]), .bind Kennel.bindings, .rows 0,
  .bind []]

/-- The dogs get four rows and the second list, which was the first that was sound. -/
theorem declarations_kept_dogs :
    let plan := (Plan.new Kennel.dogs).after Kennel.attempts
    plan.rows = 4 ∧ plan.bound = .ok Kennel.bindings := by
  have kept := Plan.declarations_kept Kennel.dogs Kennel.attempts
  have earlier (other : List Binding) (member : .bind other ∈ Kennel.attempts.take 3) :
      ¬ Bindings.Sound Kennel.dogs other := by
    obtain rfl : other = Kennel.bindings ++ [Kennel.hidden] := by
      simpa [Kennel.attempts] using member
    decide
  exact ⟨kept.rows, (kept.bound_iff Kennel.bindings).mpr
    ⟨Kennel.attempts.take 3, Kennel.attempts.drop 4, rfl, by decide, earlier⟩⟩

end Seeding
