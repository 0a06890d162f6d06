/-
**Which bindings a plan accepts, and what it says to others.**

A plan that has its bindings refuses any others. Else it accepts a list exactly if every column is
the table's own, no name is bound twice and every required column is bound (`Bindings.Sound`). To
any other list it makes one objection (`Objection`): to the first binding that is out of place, in
the order of the list, or if there is none, for the first required column without a binding, in the
order of the table.

* `fault?_eq_some_iff` — the check finds just this objection.
* `bind_judges` — **every plan and every list**: when a list is accepted, and the error if it is not.
-/
import Seeding.Proofs.Plan.Rows

namespace Seeding

/-! ### Columns of a table -/

/-- A column is the table's own if it carries the table's name and is what its name means there. -/
def Table.Owns (table : Table) (column : Column) : Prop :=
  column.table = table.name ∧ table.column? column.name = some column

namespace Table

variable {table : Table} {column : Column}

theorem owns_eq_true_iff : table.owns column = true ↔ table.Owns column := by
  simp [owns, Owns]

theorem owns_eq_false_iff : table.owns column = false ↔ ¬ table.Owns column := by
  rw [← owns_eq_true_iff, Bool.not_eq_true]

/-- **A column that a table gives for a name is its own**, whatever names are repeated. -/
theorem Owns.of_column {name : String} (found : table.column name = .ok column) :
    table.Owns column := by
  unfold Table.column at found
  cases listed : table.column? name with
  | none =>
    rw [listed] at found
    cases found
  | some first =>
    rw [listed] at found
    cases found
    have named : column.name = name := by simpa using List.find?_some listed
    exact ⟨table.owned column (List.mem_of_find?_eq_some listed), named ▸ listed⟩

end Table

namespace Bindings

variable {table : Table} {list : List Binding} {error : DeclarationError}

/-! ### Objections -/

/-- Every column is the table's own, and no name is bound twice. -/
structure Placed (table : Table) (list : List Binding) : Prop where
  owned : ∀ binding ∈ list, table.Owns binding.column
  distinct : (names list).Nodup

/-- The bindings are in place, and every required column is bound. -/
structure Sound (table : Table) (list : List Binding) : Prop extends Placed table list where
  covered : ∀ column ∈ table.required, column.name ∈ names list

/-- What is to be said against a list of bindings. -/
inductive Objection (table : Table) (list : List Binding) : DeclarationError → Prop
  /-- The first binding out of place has a column that is not the table's own. -/
  | foreign {earlier : List Binding} {binding : Binding} {later : List Binding}
      (split : list = earlier ++ binding :: later) (placed : Placed table earlier)
      (foreign : ¬ table.Owns binding.column) :
      Objection table list
        (.foreignColumn table.name binding.column.table binding.column.name)
  /-- The first binding out of place repeats a name that is bound before it. -/
  | repeated {earlier : List Binding} {binding : Binding} {later : List Binding}
      (split : list = earlier ++ binding :: later) (placed : Placed table earlier)
      (owned : table.Owns binding.column) (repeated : binding.column.name ∈ names earlier) :
      Objection table list (.boundTwice table.name binding.column.name)
  /-- No binding is out of place, and this is the first required column without a binding. -/
  | uncovered {before : List Column} {column : Column} {after : List Column}
      (placed : Placed table list) (split : table.required = before ++ column :: after)
      (covered : ∀ other ∈ before, other.name ∈ names list)
      (unbound : column.name ∉ names list) :
      Objection table list (.requiredUnbound table.name column.name)

theorem misplaced?_nil_eq_none_iff : misplaced? table [] list = none ↔ Placed table list := by
  rw [misplaced?_eq_none_iff]
  simp only [Table.owns_eq_true_iff, List.not_mem_nil, not_false_eq_true, implies_true, and_true]
  exact ⟨fun ⟨owned, distinct⟩ => ⟨owned, distinct⟩, fun placed => ⟨placed.owned, placed.distinct⟩⟩

/-- What is wrong with the place of a binding, if these names are bound already. -/
def outOfPlace? (table : Table) (bound : List String) (binding : Binding) :
    Option DeclarationError :=
  if !table.owns binding.column then
    some (.foreignColumn table.name binding.column.table binding.column.name)
  else if binding.column.name ∈ bound then some (.boundTwice table.name binding.column.name)
  else none

theorem misplaced?_cons (table : Table) (bound : List String) (binding : Binding)
    (rest : List Binding) :
    misplaced? table bound (binding :: rest) =
      (outOfPlace? table bound binding).or
        (misplaced? table (binding.column.name :: bound) rest) := by
  rw [misplaced?, outOfPlace?]
  by_cases owned : table.owns binding.column = true
  · by_cases repeated : binding.column.name ∈ bound <;> simp [owned, repeated]
  · simp [owned]

/-- The check stops at the first binding out of place; the names before it are bound by then. -/
theorem misplaced?_eq_some_iff {bound : List String} :
    misplaced? table bound list = some error ↔
      ∃ earlier binding later, list = earlier ++ binding :: later ∧
        misplaced? table bound earlier = none ∧
        outOfPlace? table ((names earlier).reverse ++ bound) binding = some error := by
  induction list generalizing bound with
  | nil => simp [misplaced?]
  | cons first rest ih =>
    rw [misplaced?_cons]
    constructor
    · intro found
      cases here : outOfPlace? table bound first with
      | some objection =>
        rw [here] at found
        exact ⟨[], first, rest, rfl, rfl, here.trans found⟩
      | none =>
        rw [here, Option.none_or] at found
        obtain ⟨earlier, binding, later, rfl, fine, wrong⟩ := ih.mp found
        refine ⟨first :: earlier, binding, later, rfl, ?_, ?_⟩
        · rw [misplaced?_cons, here, fine]
          rfl
        · simpa using wrong
    · rintro ⟨earlier, binding, later, split, fine, wrong⟩
      cases earlier with
      | nil =>
        obtain ⟨rfl, rfl⟩ := List.cons.inj split
        have here : outOfPlace? table bound first = some error := wrong
        rw [here]
        rfl
      | cons head tail =>
        obtain ⟨rfl, rfl⟩ := List.cons.inj split
        rw [misplaced?_cons, Option.or_eq_none_iff] at fine
        rw [fine.1, Option.none_or]
        exact ih.mpr ⟨tail, binding, later, rfl, fine.2, by simpa using wrong⟩

/-- The objections to the place of a binding. -/
theorem outOfPlace?_eq_some_iff {bound : List String} {binding : Binding} :
    outOfPlace? table bound binding = some error ↔
      (¬ table.Owns binding.column ∧
        error = .foreignColumn table.name binding.column.table binding.column.name) ∨
      (table.Owns binding.column ∧ binding.column.name ∈ bound ∧
        error = .boundTwice table.name binding.column.name) := by
  rw [outOfPlace?, ← Table.owns_eq_true_iff]
  by_cases owned : table.owns binding.column = true
  · by_cases repeated : binding.column.name ∈ bound <;> simp [owned, repeated, eq_comm]
  · simp [owned, eq_comm]

/-- The first required column without a binding. -/
theorem uncovered?_eq_some_iff {column : Column} :
    uncovered? table list = some column ↔
      ∃ before after, table.required = before ++ column :: after ∧
        (∀ other ∈ before, other.name ∈ names list) ∧ column.name ∉ names list := by
  rw [uncovered?, List.find?_eq_some_iff_append]
  simp only [Bool.not_eq_true', Bool.not_not, List.contains_iff_mem, ← Bool.not_eq_true]
  constructor
  · rintro ⟨unbound, before, after, split, covered⟩
    exact ⟨before, after, split, covered, unbound⟩
  · rintro ⟨before, after, split, covered, unbound⟩
    exact ⟨unbound, before, after, split, covered⟩

/-- **The check finds the one objection** that is to be made to a list of bindings. -/
theorem fault?_eq_some_iff : fault? table list = some error ↔ Objection table list error := by
  constructor
  · intro found
    rw [fault?] at found
    cases misplaced : misplaced? table [] list with
    | some objection =>
      rw [misplaced] at found
      obtain rfl : objection = error := Option.some.inj found
      obtain ⟨earlier, binding, later, split, fine, wrong⟩ := misplaced?_eq_some_iff.mp misplaced
      have placed := misplaced?_nil_eq_none_iff.mp fine
      rcases outOfPlace?_eq_some_iff.mp wrong with ⟨foreign, rfl⟩ | ⟨owned, bound, rfl⟩
      · exact .foreign split placed foreign
      · exact .repeated split placed owned (by simpa using bound)
    | none =>
      rw [misplaced] at found
      obtain ⟨column, uncovered, rfl⟩ := Option.map_eq_some_iff.mp found
      obtain ⟨before, after, split, covered, unbound⟩ := uncovered?_eq_some_iff.mp uncovered
      exact .uncovered (misplaced?_nil_eq_none_iff.mp misplaced) split covered unbound
  · intro objection
    have of_misplaced {error : DeclarationError} (found : misplaced? table [] list = some error) :
        fault? table list = some error := by
      rw [fault?, found]
    cases objection with
    | @foreign earlier binding later split placed foreign =>
      refine of_misplaced (misplaced?_eq_some_iff.mpr ⟨earlier, binding, later, split, ?_, ?_⟩)
      · exact misplaced?_nil_eq_none_iff.mpr placed
      · exact outOfPlace?_eq_some_iff.mpr (Or.inl ⟨foreign, rfl⟩)
    | @repeated earlier binding later split placed owned repeated =>
      refine of_misplaced (misplaced?_eq_some_iff.mpr ⟨earlier, binding, later, split, ?_, ?_⟩)
      · exact misplaced?_nil_eq_none_iff.mpr placed
      · exact outOfPlace?_eq_some_iff.mpr (Or.inr ⟨owned, by simpa using repeated, rfl⟩)
    | @uncovered before column after placed split covered unbound =>
      rw [fault?, misplaced?_nil_eq_none_iff.mpr placed,
        uncovered?_eq_some_iff.mpr ⟨before, after, split, covered, unbound⟩]
      rfl

/-- The check has no objection to bindings that are in place and cover the required columns. -/
theorem sound_iff : fault? table list = none ↔ Sound table list := by
  rw [fault?_eq_none_iff]
  simp only [Table.owns_eq_true_iff]
  constructor
  · rintro ⟨owned, distinct, covered⟩
    exact { owned, distinct, covered }
  · intro sound
    exact ⟨sound.owned, sound.distinct, sound.covered⟩

/-- Nothing is to be said against sound bindings. -/
theorem Objection.not_sound (objection : Objection table list error) : ¬ Sound table list := by
  intro sound
  have found := fault?_eq_some_iff.mpr objection
  rw [sound_iff.mpr sound] at found
  cases found

/-- A foreign column that is reported is not one that the table gives for a name. -/
theorem Objection.foreign_inv {expected home name : String}
    (objection : Objection table list (.foreignColumn expected home name)) :
    ∃ earlier binding later, list = earlier ++ binding :: later ∧ Placed table earlier ∧
      home = binding.column.table ∧ name = binding.column.name ∧
      ∀ sought, table.column sought ≠ .ok binding.column := by
  cases objection with
  | @foreign earlier binding later split placed foreign =>
    exact ⟨earlier, binding, later, split, placed, rfl, rfl,
      fun sought found => foreign (.of_column found)⟩

theorem ofList_of_sound (sound : fault? table list = none) :
    ofList table list = .ok { list, sound } := by
  unfold ofList
  split
  next => rfl
  next _ faulty =>
    rw [sound] at faulty
    cases faulty

theorem ofList_of_faulty (faulty : fault? table list = some error) :
    ofList table list = .error error := by
  unfold ofList
  split
  next sound =>
    rw [faulty] at sound
    cases sound
  next _ found =>
    rw [faulty] at found
    cases found
    rfl

end Bindings

/-! ### Plans -/

namespace Plan

variable {plan : Plan} {list : List Binding}

/-- A plan that has its bindings refuses any others. -/
theorem bind_of_bound (bound : plan.bindings.isSome = true) :
    plan.bind list = .error (.generatorsAlreadySet plan.table.name) :=
  if_pos bound

/-- A plan without bindings takes a list to which there is no objection. -/
theorem bind_of_sound (unbound : plan.bindings = none)
    (sound : Bindings.fault? plan.table list = none) :
    plan.bind list = .ok { plan with bindings := some { list, sound } } := by
  rw [Plan.bind, if_neg (by simp [unbound]), Bindings.ofList_of_sound sound]
  rfl

/-- A plan without bindings refuses any other list with the objection to it. -/
theorem bind_of_faulty (unbound : plan.bindings = none) {error : DeclarationError}
    (faulty : Bindings.fault? plan.table list = some error) : plan.bind list = .error error := by
  rw [Plan.bind, if_neg (by simp [unbound]), Bindings.ofList_of_faulty faulty]
  rfl

/-- A plan without bindings refuses a list for the objection to it, and for nothing else. -/
theorem bind_eq_error_iff (unbound : plan.bindings = none) {error : DeclarationError} :
    plan.bind list = .error error ↔ Bindings.Objection plan.table list error := by
  rw [← Bindings.fault?_eq_some_iff]
  cases found : Bindings.fault? plan.table list with
  | none => simp [bind_of_sound unbound found]
  | some objection => simp [bind_of_faulty unbound found]

/-- A plan without bindings accepts the lists that are in place and cover the required columns. -/
theorem bind_isOk_iff (unbound : plan.bindings = none) :
    (∃ accepted, plan.bind list = .ok accepted) ↔ Bindings.Sound plan.table list := by
  rw [← Bindings.sound_iff]
  cases found : Bindings.fault? plan.table list with
  | none => simp [bind_of_sound unbound found]
  | some objection => simp [bind_of_faulty unbound found]

/-- What a plan says to a list of bindings. -/
structure Judges (plan : Plan) (list : List Binding) : Prop where
  /-- A plan that has its bindings refuses every list as set already. -/
  already : plan.bindings.isSome = true →
    plan.bind list = .error (.generatorsAlreadySet plan.table.name)
  /-- A plan without bindings accepts a list exactly if every column has the name of the table and is
  the first of its own name there, no name is bound twice and every required column is bound. -/
  accepts : plan.bindings = none →
    ((∃ accepted, plan.bind list = .ok accepted) ↔
      (∀ binding ∈ list, binding.column.table = plan.table.name ∧
        plan.table.column? binding.column.name = some binding.column) ∧
      (list.map fun binding => binding.column.name).Nodup ∧
      ∀ column ∈ plan.table.required, ∃ binding ∈ list, binding.column.name = column.name)
  /-- It refuses any other list with the one objection that is due: to the first binding that is
  foreign or repeats a name, and if there is none, for the first required column without a binding. -/
  objects : plan.bindings = none →
    ∀ error, plan.bind list = .error error ↔ Bindings.Objection plan.table list error
  /-- The binding that is reported foreign is not on a column that the table gives for a name. -/
  foreign : ∀ expected home name, plan.bind list = .error (.foreignColumn expected home name) →
    ∃ earlier binding later, list = earlier ++ binding :: later ∧
      Bindings.Placed plan.table earlier ∧
      home = binding.column.table ∧ name = binding.column.name ∧
      ∀ sought, plan.table.column sought ≠ .ok binding.column

/-- **Which bindings a plan accepts, and why it refuses the others**, for every plan and every list of
bindings. -/
theorem bind_judges (plan : Plan) (list : List Binding) : plan.Judges list where
  already := bind_of_bound
  accepts unbound := by
    rw [bind_isOk_iff unbound]
    constructor
    · intro sound
      exact ⟨sound.owned, sound.distinct,
        fun column required => List.mem_map.mp (sound.covered column required)⟩
    · rintro ⟨owned, distinct, bound⟩
      have covered column (required : column ∈ plan.table.required) :=
        List.mem_map.mpr (bound column required)
      exact { owned, distinct, covered }
  objects unbound _ := bind_eq_error_iff unbound
  foreign expected home name refused := by
    cases state : plan.bindings with
    | some bindings =>
      rw [bind_of_bound (by rw [state]; rfl)] at refused
      cases refused
    | none => exact ((bind_eq_error_iff state).mp refused).foreign_inv

end Plan

/-! ### A column behind another -/

/-- A binding of the second column of dogs that is called age. -/
def Kennel.hidden : Binding where
  column := { Column.declare "age" .text with table := "dogs" }
  generator := .string ⟨3, 8, by decide⟩
  fits := by decide

/-- The name age is bound to the first column of that name already. That the second is not what its
name means is said first. -/
theorem bind_judges_dogs :
    (Plan.new Kennel.dogs).bindings = none ∧
      (Plan.new Kennel.dogs).bind (Kennel.bindings ++ [Kennel.hidden]) =
        .error (.foreignColumn "dogs" "dogs" "age") := by
  have placed : Bindings.Placed Kennel.dogs Kennel.bindings :=
    (Bindings.sound_iff.mp (by decide)).toPlaced
  have foreign : ¬ Kennel.dogs.Owns Kennel.hidden.column :=
    Table.owns_eq_false_iff.mp (by decide)
  have judges := Plan.bind_judges (Plan.new Kennel.dogs) (Kennel.bindings ++ [Kennel.hidden])
  exact ⟨rfl, (judges.objects rfl _).mpr (.foreign rfl placed foreign)⟩

end Seeding
