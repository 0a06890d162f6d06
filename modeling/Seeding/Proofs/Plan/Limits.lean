/-
**The limit of names disturbs nothing else.**

Two plans are compared that differ in the limit of the names of one binding, which may stand inside
optional generators (`Plan.Relimited`). From the same source both draw the same first name and cut
it afterwards, so they use the same words: a sample differs only in where the name is cut
(`sample_relimited`), a record only in that column (`draw_relimited`), and the source that is left
is the same.

Main statement: `name_limit_isolated`, for every two such plans, every source and any number of
records.
-/
import Seeding.Proofs.Engine.Attempt
import Seeding.Proofs.Plan.Rows

namespace Seeding

/-! ### What differs -/

/-- The first characters of a name. -/
def cutName (limit : Nat) (name : String) : String := String.ofList (name.toList.take limit)

/-- Generators that are the same except for the limit of the names inside them. -/
inductive Generator.Relimited (few many : Nat) : Generator → Generator → Prop
  | name : Relimited few many (.name few) (.name many)
  | optional (share : Percent) {short long : Generator} (inside : Relimited few many short long) :
      Relimited few many (.optional share short) (.optional share long)

/-- Plans that are the same except for the limit of the names of one column. -/
structure Plan.Relimited (column : String) (few many : Nat) (short long : Plan) : Prop where
  table : short.table = long.table
  rows : short.rows = long.rows
  bindings : ∃ before binding binding' after,
    short.bound = .ok (before ++ binding :: after) ∧
    long.bound = .ok (before ++ binding' :: after) ∧
    binding.column.name = column ∧ binding'.column = binding.column ∧
    binding.generator.Relimited few many binding'.generator

/-- A record and what it is with another limit for the names of one column: it has the same columns
in the same order, this one among them, the same values in the others, and NULL in this one at the
same time. With a limit that is no smaller, its names are continued. -/
structure Record.Relimited (column : String) (few many : Nat) (short long : Record) : Prop where
  columns : short.columns = long.columns
  set : column ∈ short.columns
  others : ∀ name, name ≠ column → short.get? name = long.get? name
  null : short.get? column = some .null ↔ long.get? column = some .null
  names : few ≤ many → ∀ value, short.get? column = some value → value ≠ .null →
    ∃ name, long.get? column = some (.text name) ∧ value = .text (cutName few name) ∧
      (cutName few name).length ≤ few

/-- Values of generators that differ in the limit of names: both NULL or the same name, cut. -/
inductive Value.Relimited (few many : Nat) : Value → Value → Prop
  | null : Relimited few many .null .null
  | name (name : String) : Relimited few many (.text (cutName few name)) (.text (cutName many name))

/-! ### Samples -/

theorem length_cutName (limit : Nat) (name : String) : (cutName limit name).length ≤ limit := by
  unfold cutName
  rw [String.length_ofList]
  exact List.length_take_le limit name.toList

/-- Cutting a name twice is cutting it at the smaller limit. -/
theorem cutName_cutName {few many : Nat} (fewer : few ≤ many) (name : String) :
    cutName few (cutName many name) = cutName few name := by
  unfold cutName
  rw [String.toList_ofList, List.take_take, Nat.min_eq_left fewer]

section Draws

variable {σ : Type} [WordSource σ] {few many : Nat}

/-- **A sample differs only in where the name is cut**: the words that are used and the share of
NULL do not depend on the limit. -/
theorem Generator.sample_relimited {short long : Generator}
    (relimited : short.Relimited few many long) (source : σ) :
    Value.Relimited few many (short.sample source).1 (long.sample source).1 ∧
      (short.sample source).2 = (long.sample source).2 := by
  induction relimited generalizing source with
  | name =>
    simp only [sample, State.bind_apply, State.pure_apply, and_true]
    exact .name (firstNameDraw source).1
  | optional share inside ih =>
    simp only [sample, State.bind_apply]
    cases (share.hits source).1 with
    | true => exact ⟨.null, rfl⟩
    | false => exact ih (share.hits source).2

/-! ### Records -/

namespace Binding

/-- The values of a list of bindings are those of its parts, one after the other. -/
theorem values_append (before after : List Binding) (source : σ) :
    values (before ++ after) source =
      ((values before source).1 ++ (values after (values before source).2).1,
        (values after (values before source).2).2) := by
  induction before generalizing source with
  | nil => rfl
  | cons binding rest ih => rw [List.cons_append, values_cons, values_cons, ih, List.cons_append]

end Binding

namespace Record

variable {record short long : Record} {column : String} {value value' : Value}
  {front back : List (String × Value)}

theorem get?_of_split (split : record.fields = front ++ (column, value) :: back) :
    record.get? column = some value := by
  refine get?_eq_some_iff.mpr ?_
  rw [split]
  exact List.mem_append_right front List.mem_cons_self

/-- Records that differ in the value of one column differ in nothing else. -/
theorem get?_of_splits (split : short.fields = front ++ (column, value) :: back)
    (split' : long.fields = front ++ (column, value') :: back) {name : String}
    (other : name ≠ column) : short.get? name = long.get? name := by
  ext found
  rw [get?_eq_some_iff, get?_eq_some_iff, split, split']
  simp only [List.mem_append, List.mem_cons, Prod.mk.injEq, other, false_and, false_or]

theorem relimited_of_splits {few many : Nat}
    (split : short.fields = front ++ (column, value) :: back)
    (split' : long.fields = front ++ (column, value') :: back)
    (relimited : Value.Relimited few many value value') :
    Relimited column few many short long where
  columns := by
    unfold columns
    rw [split, split', List.map_append, List.map_append, List.map_cons, List.map_cons]
  set := mem_columns_iff.mpr ⟨value, get?_of_split split⟩
  others name other := get?_of_splits split split' other
  null := by
    rw [get?_of_split split, get?_of_split split']
    rcases relimited with _ | name
    · exact Iff.rfl
    · exact iff_of_false (by rintro ⟨⟩) (by rintro ⟨⟩)
  names fewer given found filled := by
    rw [get?_of_split split, Option.some_inj] at found
    subst found
    rw [get?_of_split split']
    rcases relimited with _ | name
    · exact absurd rfl filled
    · refine ⟨cutName many name, rfl, ?_, length_cutName few _⟩
      rw [cutName_cutName fewer]

end Record

namespace Bindings

/-- **A record differs only in the column of the name**, and the source that is left is the same. -/
theorem draw_relimited {table table' : Table} (short : Bindings table) (long : Bindings table')
    {before after : List Binding} {binding binding' : Binding}
    (list : short.list = before ++ binding :: after)
    (list' : long.list = before ++ binding' :: after) (same : binding'.column = binding.column)
    (relimited : binding.generator.Relimited few many binding'.generator) (source : σ) :
    Record.Relimited binding.column.name few many (short.draw source).1 (long.draw source).1 ∧
      (short.draw source).2 = (long.draw source).2 := by
  obtain ⟨fields, left⟩ := short.draw_fields source
  obtain ⟨fields', left'⟩ := long.draw_fields source
  have length : (names before).length = (Binding.values before source).1.length := by
    rw [names, List.length_map]
    exact (Binding.values_fit before source).length_eq
  -- both lists come to the binding with the same source, and go on with the same source
  obtain ⟨value, onward⟩ := Generator.sample_relimited relimited (Binding.values before source).2
  rw [list, Binding.values_append, Binding.values_cons] at fields left
  rw [list', Binding.values_append, Binding.values_cons, ← onward] at fields' left'
  rw [names, List.map_append, List.map_cons, List.zip_append length, List.zip_cons_cons]
    at fields fields'
  rw [same] at fields'
  exact ⟨Record.relimited_of_splits fields fields' value, left.trans left'.symm⟩

end Bindings

/-- Any number of records, one after the other. -/
theorem Job.records_relimited (short long : Job)
    {before after : List Binding} {binding binding' : Binding}
    (list : short.bindings.list = before ++ binding :: after)
    (list' : long.bindings.list = before ++ binding' :: after)
    (same : binding'.column = binding.column)
    (relimited : binding.generator.Relimited few many binding'.generator)
    (count : Nat) (source : σ) :
    List.Forall₂ (Record.Relimited binding.column.name few many)
        (short.records count source).1 (long.records count source).1 ∧
      (short.records count source).2 = (long.records count source).2 := by
  induction count generalizing source with
  | zero => exact ⟨.nil, rfl⟩
  | succ count ih =>
    obtain ⟨record, onward⟩ :=
      Bindings.draw_relimited short.bindings long.bindings list list' same relimited source
    obtain ⟨others, left⟩ := ih (short.bindings.draw source).2
    simp only [records, State.bind_apply, State.pure_apply]
    rw [← onward]
    exact ⟨.cons record others, left⟩

end Draws

/-! ### Plans -/

theorem Plan.ready_of_bound {plan : Plan} {list : List Binding} (bound : plan.bound = .ok list) :
    ∃ job, plan.ready = .ok job ∧ job.bindings.list = list := by
  unfold Plan.bound at bound
  cases ready : plan.ready with
  | error unready =>
    rw [ready] at bound
    cases bound
  | ok job =>
    rw [ready] at bound
    exact ⟨job, rfl, Except.ok.inj bound⟩

/-- A plan that accepts two lists of bindings becomes plans that differ in what the lists differ
in. -/
theorem Plan.relimited_of_bind {plan short long : Plan} {before after : List Binding}
    {binding binding' : Binding} {few many : Nat}
    (accepted : plan.bind (before ++ binding :: after) = .ok short)
    (accepted' : plan.bind (before ++ binding' :: after) = .ok long)
    (same : binding'.column = binding.column)
    (relimited : binding.generator.Relimited few many binding'.generator) :
    Plan.Relimited binding.column.name few many short long := by
  obtain ⟨bindings, list, rfl⟩ := Plan.bindings_of_bind accepted
  obtain ⟨bindings', list', rfl⟩ := Plan.bindings_of_bind accepted'
  exact ⟨rfl, rfl, before, binding, binding', after, congrArg Except.ok list,
    congrArg Except.ok list', rfl, same, relimited⟩

/-- **The limit of names disturbs nothing else.** Two accepted plans that differ only in the limit
of the names of one column draw, from the same state of a source, records that agree one by one in
all other columns and in where this one is NULL, and they leave the source in the same state. If the
limit of one plan is no larger, its names are the first characters of those of the other, and no
more than that many. -/
theorem name_limit_isolated {σ : Type} [WordSource σ] {column : String} {few many : Nat}
    {short long : Plan} (relimited : Plan.Relimited column few many short long) (count : Nat)
    (source : σ) :
    ∃ job job', short.ready = .ok job ∧ long.ready = .ok job' ∧
      List.Forall₂ (Record.Relimited column few many)
        (job.records count source).1 (job'.records count source).1 ∧
      (job.records count source).2 = (job'.records count source).2 := by
  obtain ⟨before, binding, binding', after, bound, bound', rfl, same, inside⟩ := relimited.bindings
  obtain ⟨job, ready, list⟩ := Plan.ready_of_bound bound
  obtain ⟨job', ready', list'⟩ := Plan.ready_of_bound bound'
  exact ⟨job, job', ready, ready',
    Job.records_relimited job job' list list' same inside count source⟩

namespace Kennel

/-- A binding for the names of dogs, inside an optional generator. -/
def named (share : Percent) (limit : Nat)
    (fits : (Generator.optional share (.name limit)).check (column "name") = .ok ()) : Binding where
  column := column "name"
  generator := .optional share (.name limit)
  fits

theorem three_enough : (Generator.optional 0 (.name 3)).check (column "name") = .ok () := rfl

theorem eight_enough : (Generator.optional 0 (.name 8)).check (column "name") = .ok () := rfl

end Kennel

/-- Names of dogs may be cut to three characters or to eight. -/
theorem name_limit_isolated_dogs : ∃ short long job job',
    (Plan.new Kennel.dogs).bind (Kennel.bindings.take 2 ++ [Kennel.named 0 3 Kennel.three_enough]) =
      .ok short ∧
    (Plan.new Kennel.dogs).bind (Kennel.bindings.take 2 ++ [Kennel.named 0 8 Kennel.eight_enough]) =
      .ok long ∧
    Plan.Relimited "name" 3 8 short long ∧ short.ready = .ok job ∧ long.ready = .ok job' ∧
    List.Forall₂ (Record.Relimited "name" 3 8)
      (job.records 2 ({ words := [1, 2, 3] } : Script)).1
      (job'.records 2 ({ words := [1, 2, 3] } : Script)).1 := by
  have accepted : (Plan.new Kennel.dogs).bind
      (Kennel.bindings.take 2 ++ [Kennel.named 0 3 Kennel.three_enough]) = .ok _ := rfl
  have accepted' : (Plan.new Kennel.dogs).bind
      (Kennel.bindings.take 2 ++ [Kennel.named 0 8 Kennel.eight_enough]) = .ok _ := rfl
  have relimited : Plan.Relimited "name" 3 8 _ _ :=
    Plan.relimited_of_bind accepted accepted' rfl (.optional 0 .name)
  obtain ⟨job, job', ready, ready', records, _⟩ :=
    name_limit_isolated relimited 2 ({ words := [1, 2, 3] } : Script)
  exact ⟨_, _, job, job', accepted, accepted', relimited, ready, ready', records⟩

end Seeding
