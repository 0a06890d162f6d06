/-
**Pets.**

The demonstration declares one plan, and its job is `Demo.job` (`declared`). From any state of a
source the job draws pets: records of a name of sixteen to sixty-four letters, digits and
underscores and of one of the two types, and of nothing else.

Main statement: `records_pets`, for every source and any number of records.
-/
import Seeding.Demo
import Seeding.Proofs.Engine.Attempt
import Seeding.Proofs.Generator.Strings
import Seeding.Proofs.Plan.Rows

namespace Seeding

section Draws

variable {σ : Type} [WordSource σ]

/-- A length that is drawn is at least the shortest of its range. -/
theorem LengthRange.le_draw (range : LengthRange) (source : σ) :
    range.least.toNat ≤ (range.draw source).1 := by
  rw [range.draw_eq]
  exact Nat.le_add_right _ _

/-- The characters that are drawn are letters, digits and underscores. -/
theorem Generator.isLetter_of_mem_letters (count : Nat) (source : σ) :
    ∀ character ∈ (letters count source).1, IsLetter character := by
  induction count generalizing source with
  | zero => exact fun _ member => absurd member List.not_mem_nil
  | succ count ih =>
    simp only [letters, State.bind_apply, State.pure_apply]
    exact List.forall_mem_cons.mpr ⟨isLetter_letter _, ih _⟩

/-- What holds of a record from any state of the source holds of all records of a job. -/
theorem Job.forall_mem_records {job : Job} {Holds : Record → Prop}
    (each : ∀ source : σ, Holds (job.bindings.draw source).1) (count : Nat) (source : σ) :
    ∀ record ∈ (job.records count source).1, Holds record := by
  induction count generalizing source with
  | zero => exact fun _ member => absurd member List.not_mem_nil
  | succ count ih =>
    simp only [records, State.bind_apply, State.pure_apply]
    exact List.forall_mem_cons.mpr ⟨each source, ih _⟩

end Draws

namespace Demo

/-! ### The declaration -/

theorem lengths_ordered : (16 : UInt64) ≤ 64 := by decide

theorem types_nonempty : types ≠ [] := by decide

/-- The lengths of names. -/
def lengths : LengthRange := ⟨16, 64, lengths_ordered⟩

/-- The types to choose from. -/
def choices : Choices := ⟨types, types_nonempty⟩

/-- The column of names. -/
def nameColumn : Column := { table := "pets", name := "name", type := .varchar 255 }

/-- The column of types. -/
def typeColumn : Column := { table := "pets", name := "type", type := .enumeration 25 types }

theorem name_fits : (Generator.string lengths).check nameColumn = .ok () := by decide

theorem type_fits : (Generator.enumeration choices).check typeColumn = .ok () := by decide

/-- The bindings of pets. -/
def bindings : List Binding :=
  [⟨nameColumn, .string lengths, name_fits⟩, ⟨typeColumn, .enumeration choices, type_fits⟩]

theorem bindings_sound : Bindings.fault? pets bindings = none := by decide

/-- The job of the demonstration. -/
def job : Job := ⟨pets, 25, Nat.succ_pos 24, bindings, bindings_sound⟩

/-- The plan of the demonstration. -/
def plan : Plan := ⟨pets, 25, Nat.succ_pos 24, some job.bindings⟩

/-- What the demonstration declares. -/
theorem declared : Session.ofDeclarations declare = .ok { plans := [plan] } := rfl

theorem plan_ready : plan.ready = .ok job := rfl

/-! ### Records -/

/-- A record of a pet: a name and a type, and nothing else. -/
structure IsPet (record : Record) (name type : String) : Prop where
  fields : record.fields = [("name", .text name), ("type", .enumerant type)]
  long : 16 ≤ name.length
  short : name.length ≤ 64
  letters : ∀ character ∈ name.toList, Generator.IsLetter character
  listed : type = "DOG" ∨ type = "CAT"

section Records

variable {σ : Type} [WordSource σ]

/-- **A record that is drawn is a pet**, whatever the source gives. -/
theorem draw_isPet (source : σ) : ∃ name type, IsPet (job.bindings.draw source).1 name type := by
  have fields := (job.bindings.draw_fields source).1
  have list : job.bindings.list = bindings := rfl
  simp only [list, bindings, Binding.values_cons, Generator.sample, State.bind_apply,
    State.pure_apply, List.map_cons, List.zip_cons_cons] at fields
  refine ⟨_, _, fields, ?_, ?_, ?_, ?_⟩
  · rw [String.length_ofList, Generator.length_letters]
    exact lengths.le_draw source
  · rw [String.length_ofList, Generator.length_letters]
    exact lengths.draw_le source
  · rw [String.toList_ofList]
    exact Generator.isLetter_of_mem_letters _ _
  · have listed := choices.draw_mem
      (Generator.letters (lengths.draw source).1 (lengths.draw source).2).2
    simpa only [choices, types, List.mem_cons, List.not_mem_nil, or_false] using listed

/-- **The records of the demonstration are pets**, as many as are asked for. -/
theorem records_pets (count : Nat) (source : σ) :
    (job.records count source).1.length = count ∧
      ∀ record ∈ (job.records count source).1, ∃ name type, IsPet record name type :=
  ⟨job.length_records count source, Job.forall_mem_records draw_isPet count source⟩

end Records

end Demo

end Seeding
