/-
**Objects with sorted fields.**

Sorting the fields of an object loses none of them and puts them in ascending order of their names,
strictly if no name occurs twice (`ordered_mergeSort`). There is only one such order of given fields
(`sorted_object`).
-/
import Mathlib
import Seeding.Json

namespace Seeding.Json

/-- Fields in strictly ascending order of their names. -/
def Ordered (fields : List (String × Json)) : Prop := (fields.map Prod.fst).Pairwise (· < ·)

variable {fields : List (String × Json)}

theorem Ordered.nodup (ordered : Ordered fields) : (fields.map Prod.fst).Nodup := by
  refine List.Pairwise.imp ?_ ordered
  intro first second before
  exact String.ne_of_lt before

theorem precedes_iff {first second : String × Json} :
    precedes first second = true ↔ first.1 ≤ second.1 := by
  unfold precedes
  rw [Bool.not_eq_true', decide_eq_false_iff_not, String.not_lt]

/-- **Sorted fields are in ascending order**, if no name occurs twice. -/
theorem ordered_mergeSort (distinct : (fields.map Prod.fst).Nodup) :
    Ordered (fields.mergeSort precedes) := by
  have transitive (first second third : String × Json) (before : precedes first second = true)
      (after : precedes second third = true) : precedes first third = true :=
    precedes_iff.mpr (String.le_trans (precedes_iff.mp before) (precedes_iff.mp after))
  have total (first second : String × Json) :
      (precedes first second || precedes second first) = true := by
    rw [Bool.or_eq_true, precedes_iff, precedes_iff]
    exact String.le_total first.1 second.1
  have ascending := List.pairwise_mergeSort transitive total fields
  have same : (fields.mergeSort precedes).Perm fields := List.mergeSort_perm fields precedes
  have distinct' := List.pairwise_map.mp ((same.map Prod.fst).nodup_iff.mpr distinct)
  refine List.pairwise_map.mpr ((ascending.and distinct').imp ?_)
  rintro first second ⟨before, different⟩
  exact Std.lt_of_le_of_ne (precedes_iff.mp before) different

/-- **There is one ascending order of given fields.** -/
theorem sorted_object {ascending : List (String × Json)} (ordered : Ordered ascending)
    (same : ascending.Perm fields) : (object fields).sorted = object ascending := by
  have distinct : (fields.map Prod.fst).Nodup := (same.map Prod.fst).nodup_iff.mp ordered.nodup
  have sorted : fields.mergeSort precedes = ascending := by
    apply List.Perm.eq_of_pairwise _ (List.pairwise_map.mp (ordered_mergeSort distinct))
      (List.pairwise_map.mp ordered) ((List.mergeSort_perm fields precedes).trans same.symm)
    intro first second _ _ before after
    exact absurd (String.lt_trans before after) (String.lt_irrefl _)
  exact congrArg object sorted

end Seeding.Json
