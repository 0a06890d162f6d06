/-
**A record as a map in the order of insertion.**

Columns are set one after the other in the record without columns, some of them several times. The
writes alone say what record that is: its columns stand in the order of the first writes to them
(`columns_ofWrites`), and each has the value of the last (`get?_ofWrites`). To set one more column
leaves every other where it stands, with its value (`place_set`, `get?_set`).

Main statement: `insertion_ordered`, for every sequence of writes, any two of them and every record.
-/
import Mathlib
import Seeding.Proofs.Record

namespace Seeding.Record

/-! ### Writes -/

/-- The record that columns make which are set one after the other. -/
def ofWrites (writes : List (String × Value)) : Record :=
  writes.foldl (fun record write => record.set write.1 write.2) empty

/-- The columns that are written, in the order of the writes. -/
abbrev written (writes : List (String × Value)) : List String := writes.map Prod.fst

/-- The columns that are written, each where it is written first. -/
def firstWritten (writes : List (String × Value)) : List String := (written writes).eraseDups

/-- The value of the last write to a column. -/
def lastWritten? (writes : List (String × Value)) (column : String) : Option Value :=
  ((writes.filter fun write => write.1 == column).map Prod.snd).getLast?

/-- What writes say of the record that they make. -/
structure Remembers (record : Record) (writes : List (String × Value)) : Prop where
  /-- The columns are those that were written, in the order of their first writes. -/
  columns : record.columns = firstWritten writes
  /-- No column is there twice. -/
  distinct : record.columns.Nodup
  /-- Of two columns the one that was written first stands first. -/
  ordered : record.columns.Pairwise fun earlier later =>
    (written writes).idxOf earlier < (written writes).idxOf later
  /-- A column has the value of the last write to it. -/
  value : ∀ column, record.get? column = lastWritten? writes column
  /-- A column has no value exactly if it was never written. -/
  unset : ∀ column, record.get? column = none ↔ column ∉ written writes
  /-- The size is the number of different columns that were written. -/
  size : record.size = (written writes).toFinset.card

/-! ### One more write -/

section Concat

variable (earlier : List (String × Value)) (write : String × Value)

theorem ofWrites_concat :
    ofWrites (earlier ++ [write]) = (ofWrites earlier).set write.1 write.2 :=
  List.foldl_concat _ _ _ _

theorem written_concat : written (earlier ++ [write]) = written earlier ++ [write.1] :=
  List.map_append

theorem mem_firstWritten_iff {writes : List (String × Value)} {column : String} :
    column ∈ firstWritten writes ↔ column ∈ written writes :=
  List.mem_eraseDups

/-- A write to a new column puts it after the others. -/
theorem firstWritten_concat :
    firstWritten (earlier ++ [write]) =
      if write.1 ∈ firstWritten earlier then firstWritten earlier
      else firstWritten earlier ++ [write.1] := by
  have parts : firstWritten (earlier ++ [write]) =
      firstWritten earlier ++ ([write.1].removeAll (written earlier)).eraseDups := by
    rw [firstWritten, written_concat, List.eraseDups_append]
    rfl
  rw [parts]
  by_cases known : write.1 ∈ firstWritten earlier
  · have nothing : [write.1].removeAll (written earlier) = [] := by
      simpa [List.removeAll] using mem_firstWritten_iff.mp known
    rw [nothing, if_pos known, List.eraseDups_nil, List.append_nil]
  · have column : [write.1].removeAll (written earlier) = [write.1] := by
      simpa [List.removeAll] using mt mem_firstWritten_iff.mpr known
    rw [column, if_neg known]
    rfl

/-- A write gives its column the last value and no other. -/
theorem lastWritten?_concat (column : String) :
    lastWritten? (earlier ++ [write]) column =
      if column = write.1 then some write.2 else lastWritten? earlier column := by
  rw [lastWritten?, List.filter_append, List.map_append]
  by_cases same : column = write.1
  · subst same
    simp
  · simp [same, Ne.symm same, lastWritten?]

end Concat

/-! ### All writes -/

/-- Of two columns the one that is written first comes first. -/
theorem ordered_firstWritten (writes : List (String × Value)) :
    (firstWritten writes).Pairwise fun earlier later =>
      (written writes).idxOf earlier < (written writes).idxOf later := by
  induction writes using List.reverseRecOn with
  | nil => exact List.Pairwise.nil
  | append_singleton earlier write ih =>
    -- the places of the columns that were there do not change
    have place {column : String} (known : column ∈ firstWritten earlier) :
        (written (earlier ++ [write])).idxOf column = (written earlier).idxOf column := by
      rw [written_concat, List.idxOf_append_of_mem (mem_firstWritten_iff.mp known)]
    have kept : (firstWritten earlier).Pairwise fun column column' =>
        (written (earlier ++ [write])).idxOf column <
          (written (earlier ++ [write])).idxOf column' := by
      refine ih.imp_of_mem fun known known' first => ?_
      rw [place known, place known']
      exact first
    rw [firstWritten_concat]
    by_cases new : write.1 ∉ firstWritten earlier
    · have last : (written (earlier ++ [write])).idxOf write.1 = (written earlier).length := by
        rw [written_concat, List.idxOf_append_of_notMem (mt mem_firstWritten_iff.mpr new),
          List.idxOf_cons_self, Nat.add_zero]
      rw [if_neg new]
      refine List.pairwise_append.mpr ⟨kept, List.pairwise_singleton _ _, ?_⟩
      rintro column known _ (_ | ⟨_, ⟨⟩⟩)
      rw [place known, last]
      exact List.idxOf_lt_length_of_mem (mem_firstWritten_iff.mp known)
    · rw [if_pos (not_not.mp new)]
      exact kept

/-- **The columns stand in the order of their first writes.** -/
theorem columns_ofWrites (writes : List (String × Value)) :
    (ofWrites writes).columns = firstWritten writes := by
  induction writes using List.reverseRecOn with
  | nil => rfl
  | append_singleton earlier write ih =>
    rw [ofWrites_concat, columns_set, ih, firstWritten_concat]

/-- **A column has the value of the last write to it.** -/
theorem get?_ofWrites (writes : List (String × Value)) (column : String) :
    (ofWrites writes).get? column = lastWritten? writes column := by
  induction writes using List.reverseRecOn with
  | nil => rfl
  | append_singleton earlier write ih =>
    rw [ofWrites_concat, get?_set, ih, lastWritten?_concat]

/-- The record that writes make is what they say. -/
theorem remembers_ofWrites (writes : List (String × Value)) :
    (ofWrites writes).Remembers writes := by
  have ordered := (columns_ofWrites writes).symm ▸ ordered_firstWritten writes
  have distinct : (ofWrites writes).columns.Nodup := by
    refine ordered.imp fun first => ?_
    rintro rfl
    exact Nat.lt_irrefl _ first
  refine ⟨columns_ofWrites writes, distinct, ordered, get?_ofWrites writes, fun column => ?_, ?_⟩
  · rw [get?_eq_none_iff, columns_ofWrites, mem_firstWritten_iff]
  · have same : (ofWrites writes).columns.toFinset = (written writes).toFinset := by
      ext column
      rw [List.mem_toFinset, List.mem_toFinset, columns_ofWrites, mem_firstWritten_iff]
    rw [← same, List.toFinset_card_of_nodup distinct, Record.columns, List.length_map, Record.size]

/-- **Two sequences of writes make the same record** exactly if their first writes are in the same
order and every column has the same last value. -/
theorem ofWrites_eq_iff {first second : List (String × Value)} :
    ofWrites first = ofWrites second ↔
      firstWritten first = firstWritten second ∧
        ∀ column, lastWritten? first column = lastWritten? second column := by
  constructor
  · intro same
    refine ⟨?_, fun column => ?_⟩
    · rw [← columns_ofWrites, same, columns_ofWrites]
    · rw [← get?_ofWrites, same, get?_ofWrites]
  · rintro ⟨columns, values⟩
    refine eq_of_get? ?_ fun column => ?_
    · rw [columns_ofWrites, columns, columns_ofWrites]
    · rw [get?_ofWrites, values, get?_ofWrites]

/-- Setting a column moves no other. -/
theorem place_set (record : Record) {column other : String} (value : Value)
    (different : other ≠ column) :
    (record.set column value).columns.idxOf? other = record.columns.idxOf? other := by
  rw [columns_set]
  split
  · rfl
  · have behind : [column].findIdx? (fun name => name == other) = none := by
      simpa using different.symm
    rw [List.idxOf?, List.findIdx?_append, behind, Option.map_none, Option.or_none]

/-- **A record is a map in the order of insertion.** Whatever is written to the record without
columns, it has each column that was written, where it was written first, with the value that was
written last. Setting a column changes neither the value nor the place of another, in any record. Two
sequences of writes make the same record exactly if the columns are first written in the same order
and last written with the same values. -/
theorem insertion_ordered :
    (∀ writes : List (String × Value), (ofWrites writes).Remembers writes) ∧
    (∀ (record : Record) (column : String) (value : Value) (other : String), other ≠ column →
      (record.set column value).get? other = record.get? other ∧
      (record.set column value).columns.idxOf? other = record.columns.idxOf? other) ∧
    ∀ first second : List (String × Value), ofWrites first = ofWrites second ↔
      firstWritten first = firstWritten second ∧
        ∀ column, lastWritten? first column = lastWritten? second column :=
  ⟨remembers_ofWrites,
    fun record column value other different =>
      ⟨(get?_set record column value other).trans (if_neg different),
        place_set record value different⟩,
    fun _ _ => ofWrites_eq_iff⟩

/-- A dog that is named Rex, typed and named anew keeps its columns in order, and is the dog whose
name was first NULL. -/
theorem insertion_ordered_rex :
    let renamed : List (String × Value) :=
      [("name", .text "Rex"), ("type", .enumerant "DOG"), ("name", .text "Max")]
    let named : List (String × Value) :=
      [("name", .null), ("name", .text "Max"), ("type", .enumerant "DOG")]
    (ofWrites renamed).columns = ["name", "type"] ∧ (ofWrites renamed).size = 2 ∧
    (ofWrites renamed).get? "name" = some (.text "Max") ∧
    (ofWrites renamed).get? "age" = none ∧ "type" ≠ "name" ∧
    ((ofWrites renamed).set "name" .null).get? "type" = some (.enumerant "DOG") ∧
    ((ofWrites renamed).set "name" .null).columns.idxOf? "type" = some 1 ∧
    ofWrites renamed = ofWrites named := by
  intro renamed named
  obtain ⟨remembers, others, same⟩ := insertion_ordered
  have different : "type" ≠ "name" := by decide
  obtain ⟨value, place⟩ := others (ofWrites renamed) "name" .null "type" different
  refine ⟨(remembers renamed).columns.trans (by decide), (remembers renamed).size.trans (by decide),
    (remembers renamed).value _, ((remembers renamed).unset _).mpr (by decide), different,
    value.trans ((remembers renamed).value _), place.trans ?_, (same _ _).mpr ⟨by decide, ?_⟩⟩
  · rw [(remembers renamed).columns]
    decide
  · intro column
    by_cases name : column = "name"
    · subst name
      rfl
    · simp [lastWritten?, renamed, named, Ne.symm name]

end Seeding.Record
