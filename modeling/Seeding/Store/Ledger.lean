/-
**The rows of tables.**

A ledger holds the rows of each table in the order in which they came. Tables stand in ascending
order of their names, and a table is there only if it has rows. A row that is added comes at the end
of its table and leaves the other tables alone (`rows_add`, `rows_addAll`). A tally counts by name.
-/
import Seeding.Record

namespace Seeding

/-- Looking up a name sees the first entry of a list and, if it has another name, the others. -/
theorem lookup_entry {α : Type} (name key : String) (value : α) (rest : List (String × α)) :
    ((key, value) :: rest).lookup name = if name = key then some value else rest.lookup name := by
  by_cases same : name = key
  · simp [same]
  · simp [List.lookup_cons, same, beq_eq_false_iff_ne.mpr same]

namespace Ledger

/-- Adds a row at the end of a table in a list of tables; a new table takes its place by name. -/
def put (table : String) (record : Record) :
    List (String × Array Record) → List (String × Array Record)
  | [] => [(table, #[record])]
  | (name, rows) :: rest =>
    if table = name then (name, rows.push record) :: rest
    else if table < name then (table, #[record]) :: (name, rows) :: rest
    else (name, rows) :: put table record rest

variable {table : String} {record : Record} {entries : List (String × Array Record)}

/-- Adding a row brings in no name but that of its table. -/
theorem mem_names_put {name : String} (member : name ∈ (put table record entries).map Prod.fst) :
    name = table ∨ name ∈ entries.map Prod.fst := by
  induction entries with
  | nil => exact Or.inl (List.mem_singleton.mp member)
  | cons entry rest ih =>
    obtain ⟨key, rows⟩ := entry
    simp only [put] at member
    split at member
    · exact Or.inr member
    · split at member
      · exact List.mem_cons.mp member
      · rcases List.mem_cons.mp member with same | inside
        · exact Or.inr (same ▸ List.mem_cons_self)
        · exact (ih inside).imp id (List.mem_cons_of_mem key)

/-- Adding a row keeps the names ascending. -/
theorem ordered_put (ordered : (entries.map Prod.fst).Pairwise (· < ·)) :
    ((put table record entries).map Prod.fst).Pairwise (· < ·) := by
  induction entries with
  | nil => exact List.pairwise_singleton _ _
  | cons entry rest ih =>
    obtain ⟨key, rows⟩ := entry
    obtain ⟨least, ordered'⟩ := List.pairwise_cons.mp ordered
    simp only [put]
    split
    · exact ordered
    · rename_i different
      split
      · rename_i before
        refine List.pairwise_cons.mpr ⟨fun name member => ?_, ordered⟩
        rcases List.mem_cons.mp member with rfl | inside
        · exact before
        · exact String.lt_trans before (least name inside)
      · rename_i notBefore
        refine List.pairwise_cons.mpr ⟨fun name member => ?_, ih ordered'⟩
        rcases mem_names_put member with rfl | inside
        · exact Std.lt_of_le_of_ne (String.not_lt.mp notBefore) fun same => different same.symm
        · exact least name inside

/-- Adding a row leaves no table without rows. -/
theorem filled_put (filled : ∀ entry ∈ entries, entry.2 ≠ #[]) :
    ∀ entry ∈ put table record entries, entry.2 ≠ #[] := by
  induction entries with
  | nil => simp [put]
  | cons entry rest ih =>
    obtain ⟨key, rows⟩ := entry
    have filledRest := ih fun entry inside => filled entry (List.mem_cons_of_mem _ inside)
    simp only [put]
    split
    · simpa using fun name rows inside => filled (name, rows) (List.mem_cons_of_mem _ inside)
    · split
      · simpa using filled
      · simpa [filled (key, rows) List.mem_cons_self] using filledRest

/-- Adding a row changes what is found under the name of its table and under no other name. -/
theorem lookup_put (ordered : (entries.map Prod.fst).Pairwise (· < ·)) (name : String) :
    (put table record entries).lookup name =
      if name = table then some (((entries.lookup table).getD #[]).push record)
      else entries.lookup name := by
  induction entries with
  | nil => simp [put, lookup_entry]
  | cons entry rest ih =>
    obtain ⟨key, rows⟩ := entry
    obtain ⟨least, ordered'⟩ := List.pairwise_cons.mp ordered
    simp only [put]
    split
    · rename_i equal
      subst equal
      by_cases same : name = table <;> simp [lookup_entry, same]
    · rename_i different
      split
      · rename_i before
        -- all names of the list lie above the new one, so it is not there yet
        have absent : ((key, rows) :: rest).lookup table = none := by
          refine List.lookup_eq_none_iff.mpr fun entry member => ?_
          rcases List.mem_cons.mp member with rfl | inside
          · simpa using different
          · have above := least entry.1 (List.mem_map_of_mem inside)
            simpa using String.ne_of_lt (String.lt_trans before above)
        rw [absent, lookup_entry]
        rfl
      · rw [lookup_entry, ih ordered', lookup_entry, lookup_entry]
        by_cases same : name = table
        · subst same
          simp [different]
        · simp [same]

/-- What is found under a name is the only entry of that name. -/
theorem lookup_iff_mem (ordered : (entries.map Prod.fst).Pairwise (· < ·)) {name : String}
    {rows : Array Record} : entries.lookup name = some rows ↔ (name, rows) ∈ entries := by
  induction entries with
  | nil => simp
  | cons entry rest ih =>
    obtain ⟨key, first⟩ := entry
    obtain ⟨least, ordered'⟩ := List.pairwise_cons.mp ordered
    rw [lookup_entry, List.mem_cons, ← ih ordered', Prod.mk.injEq]
    by_cases same : name = key
    · subst same
      have absent : rest.lookup name ≠ some rows := by
        intro later
        have member := (ih ordered').mp later
        exact String.lt_irrefl name (least name (List.mem_map_of_mem member))
      simp [absent, eq_comm]
    · simp [same]

end Ledger

/-- Rows by the name of their table. -/
structure Ledger where
  entries : List (String × Array Record)
  ordered : (entries.map Prod.fst).Pairwise (· < ·)
  filled : ∀ entry ∈ entries, entry.2 ≠ #[]
  deriving DecidableEq, Repr

namespace Ledger

/-- No rows. -/
def empty : Ledger where
  entries := []
  ordered := List.Pairwise.nil
  filled _ member := absurd member List.not_mem_nil

/-- Adds a row at the end of a table. -/
def add (table : String) (record : Record) (ledger : Ledger) : Ledger where
  entries := put table record ledger.entries
  ordered := ordered_put ledger.ordered
  filled := filled_put ledger.filled

/-- Adds rows one after the other. -/
def addAll (rows : List (String × Record)) (ledger : Ledger) : Ledger :=
  rows.foldl (fun ledger row => add row.1 row.2 ledger) ledger

/-- The rows of a table, in order. -/
def rows (ledger : Ledger) (table : String) : List Record :=
  ((ledger.entries.lookup table).map Array.toList).getD []

/-- A row that is added comes at the end of its table. -/
theorem rows_add (table : String) (record : Record) (ledger : Ledger) (name : String) :
    (ledger.add table record).rows name =
      ledger.rows name ++ if table = name then [record] else [] := by
  simp only [rows, add, lookup_put ledger.ordered]
  by_cases same : name = table
  · subst same
    cases ledger.entries.lookup name <;> simp
  · simp [same, Ne.symm same]

/-- Rows that are added come at the end of their tables, in the order of the list. -/
theorem rows_addAll (added : List (String × Record)) (ledger : Ledger) (name : String) :
    (ledger.addAll added).rows name =
      ledger.rows name ++ (added.filter fun row => row.1 = name).map Prod.snd := by
  induction added generalizing ledger with
  | nil => simp [addAll]
  | cons row rest ih =>
    have step : ledger.addAll (row :: rest) = (ledger.add row.1 row.2).addAll rest := rfl
    rw [step, ih, rows_add, List.append_assoc]
    by_cases same : row.1 = name <;> simp [same]

/-- A table is in the ledger if it has rows, and then with all of them. -/
theorem mem_entries_iff (ledger : Ledger) {name : String} {rows : Array Record} :
    (name, rows) ∈ ledger.entries ↔ ledger.rows name = rows.toList ∧ rows ≠ #[] := by
  have found := @lookup_iff_mem ledger.entries ledger.ordered name rows
  rw [Ledger.rows]
  constructor
  · intro member
    rw [found.mpr member]
    exact ⟨rfl, ledger.filled _ member⟩
  · rintro ⟨same, filled⟩
    refine found.mp ?_
    cases listed : ledger.entries.lookup name with
    | none =>
      rw [listed] at same
      exact absurd (Array.toList_eq_nil_iff.mp same.symm) filled
    | some records =>
      rw [listed] at same
      exact congrArg some (Array.toList_inj.mp same)

end Ledger

/-- Counts by name; a name that is absent counts zero. -/
abbrev Tally := List (String × Nat)

namespace Tally

/-- The count of a name. -/
def count (tally : Tally) (name : String) : Nat := (tally.lookup name).getD 0

/-- Counts a name once more. -/
def add (name : String) : Tally → Tally
  | [] => [(name, 1)]
  | (key, counted) :: rest =>
    if name = key then (key, counted + 1) :: rest else (key, counted) :: add name rest

/-- Counting a name changes the count of no other. -/
theorem count_add (name other : String) (tally : Tally) :
    (add name tally).count other = tally.count other + if name = other then 1 else 0 := by
  induction tally with
  | nil => by_cases same : other = name <;> simp [add, count, lookup_entry, same, Ne.symm]
  | cons entry rest ih =>
    obtain ⟨key, counted⟩ := entry
    simp only [count, add] at ih ⊢
    by_cases here : name = key
    · subst here
      by_cases same : other = name <;> simp [lookup_entry, same, Ne.symm]
    · rw [if_neg here, lookup_entry, lookup_entry]
      by_cases same : other = key
      · subst same
        simp [here]
      · rw [if_neg same, if_neg same, ih]

end Tally

end Seeding
