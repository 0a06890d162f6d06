/-
**Draws from an endless tape.**

A tape is an endless sequence of words that is read from a place on. A source with little patience
gives up a draw that rejects too many words, but a draw in its own right goes on until it accepts a
word. So what a draw does on a tape is what it does for every patience that is large enough
(`Returns`); a draw that waits for a word that never comes does not end, for it takes the more words
the more patience it has.

* `returns_below64_iff` — a draw below a size ends with the first word that it accepts (`Settles`).
* `returns_below64_bind` — a longer draw that starts with such a draw ends only if that one does.
* `reads_below64_iff` — it reads one word exactly if it accepts that word.
-/
import Seeding.Proofs.State
import Seeding.Random.Share

namespace Seeding

/-- An endless sequence of words that is read from a place on. A draw of 32 bits takes a whole word
and keeps its low half. -/
structure Tape where
  words : Nat → UInt64
  place : Nat
  patience : Nat

namespace Tape

/-- The tape after its next word. -/
def advance (tape : Tape) : Tape := { tape with place := tape.place + 1 }

instance : WordSource Tape where
  next32 tape := ((tape.words tape.place).toUInt32, tape.advance)
  next64 tape := (tape.words tape.place, tape.advance)
  patience := Tape.patience

variable {α β : Type}

/-! ### What a draw returns -/

/-- A draw that starts at a place ends with a value and leaves the words from `last` on. -/
def Returns (draw : StateM Tape α) (words : Nat → UInt64) (place : Nat) (value : α) (last : Nat) :
    Prop :=
  ∃ bound, ∀ patience, bound ≤ patience →
    draw ⟨words, place, patience⟩ = (value, ⟨words, last, patience⟩)

/-- A draw reads just these words and ends with a value, wherever they stand on a tape. -/
def Reads {count : Nat} (draw : StateM Tape α) (block : Fin count → UInt64) (value : α) : Prop :=
  ∀ words place, (∀ index : Fin count, words (place + index) = block index) →
    Returns draw words place value (place + count)

/-- A draw never goes back on a tape. -/
def Forward (draw : StateM Tape α) : Prop := ∀ tape, tape.place ≤ (draw tape).2.place

variable {words : Nat → UInt64} {place last : Nat}

/-- What a draw returns is what it gives for some patience. -/
theorem Returns.exists_eq {draw : StateM Tape α} {value : α}
    (returns : Returns draw words place value last) : ∃ tape, (draw tape).1 = value := by
  obtain ⟨bound, ends⟩ := returns
  exact ⟨⟨words, place, bound⟩, by rw [ends bound (Nat.le_refl bound)]⟩

theorem returns_pure_iff {value result : α} :
    Returns (pure value) words place result last ↔ value = result ∧ place = last := by
  constructor
  · rintro ⟨bound, ends⟩
    have same := ends bound (Nat.le_refl bound)
    exact ⟨congrArg Prod.fst same, congrArg (fun drawn => drawn.2.place) same⟩
  · rintro ⟨rfl, rfl⟩
    exact ⟨0, fun _ _ => rfl⟩

/-- Draws that end, one after the other, end. -/
theorem Returns.bind {first : StateM Tape α} {next : α → StateM Tape β} {value : α} {result : β}
    {middle : Nat} (returns : Returns first words place value middle)
    (later : Returns (next value) words middle result last) :
    Returns (first >>= next) words place result last := by
  obtain ⟨bound, ends⟩ := returns
  obtain ⟨bound', ends'⟩ := later
  refine ⟨max bound bound', fun patience enough => ?_⟩
  obtain ⟨left, right⟩ := Nat.max_le.mp enough
  rw [State.bind_apply, ends patience left]
  exact ends' patience right

/-- A view that loses nothing ends with the view of what the draw ends with. -/
theorem returns_map_iff {draw : StateM Tape α} {view : α → β} (injective : view.Injective)
    {result : β} :
    Returns (view <$> draw) words place result last ↔
      ∃ value, view value = result ∧ Returns draw words place value last := by
  constructor
  · rintro ⟨bound, ends⟩
    have same := congrArg Prod.fst (ends bound (Nat.le_refl bound))
    refine ⟨(draw ⟨words, place, bound⟩).1, same, bound, fun patience enough => ?_⟩
    have whole := ends patience enough
    have value : view (draw ⟨words, place, patience⟩).1 = result := congrArg Prod.fst whole
    have state : (draw ⟨words, place, patience⟩).2 = ⟨words, last, patience⟩ :=
      congrArg Prod.snd whole
    exact Prod.ext (injective (value.trans same.symm)) state
  · rintro ⟨value, rfl, bound, ends⟩
    refine ⟨bound, fun patience enough => ?_⟩
    rw [State.map_apply, ends patience enough]

/-- A tape that begins with the words of a block. -/
def padded {count : Nat} (block : Fin count → UInt64) (place : Nat) : UInt64 :=
  if below : place < count then block ⟨place, below⟩ else 0

/-- What a draw reads stands on some tape. -/
theorem Reads.returns {count : Nat} {draw : StateM Tape α} {block : Fin count → UInt64} {value : α}
    (reads : Reads draw block value) : Returns draw (padded block) 0 value count := by
  have ends := reads (padded block) 0 fun index => by
    rw [Nat.zero_add, padded, dif_pos index.isLt]
  rw [Nat.zero_add] at ends
  exact ends

/-- A view that loses nothing reads what the draw reads. -/
theorem reads_map_iff {count : Nat} {draw : StateM Tape α} {view : α → β}
    (injective : view.Injective) {block : Fin count → UInt64} {result : β} :
    Reads (view <$> draw) block result ↔ ∃ value, view value = result ∧ Reads draw block value := by
  constructor
  · intro reads
    obtain ⟨value, same, -⟩ := (returns_map_iff injective).mp reads.returns
    refine ⟨value, same, fun words place stands => ?_⟩
    obtain ⟨other, same', returns⟩ := (returns_map_iff injective).mp (reads words place stands)
    rw [injective (same.trans same'.symm)]
    exact returns
  · rintro ⟨value, same, reads⟩ words place stands
    exact (returns_map_iff injective).mpr ⟨value, same, reads words place stands⟩

theorem forward_pure (value : α) : Forward (pure value) := fun tape => Nat.le_refl tape.place

theorem Forward.bind {first : StateM Tape α} {next : α → StateM Tape β} (forward : Forward first)
    (later : ∀ value, Forward (next value)) : Forward (first >>= next) := fun tape =>
  Nat.le_trans (forward tape) (later (first tape).1 (first tape).2)

end Tape

/-! ### Draws below a size -/

namespace Uniform

open Tape

variable {size : Nat}

/-- The value that a word stands for, unless it is rejected. -/
def accepted? (size : Nat) (word : UInt64) : Option (Fin size) :=
  accept? 64 size ⟨word.toNat, word.toNat_lt⟩

/-- From a place on, the first word that is accepted stands for the value, and is the last that is
read. -/
inductive Settles (size : Nat) (words : Nat → UInt64) : Nat → Fin size → Nat → Prop where
  | accept {place : Nat} {value : Fin size} (accepted : accepted? size (words place) = some value) :
      Settles size words place value (place + 1)
  | reject {place last : Nat} {value : Fin size} (rejected : accepted? size (words place) = none)
      (later : Settles size words (place + 1) value last) : Settles size words place value last

variable {words : Nat → UInt64} {place last : Nat} {value : Fin size} {positive : 0 < size}

/-- At least one word is read. -/
theorem Settles.lt (settles : Settles size words place value last) : place < last := by
  induction settles with
  | accept => exact Nat.lt_succ_self _
  | reject _ _ ih => exact Nat.lt_of_succ_lt ih

/-- If one word is read, it is accepted. -/
theorem Settles.accepted (settles : Settles size words place value (place + 1)) :
    accepted? size (words place) = some value := by
  generalize other : place + 1 = last at settles
  cases settles with
  | accept accepted => exact accepted
  | reject _ later =>
    have more := later.lt
    omega

/-- A draw that rejects a word goes on with the next one. -/
theorem settles_of_rejected (rejected : accepted? size (words place) = none) :
    Settles size words place value last ↔ Settles size words (place + 1) value last := by
  refine ⟨fun settles => ?_, Settles.reject rejected⟩
  cases settles with
  | accept accepted =>
    rw [rejected] at accepted
    cases accepted
  | reject _ later => exact later

/-! The loop of a draw, one word at a time. -/

theorem settle_of_accepted {tape : Tape}
    (accepted : accepted? size (tape.words tape.place) = some value) (patience : Nat) :
    settleBelow positive word64 patience tape = (value, tape.advance) :=
  settle.eq_1 (accept? 64 size) (remainder positive) word64 tape patience value accepted

theorem settle_of_rejected {tape : Tape}
    (rejected : accepted? size (tape.words tape.place) = none) (patience : Nat) :
    settleBelow positive word64 (patience + 1) tape =
      settleBelow positive word64 patience tape.advance :=
  settle.eq_3 (accept? 64 size) (remainder positive) word64 tape patience rejected

theorem settle_of_impatient {tape : Tape}
    (rejected : accepted? size (tape.words tape.place) = none) :
    (settleBelow positive word64 0 tape).2 = tape.advance :=
  congrArg Prod.snd (settle.eq_2 (accept? 64 size) (remainder positive) word64 tape rejected)

/-- With some patience a draw either settles or takes as many words as it may, and one more. -/
theorem settle_cases (positive : 0 < size) (patience : Nat) (tape : Tape) :
    ∃ last, (settleBelow positive word64 patience tape).2 = { tape with place := last } ∧
      (Settles size tape.words tape.place (settleBelow positive word64 patience tape).1 last ∨
        last = tape.place + patience + 1) := by
  induction patience generalizing tape with
  | zero =>
    cases seen : accepted? size (tape.words tape.place) with
    | some value =>
      rw [settle_of_accepted seen]
      exact ⟨tape.place + 1, rfl, Or.inl (.accept seen)⟩
    | none => exact ⟨tape.place + 1, settle_of_impatient seen, Or.inr rfl⟩
  | succ patience ih =>
    cases seen : accepted? size (tape.words tape.place) with
    | some value =>
      rw [settle_of_accepted seen]
      exact ⟨tape.place + 1, rfl, Or.inl (.accept seen)⟩
    | none =>
      rw [settle_of_rejected seen]
      obtain ⟨last, ends, settles | spent⟩ := ih tape.advance
      · exact ⟨last, ends, Or.inl (.reject seen settles)⟩
      · refine ⟨last, ends, Or.inr ?_⟩
        have next : tape.advance.place = tape.place + 1 := rfl
        omega

/-- A draw below a size goes forward. -/
theorem forward_below64 : Forward (below64 size positive) := by
  intro tape
  obtain ⟨last, ends, settles | spent⟩ := settle_cases positive tape.patience tape
  · show tape.place ≤ (settleBelow positive word64 tape.patience tape).2.place
    rw [ends]
    exact Nat.le_of_lt settles.lt
  · show tape.place ≤ (settleBelow positive word64 tape.patience tape).2.place
    rw [ends]
    show tape.place ≤ last
    omega

/-- A draw that settles returns. -/
theorem Settles.returns (settles : Settles size words place value last) :
    Returns (below64 size positive) words place value last := by
  suffices loop : ∃ bound, ∀ patience, bound ≤ patience → ∀ kept,
      settleBelow positive word64 patience (⟨words, place, kept⟩ : Tape) =
        (value, ⟨words, last, kept⟩) by
    obtain ⟨bound, ends⟩ := loop
    exact ⟨bound, fun patience enough => ends patience enough patience⟩
  induction settles with
  | accept accepted => exact ⟨0, fun patience _ kept => settle_of_accepted accepted patience⟩
  | reject rejected _ ih =>
    obtain ⟨bound, ends⟩ := ih
    refine ⟨bound + 1, fun patience enough kept => ?_⟩
    obtain ⟨rest, rfl⟩ : ∃ rest, patience = rest + 1 := ⟨patience - 1, by omega⟩
    rw [settle_of_rejected rejected]
    exact ends rest (Nat.le_of_succ_le_succ enough) kept

/-- **A longer draw ends only if its first draw does.** The first draw would else read further than
the whole, given enough patience. -/
theorem returns_below64_bind {β : Type} {next : Fin size → StateM Tape β}
    (forward : ∀ value, Forward (next value)) {result : β} :
    Returns (below64 size positive >>= next) words place result last ↔
      ∃ value middle, Settles size words place value middle ∧
        Returns (next value) words middle result last := by
  constructor
  · rintro ⟨bound, ends⟩
    let patience := max bound last
    have whole := ends patience (Nat.le_max_left bound last)
    obtain ⟨middle, first, settles | spent⟩ := settle_cases positive patience
      (⟨words, place, patience⟩ : Tape)
    · refine ⟨_, middle, settles, ?_⟩
      have alone : Returns (below64 size positive) words place _ middle := settles.returns
      obtain ⟨bound', ends'⟩ := alone
      refine ⟨max bound bound', fun more enough => ?_⟩
      obtain ⟨left, right⟩ := Nat.max_le.mp enough
      rw [← ends more left, State.bind_apply, ends' more right]
    · -- then the first draw alone has read further than the whole
      exfalso
      have after := forward
        (settleBelow positive word64 patience (⟨words, place, patience⟩ : Tape)).1
        (settleBelow positive word64 patience (⟨words, place, patience⟩ : Tape)).2
      have ended : next (settleBelow positive word64 patience (⟨words, place, patience⟩ : Tape)).1
          (settleBelow positive word64 patience (⟨words, place, patience⟩ : Tape)).2 =
        (result, ⟨words, last, patience⟩) := whole
      rw [ended, first] at after
      have short : middle ≤ last := after
      have long : middle = place + patience + 1 := spent
      have enough : last ≤ patience := Nat.le_max_right bound last
      omega
  · rintro ⟨value, middle, settles, later⟩
    exact settles.returns.bind later

/-- **A draw below a size ends with the first word that it accepts.** -/
theorem returns_below64_iff :
    Returns (below64 size positive) words place value last ↔ Settles size words place value last := by
  refine ⟨fun returns => ?_, Settles.returns⟩
  have split : below64 size positive = (below64 size positive >>= pure : StateM Tape (Fin size)) := rfl
  rw [split] at returns
  obtain ⟨other, middle, settles, ended⟩ := (returns_below64_bind forward_pure).mp returns
  obtain ⟨rfl, rfl⟩ := returns_pure_iff.mp ended
  exact settles

/-- A view of a draw below a size, if it loses nothing, ends with the view of what the draw settles
on. -/
theorem returns_view_iff {β : Type} {view : Fin size → β} (injective : view.Injective) {result : β} :
    Returns (view <$> below64 size positive) words place result last ↔
      ∃ value, view value = result ∧ Settles size words place value last := by
  simp only [returns_map_iff injective, returns_below64_iff]

/-- **A draw below a size reads one word exactly if it accepts that word.** -/
theorem reads_below64_iff {word : UInt64} :
    Reads (below64 size positive) (fun _ : Fin 1 => word) value ↔ accepted? size word = some value := by
  constructor
  · intro reads
    exact (returns_below64_iff.mp (reads (fun _ => word) 0 fun _ => rfl)).accepted
  · intro accepted words place stands
    have first : words place = word := stands 0
    rw [← first] at accepted
    exact (Settles.accept accepted).returns

/-- Such a view ends after one word exactly if it reads that word. -/
theorem returns_once_iff {β : Type} {view : Fin size → β} (injective : view.Injective) {result : β} :
    Returns (view <$> below64 size positive) words place result (place + 1) ↔
      Reads (view <$> below64 size positive) (fun _ : Fin 1 => words place) result := by
  rw [returns_view_iff injective, reads_map_iff injective]
  simp only [reads_below64_iff]
  constructor
  · rintro ⟨value, same, settles⟩
    exact ⟨value, same, settles.accepted⟩
  · rintro ⟨value, same, accepted⟩
    exact ⟨value, same, .accept accepted⟩

end Uniform

end Seeding
