/-
**Draws look only ahead.**

A draw on a tape takes no notice of the words before its place. So one more word may be put before a
tape, or the first one taken away, and a draw behind it still returns the same values
(`Ahead.returns_iff`). It is shown for the loop that rejects words, whatever the width of a word, and
goes from there to all draws that are put together from it.
-/
import Seeding.Proofs.Random.Tape

namespace Seeding

namespace Tape

variable {α β : Type}

/-- The words of a tape with one more word before them. -/
def preceded (word : UInt64) (words : Nat → UInt64) : Nat → UInt64
  | 0 => word
  | place + 1 => words place

/-- A tape with one more word before it, at the same words as before. -/
def after (word : UInt64) (tape : Tape) : Tape where
  words := preceded word tape.words
  place := tape.place + 1
  patience := tape.patience

/-- A draw takes no notice of a word that is put before its tape. -/
def Ahead (draw : StateM Tape α) : Prop :=
  ∀ word tape, draw (tape.after word) = ((draw tape).1, (draw tape).2.after word)

theorem ahead_pure (value : α) : Ahead (pure value) := fun _ _ => rfl

theorem Ahead.bind {first : StateM Tape α} {next : α → StateM Tape β} (ahead : Ahead first)
    (later : ∀ value, Ahead (next value)) : Ahead (first >>= next) := by
  intro word tape
  rw [State.bind_apply, State.bind_apply, ahead word tape]
  exact later (first tape).1 word (first tape).2

theorem preceded_tail (words : Nat → UInt64) :
    preceded (words 0) (fun place => words (place + 1)) = words := by
  funext place
  cases place <;> rfl

theorem after_injective (word : UInt64) : Function.Injective (after word) := by
  intro first second same
  obtain ⟨words, place, patience⟩ := Tape.mk.inj same
  cases first
  cases second
  congr
  · exact funext fun place => congrFun words (place + 1)
  · exact Nat.succ.inj place

/-- **A draw returns behind one more word what it returns without it.** -/
theorem Ahead.returns_iff {draw : StateM Tape α} (ahead : Ahead draw) {words : Nat → UInt64}
    {place : Nat} {value : α} (word : UInt64) :
    (∃ last, Returns draw (preceded word words) (place + 1) value last) ↔
      ∃ last, Returns draw words place value last := by
  constructor
  · rintro ⟨last, bound, ends⟩
    refine ⟨last - 1, bound, fun patience enough => ?_⟩
    have shifted := (ahead word ⟨words, place, patience⟩).symm.trans (ends patience enough)
    obtain ⟨same, ended⟩ := Prod.mk.inj shifted
    have next : (draw ⟨words, place, patience⟩).2.place + 1 = last := congrArg Tape.place ended
    have left : (⟨preceded word words, last, patience⟩ : Tape) =
        after word ⟨words, last - 1, patience⟩ := by
      rw [← next]
      rfl
    exact Prod.ext same (after_injective word (ended.trans left))
  · rintro ⟨last, bound, ends⟩
    refine ⟨last + 1, bound, fun patience enough => ?_⟩
    have shifted := ahead word ⟨words, place, patience⟩
    rw [ends patience enough] at shifted
    exact shifted

end Tape

open Tape

namespace Uniform

/-! The loop of a draw as draws one after the other. -/

section Loop

variable {ω α : Type} {accept? : ω → Option α} {anyway : ω → α} {next : StateM Tape ω}

theorem settle_zero :
    settle accept? anyway next 0 = next >>= fun word =>
      pure ((accept? word).getD (anyway word)) := by
  funext tape
  rw [State.bind_apply]
  cases seen : accept? (next tape).1 with
  | some value => exact settle.eq_1 accept? anyway next tape 0 value seen
  | none => exact settle.eq_2 accept? anyway next tape seen

theorem settle_succ (patience : Nat) :
    settle accept? anyway next (patience + 1) = next >>= fun word =>
      (accept? word).elim (settle accept? anyway next patience) pure := by
  funext tape
  rw [State.bind_apply]
  cases seen : accept? (next tape).1 with
  | some value => exact settle.eq_1 accept? anyway next tape (patience + 1) value seen
  | none => exact settle.eq_3 accept? anyway next tape patience seen

/-- The loop of a draw looks only ahead if its words do. -/
theorem ahead_settle (ahead : Ahead next) (patience : Nat) :
    Ahead (settle accept? anyway next patience) := by
  induction patience with
  | zero =>
    rw [settle_zero]
    exact ahead.bind fun _ => ahead_pure _
  | succ patience ih =>
    rw [settle_succ]
    refine ahead.bind fun word => ?_
    cases accept? word with
    | some value => exact ahead_pure value
    | none => exact ih

end Loop

variable {size : Nat} {positive : 0 < size}

theorem ahead_word64 : Ahead word64 := fun _ _ => rfl

theorem ahead_word32 : Ahead word32 := fun _ _ => rfl

theorem ahead_below64 : Ahead (below64 size positive) := fun word tape =>
  ahead_settle ahead_word64 tape.patience word tape

theorem ahead_below32 : Ahead (below32 size positive) := fun word tape =>
  ahead_settle ahead_word32 tape.patience word tape

end Uniform

theorem Percent.ahead_hits (share : Percent) : Ahead share.hits := by
  unfold hits
  by_cases all : share.val = 100
  · rw [if_pos all]
    exact ahead_pure true
  · rw [if_neg all]
    exact fun _ _ => rfl

end Seeding
