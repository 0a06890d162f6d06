/-
**Fair draws.**

A draw is fair if every word either stands for one of the possible values, and each of these has the
same number of words, or is rejected and followed by the next word; and if no more than half of the
words are rejected.

* `fair_below64` — a draw below a size is fair.
* `Fair.map` — so is every view of a fair draw that loses nothing.
-/
import Seeding.Proofs.Random.Acceptance

namespace Seeding.Tape

variable {α β : Type}

/-- A draw of one of the possible values, with so many words for each. -/
structure Fair (draw : StateM Tape α) (possible : α → Prop) (share : Nat) : Prop where
  /-- What it returns is possible. -/
  sound : ∀ words place value last, Returns draw words place value last → possible value
  /-- Every possible value is drawn from just so many words. -/
  even : ∀ value, possible value →
    Nat.card { word : UInt64 // Reads draw (fun _ : Fin 1 => word) value } = share
  /-- A word from which no value is drawn is rejected: the draw goes on as if it started behind. -/
  retries : ∀ words place, (∀ value, ¬ Reads draw (fun _ : Fin 1 => words place) value) →
    ∀ value last, Returns draw words place value last ↔ Returns draw words (place + 1) value last
  /-- At most half of all words are rejected. -/
  scarce : Nat.card { word : UInt64 // ∀ value, ¬ Reads draw (fun _ : Fin 1 => word) value } ≤
    2 ^ 63

/-- **A draw below a size is fair.** -/
theorem fair_below64 {size : Nat} (positive : 0 < size) (fits : size ≤ UInt64.size) :
    Fair (Uniform.below64 size positive) (fun _ => True) (Uniform.wordsEach size) where
  sound _ _ _ _ _ := trivial
  even value _ := by
    simp only [Uniform.reads_below64_iff]
    rw [Uniform.card_accepted fits, Uniform.multiplicity_eq_wordsEach positive fits]
  retries words place unread value last := by
    simp only [Uniform.reads_below64_iff] at unread
    have rejected : Uniform.accepted? size (words place) = none :=
      Option.eq_none_iff_forall_ne_some.mpr unread
    rw [Uniform.returns_below64_iff, Uniform.returns_below64_iff]
    exact Uniform.settles_of_rejected rejected
  scarce := by
    simp only [Uniform.reads_below64_iff, ← Option.eq_none_iff_forall_ne_some]
    exact Uniform.card_rejected_le positive fits

/-- **A view of a fair draw is fair**, if it tells all values apart. -/
theorem Fair.map {draw : StateM Tape α} {share : Nat} (fair : Fair draw (fun _ => True) share)
    {view : α → β} (injective : view.Injective) {possible : β → Prop}
    (onto : ∀ result, possible result ↔ ∃ value, view value = result) :
    Fair (view <$> draw) possible share where
  sound words place result last returns := by
    obtain ⟨value, same, -⟩ := (returns_map_iff injective).mp returns
    exact (onto result).mpr ⟨value, same⟩
  even result inside := by
    obtain ⟨value, rfl⟩ := (onto result).mp inside
    rw [← fair.even value trivial]
    refine Nat.card_congr (Equiv.subtypeEquivRight fun word => ?_)
    rw [reads_map_iff injective]
    constructor
    · rintro ⟨other, same, reads⟩
      rwa [injective same] at reads
    · exact fun reads => ⟨value, rfl, reads⟩
  retries words place unread result last := by
    have unread' : ∀ value, ¬ Reads draw (fun _ : Fin 1 => words place) value := fun value reads =>
      unread (view value) ((reads_map_iff injective).mpr ⟨value, rfl, reads⟩)
    rw [returns_map_iff injective, returns_map_iff injective]
    simp only [fair.retries words place unread']
  scarce := by
    refine Nat.le_trans (Nat.le_of_eq (Nat.card_congr (Equiv.subtypeEquivRight fun word => ?_)))
      fair.scarce
    constructor
    · exact fun unread value reads =>
        unread (view value) ((reads_map_iff injective).mpr ⟨value, rfl, reads⟩)
    · intro unread result reads
      obtain ⟨value, -, read⟩ := (reads_map_iff injective).mp reads
      exact unread value read

end Seeding.Tape
