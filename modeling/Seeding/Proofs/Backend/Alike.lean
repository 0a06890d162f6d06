/-
**Backends that fill alike.**

A begin and an insertion fill; a commit and a rollback settle what was filled. Two backends fill
alike on a sequence of calls if, given these calls, they answer every begin and every insertion
alike, whatever they answer to the other calls (`AlikeOn`). Two traces are concordant if they have
the same answers to begins and insertions for as long as they have the same calls.

Main statement: `AlikeOn.concordant` — backends that fill alike on the calls of one trace have
traces that are concordant.
-/
import Seeding.Proofs.Backend.Calls

namespace Seeding

/-- Whether a call opens a transaction or puts a row in it. -/
def Call.fills : Call → Bool
  | .begin | .insert _ _ => true
  | .commit | .rollback => false

/-- The begins and insertions of a trace, with their answers. -/
def fillings (trace : List Exchange) : List Exchange := trace.filter fun exchange => exchange.1.fills

/-! ### Traces -/

/-- Two traces have the same answers to begins and insertions, as long as they have the same
calls. -/
def Concordant : List Exchange → List Exchange → Prop
  | (call, answer) :: rest, (call', answer') :: rest' =>
    call = call' → (call.fills = true → answer = answer') ∧ Concordant rest rest'
  | _, _ => True

namespace Concordant

theorem symm {trace trace' : List Exchange} (concordant : Concordant trace trace') :
    Concordant trace' trace := by
  induction trace generalizing trace' with
  | nil => cases trace' <;> trivial
  | cons exchange rest ih =>
    cases trace' with
    | nil => trivial
    | cons exchange' rest' =>
      intro same
      obtain ⟨answers, later⟩ := concordant same.symm
      exact ⟨fun fills => (answers (same ▸ fills)).symm, ih later⟩

/-- After the same calls, what is left of two concordant traces is concordant. -/
theorem rest {shared shared' trace trace' : List Exchange}
    (same : shared'.map Prod.fst = shared.map Prod.fst)
    (concordant : Concordant (shared ++ trace) (shared' ++ trace')) : Concordant trace trace' := by
  induction shared generalizing shared' with
  | nil =>
    obtain rfl : shared' = [] := List.map_eq_nil_iff.mp same
    exact concordant
  | cons exchange others ih =>
    cases shared' with
    | nil => cases same
    | cons exchange' others' =>
      obtain ⟨call, later⟩ := List.cons.inj same
      exact ih later (concordant call.symm).2

/-- After the same calls, the next begin or insertion that both have has the same answer. -/
theorem answer_eq {shared shared' trace trace' : List Exchange} {call : Call}
    {answer answer' : Except StoreError Unit} (same : shared'.map Prod.fst = shared.map Prod.fst)
    (fills : call.fills = true)
    (concordant : Concordant (shared ++ (call, answer) :: trace)
      (shared' ++ (call, answer') :: trace')) : answer = answer' :=
  (concordant.rest same rfl).1 fills

end Concordant

/-! ### Backends -/

namespace Backend

variable {β γ : Type} [Backend β] [Backend γ]

/-- Two backends answer the begins and insertions alike at every position of a sequence of calls,
when both have had the calls before it. -/
def AlikeOn (calls : List Call) (first : β) (second : γ) : Prop :=
  ∀ (earlier : List Call) (call : Call) (later : List Call), calls = earlier ++ call :: later →
    call.fills = true →
    (perform call (after earlier second)).1.result = (perform call (after earlier first)).1.result

namespace AlikeOn

variable {call : Call} {calls : List Call} {first : β} {second : γ}

theorem head (alike : AlikeOn (call :: calls) first second) (fills : call.fills = true) :
    (perform call second).1.result = (perform call first).1.result :=
  alike [] call calls rfl fills

theorem tail (alike : AlikeOn (call :: calls) first second) :
    AlikeOn calls (perform call first).2 (perform call second).2 := fun earlier other later split =>
  alike (call :: earlier) other later (congrArg (call :: ·) split)

/-- **Traces of backends that fill alike.** It is enough that they do on the calls of one of the
traces. -/
theorem concordant {trace trace' : List Exchange} {last : β} {last' : γ}
    (alike : AlikeOn (trace.map Prod.fst) first second) (answers : Answers first trace last)
    (answers' : Answers second trace' last') : Concordant trace trace' := by
  induction trace generalizing first second trace' with
  | nil => cases trace' <;> trivial
  | cons exchange rest ih =>
    cases trace' with
    | nil => trivial
    | cons exchange' rest' =>
      obtain ⟨call, answer⟩ := exchange
      obtain ⟨call', answer'⟩ := exchange'
      obtain ⟨given, others⟩ := answers
      obtain ⟨given', others'⟩ := answers'
      rintro rfl
      refine ⟨fun fills => ?_, ih alike.tail others others'⟩
      rw [← given, ← given', alike.head fills]

end AlikeOn

end Backend

end Seeding
