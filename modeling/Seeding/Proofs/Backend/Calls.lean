/-
**Calls one after the other.**

`after` is a backend after a list of calls and `exchanges` are the calls with the results that it
gave. `Answers` says the same of a list of exchanges: the backend gives these results to these
calls, and they leave it in the given state. A traced backend has then noted just these exchanges
(`Traced.of_answers`).
-/
import Seeding.Backend.Traced

namespace Seeding

namespace Backend

variable {β : Type} [Backend β]

/-- The backend after a list of calls. -/
def after (calls : List Call) (backend : β) : β :=
  calls.foldl (fun backend call => (perform call backend).2) backend

/-- The calls of a list with the results that the backend gives them, one after the other. -/
def exchanges : List Call → β → List Exchange
  | [], _ => []
  | call :: rest, backend =>
    (call, (perform call backend).1.result) :: exchanges rest (perform call backend).2

/-- The calls of the exchanges are those of the list, in order. -/
theorem calls_exchanges (calls : List Call) (backend : β) :
    (exchanges calls backend).map Prod.fst = calls := by
  induction calls generalizing backend with
  | nil => rfl
  | cons call rest ih => rw [exchanges, List.map_cons, ih]

/-- Calls in a row are made one part after the other. -/
theorem after_append (first second : List Call) (backend : β) :
    after (first ++ second) backend = after second (after first backend) :=
  List.foldl_append

theorem exchanges_append (first second : List Call) (backend : β) :
    exchanges (first ++ second) backend =
      exchanges first backend ++ exchanges second (after first backend) := by
  induction first generalizing backend with
  | nil => rfl
  | cons call rest ih =>
    rw [List.cons_append, exchanges, ih, exchanges, List.cons_append]
    rfl

/-- The backend gives these results to these calls, and they leave it in the given state. -/
def Answers : β → List Exchange → β → Prop
  | backend, [], last => backend = last
  | backend, (call, result) :: rest, last =>
    (perform call backend).1.result = result ∧ Answers (perform call backend).2 rest last

/-- Exchanges in a row are answered one part after the other. -/
theorem answers_append {first second : List Exchange} {backend last : β} :
    Answers backend (first ++ second) last ↔
      ∃ middle, Answers backend first middle ∧ Answers middle second last := by
  induction first generalizing backend with
  | nil => exact ⟨fun answers => ⟨backend, rfl, answers⟩, fun ⟨_, same, answers⟩ => same ▸ answers⟩
  | cons exchange rest ih =>
    obtain ⟨call, result⟩ := exchange
    constructor
    · rintro ⟨given, answers⟩
      obtain ⟨middle, left, right⟩ := ih.mp answers
      exact ⟨middle, ⟨given, left⟩, right⟩
    · rintro ⟨middle, ⟨given, left⟩, right⟩
      exact ⟨given, ih.mpr ⟨middle, left, right⟩⟩

/-- Answered calls lead where the calls lead. -/
theorem after_of_answers {exchanges : List Exchange} {backend last : β}
    (answers : Answers backend exchanges last) : after (exchanges.map Prod.fst) backend = last := by
  induction exchanges generalizing backend with
  | nil => exact answers
  | cons exchange rest ih => exact ih answers.2

end Backend

namespace Traced

variable {β : Type} [Backend β]

/-- A traced backend that gave these results has noted them, and the backend inside gave them. -/
theorem of_answers {exchanges : List Exchange} {traced last : Traced β}
    (answers : Backend.Answers traced exchanges last) :
    last.trace = traced.trace ++ exchanges ∧
      Backend.Answers traced.inner exchanges last.inner := by
  induction exchanges generalizing traced with
  | nil =>
    obtain rfl : traced = last := answers
    exact ⟨(List.append_nil _).symm, rfl⟩
  | cons exchange rest ih =>
    obtain ⟨call, result⟩ := exchange
    obtain ⟨given, later⟩ := answers
    obtain ⟨noted, inside⟩ := ih later
    refine ⟨?_, given, inside⟩
    rw [noted, ← given]
    show traced.trace ++ [(call, _)] ++ rest = _
    rw [List.append_assoc]
    rfl

end Traced

end Seeding
