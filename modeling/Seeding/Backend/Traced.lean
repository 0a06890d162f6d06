/-
**Traced backends.**

A traced backend answers as the backend inside it and keeps the calls it was given, each with the
result, in order. It is what statements about the calls of a run look at.
-/
import Seeding.Backend

namespace Seeding

/-- A call with its result. -/
abbrev Exchange := Call × Except StoreError Unit

/-- A backend with the exchanges it had so far. -/
structure Traced (β : Type) where
  inner : β
  trace : List Exchange := []

instance {β : Type} [Backend β] : Backend (Traced β) where
  perform call traced :=
    let answer := Backend.perform call traced.inner
    (answer.1, { inner := answer.2, trace := traced.trace ++ [(call, answer.1.result)] })

end Seeding
