/-
**Draws that hit with a given share.**

A draw of one word of 64 bits hits when the word lies below a threshold. The threshold of a
percentage is its binary64 quotient by a hundred, scaled to the range of words. A hundred percent
always hits and draws nothing; zero percent never hits but draws.
-/
import Seeding.Binary64
import Seeding.Random.Uniform

namespace Seeding

/-- A whole percentage from 0 to 100. -/
abbrev Percent := Fin 101

namespace Percent

/-- The number of words that hit. -/
def threshold (share : Percent) : Nat := Binary64.ofQuotient (share.val * UInt64.size) 100

/-- Whether a draw hits. -/
def hits {σ : Type} [WordSource σ] (share : Percent) : StateM σ Bool :=
  if share.val = 100 then pure true
  else fun source =>
    let drawn := Uniform.word64 source
    (drawn.1.val < share.threshold, drawn.2)

end Percent

end Seeding
