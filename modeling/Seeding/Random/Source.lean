/-
**Sources of random words.**

A source gives words of 32 and of 64 bits one after the other. A draw that rejects words looks at
no more of them than the source has patience for, so every draw ends.
-/

namespace Seeding

/-- A state that gives random words. -/
class WordSource (σ : Type) where
  /-- The next word of 32 bits. -/
  next32 : σ → UInt32 × σ
  /-- The next word of 64 bits. -/
  next64 : σ → UInt64 × σ
  /-- How many words one draw may reject from here on. -/
  patience : σ → Nat

end Seeding
