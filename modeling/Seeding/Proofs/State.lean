/-
**Computations with a state, step by step.**

A draw and a step of a run are functions from a state to a result and the next state. The lemmas
below open their sequences: each step starts from the state that the step before has left.
-/

namespace Seeding.State

variable {σ α β : Type}

@[simp] theorem pure_apply (value : α) (state : σ) :
    (pure value : StateM σ α) state = (value, state) := rfl

@[simp] theorem bind_apply (first : StateM σ α) (next : α → StateM σ β) (state : σ) :
    (first >>= next) state = next (first state).1 (first state).2 := rfl

@[simp] theorem map_apply (view : α → β) (first : StateM σ α) (state : σ) :
    (view <$> first) state = (view (first state).1, (first state).2) := rfl

end Seeding.State
