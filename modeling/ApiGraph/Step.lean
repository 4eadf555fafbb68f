namespace ApiGraph

universe u v w

/-! Computations with a state that never raise a measure of it. The bound is part of the result, so
a recursion that goes on from the state that an earlier step has left can rest on it. The bound is a
proposition, and two steps with the same value and state are equal. -/

structure Step {σ : Type u} (measure : σ → Nat) (start : σ) (α : Type v) where
  value : α
  state : σ
  within : measure state ≤ measure start

namespace Step

variable {σ : Type u} {measure : σ → Nat} {start : σ} {α : Type v} {β : Type w}

@[ext] theorem ext {left right : Step measure start α} (value : left.value = right.value)
    (state : left.state = right.state) : left = right := by
  cases left
  cases right
  cases value
  cases state
  rfl

/-- A value without any change. -/
def pure (start : σ) (value : α) : Step measure start α := ⟨value, start, Nat.le_refl _⟩

def map (change : α → β) (step : Step measure start α) : Step measure start β :=
  ⟨change step.value, step.state, step.within⟩

/-- One step after another. The second starts where the first has ended, and learns that this is not
above the start. -/
def bind (first : Step measure start α)
    (next : (state : σ) → measure state ≤ measure start → α → Step measure state β) :
    Step measure start β :=
  let second := next first.state first.within first.value
  ⟨second.value, second.state, Nat.le_trans second.within first.within⟩

/-- A step from a state that is not above the start. -/
def weaken {state : σ} (step : Step measure state α) (within : measure state ≤ measure start) :
    Step measure start α :=
  ⟨step.value, step.state, Nat.le_trans step.within within⟩

/-! ## Steps that may fail

A failure keeps the state that it occurred in. -/

variable {ε : Type}

def fail (start : σ) (error : ε) : Step measure start (Except ε α) := pure start (.error error)

def mapOk (change : α → β) (step : Step measure start (Except ε α)) :
    Step measure start (Except ε β) :=
  step.map (Except.map change)

/-- Go on only after a success. -/
def andThen (first : Step measure start (Except ε α))
    (next : (state : σ) → measure state ≤ measure start → α → Step measure state (Except ε β)) :
    Step measure start (Except ε β) :=
  first.bind fun state within value =>
    match value with
    | .ok value => next state within value
    | .error error => fail state error

end Step

end ApiGraph
