/-!
# Actions that may fail

An `Action σ ε α` works on a state: it gives a value or a failure, and the state it leaves behind
either way. A failure does not undo what was done before it.
-/

namespace Subscription

/-- Work on a state that gives a value or fails. -/
abbrev Action (σ ε α : Type) := ExceptT ε (StateM σ) α

namespace Action

variable {σ ε ε' α : Type}

/-- What the action gives from a state, and the state it leaves. -/
def perform (action : Action σ ε α) (state : σ) : Except ε α × σ :=
  StateT.run (ExceptT.run action) state

/-- The action that does this to a state. -/
def ofStep (step : σ → Except ε α × σ) : Action σ ε α := ExceptT.mk step

/-- The action with every failure turned into another. -/
def failingAs (action : Action σ ε α) (wrap : ε → ε') : Action σ ε' α := action.adapt wrap

/-- The outcome of an action as a value; nothing fails. -/
def outcome (action : Action σ ε α) : StateM σ (Except ε α) := ExceptT.run action

end Action

end Subscription
