import Telemetry.Dialogue

/-!
# Outcomes

A step that may be cancelled from outside ends with a value, with a failure, or cancelled.
-/

namespace Telemetry

/-- How a step that may be cancelled ends. -/
inductive Outcome (ε α : Type)
  | value (a : α)
  | failure (e : ε)
  | cancelled
  deriving DecidableEq

namespace Outcome

variable {ε δ α β : Type}

/-- The outcome of something that cannot be cancelled. -/
def ofExcept : Except ε α → Outcome ε α
  | .ok a => value a
  | .error e => failure e

def map (f : α → β) : Outcome ε α → Outcome ε β
  | value a => value (f a)
  | failure e => failure e
  | cancelled => cancelled

def mapFailure (f : ε → δ) : Outcome ε α → Outcome δ α
  | value a => value a
  | failure e => failure (f e)
  | cancelled => cancelled

end Outcome

namespace Dialogue

variable {Q : Type} {A : Q → Type} {ε α β : Type}

/-- Go on with the value of a step, if it has one. -/
def andThen (d : Dialogue Q A (Outcome ε α)) (f : α → Dialogue Q A (Outcome ε β)) :
    Dialogue Q A (Outcome ε β) := do
  match ← d with
  | .value a => f a
  | .failure e => pure (.failure e)
  | .cancelled => pure .cancelled

@[simp] theorem andThen_done_value (a : α) (f : α → Dialogue Q A (Outcome ε β)) :
    (done (.value a)).andThen f = f a := rfl

@[simp] theorem andThen_done_failure (e : ε) (f : α → Dialogue Q A (Outcome ε β)) :
    (done (.failure e) : Dialogue Q A (Outcome ε α)).andThen f = done (.failure e) := rfl

@[simp] theorem andThen_done_cancelled (f : α → Dialogue Q A (Outcome ε β)) :
    (done .cancelled : Dialogue Q A (Outcome ε α)).andThen f = done .cancelled := rfl

end Dialogue
end Telemetry
