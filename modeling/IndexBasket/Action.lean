namespace IndexBasket

/-- A computation on a state that may fail. What was written before the failure
stays written: undoing it is up to whoever runs the computation. -/
abbrev Action (ε σ α : Type) := EStateM ε σ α

/-- The value behind a partial function, or the failure that its absence means. -/
def demand {ε α : Type} {m : Type → Type} [MonadExcept ε m] [Pure m] (failure : ε) : Option α → m α
  | some value => pure value
  | none => throw failure

namespace Action

variable {ε ε' σ τ α : Type}

def ofExcept : Except ε α → Action ε σ α
  | .ok value => pure value
  | .error failure => throw failure

instance : MonadLift (Except ε) (EStateM ε σ) := ⟨ofExcept⟩

/-- Runs a computation on a part of the state. The part is put back also after
a failure, which is reported in the terms of the whole. -/
def within (part : σ → τ) (replace : τ → σ → σ) (report : ε → ε') (act : Action ε τ α) :
    Action ε' σ α := fun whole =>
  match act (part whole) with
  | .ok value new => .ok value (replace new whole)
  | .error failure new => .error (report failure) (replace new whole)

def mapError (report : ε → ε') (act : Action ε σ α) : Action ε' σ α :=
  within id (fun new _ => new) report act

/-- How a computation ends, and the state that it leaves in either case. -/
def ending (act : Action ε σ α) (start : σ) : Except ε α × σ :=
  match act start with
  | .ok value after => (.ok value, after)
  | .error failure after => (.error failure, after)

/-- The state that a computation leaves, unless it fails. -/
def stateAfter (act : Action ε σ α) (start : σ) : Except ε σ :=
  match act start with
  | .ok _ after => .ok after
  | .error failure _ => .error failure

/-- Runs a computation as one transaction: a failure takes back all it wrote. -/
def atomically (act : Action ε σ α) : Action ε σ α := fun before =>
  match act before with
  | .ok value after => .ok value after
  | .error failure _ => .error failure before

theorem atomically_error {act : Action ε σ α} {before after : σ} {failure : ε}
    (failed : atomically act before = .error failure after) : after = before := by
  unfold atomically at failed
  split at failed
  · cases failed
  · cases failed; rfl

end Action

end IndexBasket
