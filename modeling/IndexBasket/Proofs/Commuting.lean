import IndexBasket.Proofs.Action

namespace IndexBasket

namespace Action

variable {ε ε' σ τ α β : Type}

/-- How a run ends, with its state changed. -/
def changed (change : σ → σ) : EStateM.Result ε σ α → EStateM.Result ε σ α
  | .ok value after => .ok value (change after)
  | .error failure after => .error failure (change after)

/-- A computation that does not notice a change of the state: made before, the change
comes to the same as made afterwards, whether the computation fails or not. -/
def Commutes (change : σ → σ) (act : Action ε σ α) : Prop :=
  ∀ start, act (change start) = changed change (act start)

variable {change : σ → σ}

theorem Commutes.final {act : Action ε σ α} (commutes : Commutes change act) (start : σ) :
    act.final (change start) = change (act.final start) := by
  unfold Action.final
  rw [commutes start]
  cases act start <;> rfl

theorem commutes_pure (value : α) : Commutes change (pure value : Action ε σ α) := fun _ => rfl

theorem commutes_throw (failure : ε) : Commutes change (throw failure : Action ε σ α) := fun _ => rfl

theorem commutes_lift (act : Except ε α) : Commutes change (liftM act : Action ε σ α) := by
  cases act <;> exact fun _ => rfl

theorem commutes_modify {update : σ → σ} (apart : ∀ start, update (change start) = change (update start)) :
    Commutes change (modify update : Action ε σ PUnit) := by
  intro start
  have done : (modify update : Action ε σ PUnit) (change start) = .ok ⟨⟩ (update (change start)) := rfl
  rw [done, apart start]
  rfl

/-- What is read of the state has to be the same before and after the change. -/
theorem commutes_get_bind {next : σ → Action ε σ α} (same : ∀ start, next (change start) = next start)
    (rest : ∀ start, Commutes change (next start)) : Commutes change (get >>= next) := by
  intro start
  rw [get_bind, get_bind, same start]
  exact rest start start

theorem commutes_bind {act : Action ε σ α} {next : α → Action ε σ β} (first : Commutes change act)
    (second : ∀ value, Commutes change (next value)) : Commutes change (act >>= next) := by
  intro start
  have begun := first start
  cases run : act start with
  | ok value between =>
    rw [run] at begun
    rw [bind_of_ok run, bind_of_ok begun]
    exact second value between
  | error failure between =>
    rw [run] at begun
    rw [bind_of_error run, bind_of_error begun, changed]

theorem commutes_map {act : Action ε σ α} (f : α → β) (commutes : Commutes change act) :
    Commutes change (f <$> act) := by
  rw [map_eq_pure_bind]
  exact commutes_bind commutes fun value => commutes_pure (f value)

theorem commutes_ite {condition : Prop} [Decidable condition] {yes no : Action ε σ α}
    (left : Commutes change yes) (right : Commutes change no) :
    Commutes change (if condition then yes else no) := by
  split
  · exact left
  · exact right

theorem commutes_guard {condition : Prop} [Decidable condition] {failure : ε} {next : PUnit → Action ε σ α}
    {rest : Action ε σ α} (commutes : Commutes change rest) :
    Commutes change (if condition then throw failure >>= next else rest) :=
  commutes_ite (fun _ => rfl) commutes

theorem commutes_when {condition : Prop} [Decidable condition] {act : Action ε σ PUnit}
    {next : PUnit → Action ε σ α} (step : Commutes change act) (rest : ∀ done, Commutes change (next done)) :
    Commutes change (if condition then act >>= next else next ⟨⟩) :=
  commutes_ite (commutes_bind step rest) (rest ⟨⟩)

theorem commutes_forM {f : α → Action ε σ PUnit} (each : ∀ item, Commutes change (f item)) (items : List α) :
    Commutes change (items.forM f) := by
  induction items with
  | nil => exact commutes_pure _
  | cons item rest ih => exact commutes_bind (each item) fun _ => ih

theorem commutes_within {part : σ → τ} {replace : τ → σ → σ} {report : ε → ε'} {act : Action ε τ α}
    (same : ∀ whole, part (change whole) = part whole)
    (apart : ∀ whole new, replace new (change whole) = change (replace new whole)) :
    Commutes change (within part replace report act) := by
  intro whole
  unfold within
  rw [same whole]
  cases act (part whole) with
  | ok value new => exact congrArg _ (apart whole new)
  | error failure new => exact congrArg _ (apart whole new)

theorem commutes_atomically {act : Action ε σ α} (commutes : Commutes change act) :
    Commutes change (atomically act) := by
  intro start
  unfold atomically
  rw [commutes start]
  cases act start <;> rfl

end Action

end IndexBasket
