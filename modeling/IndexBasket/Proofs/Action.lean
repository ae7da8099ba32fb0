import IndexBasket.Action
import Mathlib.Order.Defs.Unbundled

namespace IndexBasket

/-! Successful runs, opened one step at a time. -/

theorem Except.bind_eq_ok {ε α β : Type} {act : Except ε α} {next : α → Except ε β} {value : β} :
    act >>= next = .ok value ↔ ∃ middle, act = .ok middle ∧ next middle = .ok value := by
  cases act <;> simp [bind, Except.bind]

theorem Except.map_eq_ok {ε α β : Type} {act : Except ε α} {f : α → β} {value : β} :
    f <$> act = .ok value ↔ ∃ middle, act = .ok middle ∧ f middle = value := by
  cases act <;> simp [Functor.map, Except.map]

theorem Except.map_eq_error {ε α β : Type} {act : Except ε α} {f : α → β} {failure : ε} :
    act.map f = .error failure ↔ act = .error failure := by
  cases act <;> simp [Except.map]

theorem Except.mapError_eq_ok {ε ε' α : Type} {act : Except ε α} {report : ε → ε'} {value : α} :
    act.mapError report = .ok value ↔ act = .ok value := by
  cases act with
  | ok found =>
    constructor
    · intro run
      cases run
      rfl
    · rintro ⟨⟩
      rfl
  | error failure => exact iff_of_false nofun nofun

theorem Except.mapError_eq_error {ε ε' α : Type} {act : Except ε α} {report : ε → ε'} {failure : ε'} :
    act.mapError report = .error failure ↔ ∃ cause, act = .error cause ∧ report cause = failure := by
  cases act with
  | ok value => exact iff_of_false nofun nofun
  | error cause =>
    constructor
    · intro stopped
      cases stopped
      exact ⟨cause, rfl, rfl⟩
    · rintro ⟨_, ⟨⟩, rfl⟩
      rfl

theorem demand_eq_ok {ε α : Type} {failure : ε} {found : Option α} {value : α} :
    (demand failure found : Except ε α) = .ok value ↔ found = some value := by
  cases found <;> simp [demand, pure, Except.pure, throw, throwThe, MonadExceptOf.throw]

/-- A guard before the rest of a computation. -/
theorem Except.guard_bind_eq_ok {ε α : Type} {condition : Prop} [Decidable condition] {failure : ε}
    {next : PUnit → Except ε α} {rest : Except ε α} {value : α} :
    (if condition then throw failure >>= next else rest) = .ok value ↔ ¬condition ∧ rest = .ok value := by
  split <;> simp_all [throw, throwThe, MonadExceptOf.throw, bind, Except.bind]

/-! Failed computations: the step that failed, after those that did not. -/

theorem Except.bind_eq_error {ε α β : Type} {act : Except ε α} {next : α → Except ε β} {failure : ε} :
    act >>= next = .error failure ↔
      act = .error failure ∨ ∃ middle, act = .ok middle ∧ next middle = .error failure := by
  cases act <;> simp [bind, Except.bind]

theorem Except.guard_bind_eq_error {ε α : Type} {condition : Prop} [Decidable condition] {refusal failure : ε}
    {next : PUnit → Except ε α} {rest : Except ε α} :
    (if condition then throw refusal >>= next else rest) = .error failure ↔
      condition ∧ refusal = failure ∨ ¬condition ∧ rest = .error failure := by
  split <;> simp_all [throw, throwThe, MonadExceptOf.throw, bind, Except.bind]

theorem demand_eq_error {ε α : Type} {refusal failure : ε} {found : Option α} :
    (demand refusal found : Except ε α) = .error failure ↔ found = none ∧ refusal = failure := by
  cases found <;> simp [demand, pure, Except.pure, throw, throwThe, MonadExceptOf.throw]

section FailsWith

variable {ε ε' α β : Type} {kind : ε → Prop}

/-- Whatever a computation fails with is of one kind. -/
def FailsWith (kind : ε → Prop) (act : Except ε α) : Prop :=
  ∀ ⦃failure : ε⦄, act = .error failure → kind failure

theorem failsWith_ok (value : α) : FailsWith kind (.ok value) := nofun

theorem failsWith_error {failure : ε} (holds : kind failure) : FailsWith kind (.error failure : Except ε α) := by
  intro other stopped
  cases stopped
  exact holds

theorem failsWith_demand {failure : ε} (holds : kind failure) (found : Option α) :
    FailsWith kind (demand failure found : Except ε α) := by
  intro other stopped
  obtain ⟨_, rfl⟩ := demand_eq_error.mp stopped
  exact holds

theorem failsWith_bind {act : Except ε α} {next : α → Except ε β} (first : FailsWith kind act)
    (second : ∀ value, FailsWith kind (next value)) : FailsWith kind (act >>= next) := by
  intro failure stopped
  obtain early | ⟨value, _, late⟩ := Except.bind_eq_error.mp stopped
  · exact first early
  · exact second value late

theorem failsWith_guard {condition : Prop} [Decidable condition] {failure : ε} {next : PUnit → Except ε α}
    {rest : Except ε α} (holds : kind failure) (later : FailsWith kind rest) :
    FailsWith kind (if condition then throw failure >>= next else rest) := by
  intro other stopped
  obtain ⟨_, rfl⟩ | ⟨_, late⟩ := Except.guard_bind_eq_error.mp stopped
  · exact holds
  · exact later late

theorem failsWith_foldlM {f : β → α → Except ε β} (each : ∀ state item, FailsWith kind (f state item))
    (items : List α) (state : β) : FailsWith kind (items.foldlM f state) := by
  induction items generalizing state with
  | nil => exact failsWith_ok state
  | cons item rest ih =>
    rw [List.foldlM_cons]
    exact failsWith_bind (each state item) ih

theorem failsWith_ite {condition : Prop} [Decidable condition] {yes no : Except ε α} (left : FailsWith kind yes)
    (right : FailsWith kind no) : FailsWith kind (if condition then yes else no) := by
  split
  · exact left
  · exact right

theorem failsWith_mapM {f : α → Except ε β} (each : ∀ item, FailsWith kind (f item)) (items : List α) :
    FailsWith kind (items.mapM f) := by
  induction items with
  | nil => exact failsWith_ok []
  | cons item rest ih =>
    rw [List.mapM_cons]
    exact failsWith_bind (each item) fun _ => failsWith_bind ih fun _ => failsWith_ok _

theorem failsWith_mapError {act : Except ε' α} {report : ε' → ε} (holds : ∀ cause, kind (report cause)) :
    FailsWith kind (act.mapError report) := by
  intro failure stopped
  obtain ⟨cause, _, rfl⟩ := Except.mapError_eq_error.mp stopped
  exact holds cause

end FailsWith

namespace Action

variable {ε ε' σ τ α β : Type} {start after : σ} {value : β}

theorem bind_eq_ok {act : Action ε σ α} {next : α → Action ε σ β} :
    (act >>= next) start = .ok value after ↔
      ∃ middle between, act start = .ok middle between ∧ next middle between = .ok value after := by
  simp only [bind, EStateM.bind]
  cases act start <;> simp [and_assoc]

theorem map_eq_ok {act : Action ε σ α} {f : α → β} :
    (f <$> act) start = .ok value after ↔ ∃ middle, act start = .ok middle after ∧ f middle = value := by
  simp only [Functor.map, EStateM.map]
  cases act start <;> simp [and_assoc, and_comm]

theorem pure_eq_ok {result : β} :
    (pure result : Action ε σ β) start = .ok value after ↔ result = value ∧ start = after := by
  simp [pure, EStateM.pure]

theorem get_eq_ok {state : σ} :
    (get : Action ε σ σ) start = .ok state after ↔ start = state ∧ start = after := by
  constructor
  · intro run
    cases run
    exact ⟨rfl, rfl⟩
  · rintro ⟨rfl, rfl⟩
    rfl

theorem modify_eq_ok {change : σ → σ} {done : PUnit} :
    (modify change : Action ε σ PUnit) start = .ok done after ↔ change start = after := by
  constructor
  · intro run
    cases run
    rfl
  · rintro rfl
    rfl

theorem set_eq_ok {state : σ} {done : PUnit} :
    (set state : Action ε σ PUnit) start = .ok done after ↔ state = after := by
  constructor
  · intro run
    cases run
    rfl
  · rintro rfl
    rfl

theorem throw_ne_ok {failure : ε} : (throw failure : Action ε σ β) start ≠ .ok value after :=
  nofun

theorem pure_ne_error {failure : ε} : (pure value : Action ε σ β) start ≠ .error failure after :=
  nofun

theorem set_ne_error {state : σ} {failure : ε} :
    (set state : Action ε σ PUnit) start ≠ .error failure after :=
  nofun

theorem ofExcept_eq_ok {act : Except ε β} :
    (ofExcept act : Action ε σ β) start = .ok value after ↔ act = .ok value ∧ start = after := by
  cases act with
  | ok => exact pure_eq_ok.trans (by simp)
  | error => exact iff_of_false throw_ne_ok (by simp)

theorem lift_eq_ok {act : Except ε β} :
    (liftM act : Action ε σ β) start = .ok value after ↔ act = .ok value ∧ start = after :=
  ofExcept_eq_ok

theorem demand_eq_ok {failure : ε} {found : Option β} :
    (demand failure found : Action ε σ β) start = .ok value after ↔ found = some value ∧ start = after := by
  cases found with
  | some => exact pure_eq_ok.trans (by simp)
  | none => exact iff_of_false throw_ne_ok (by simp)

theorem guard_eq_ok {condition : Prop} [Decidable condition] {failure : ε} {rest : Action ε σ β} :
    (if condition then throw failure else rest) start = .ok value after ↔
      ¬condition ∧ rest start = .ok value after := by
  by_cases holds : condition
  · simp [holds, throw_ne_ok]
  · simp [holds]

theorem guard_bind_eq_ok {condition : Prop} [Decidable condition] {failure : ε}
    {next : PUnit → Action ε σ β} {rest : Action ε σ β} :
    (if condition then throw failure >>= next else rest) start = .ok value after ↔
      ¬condition ∧ rest start = .ok value after := by
  by_cases holds : condition
  · simp [holds, bind_eq_ok, throw_ne_ok]
  · simp [holds]

/-- A step that is only made under a condition, before the rest of a computation. -/
theorem when_bind_eq_ok {condition : Prop} [Decidable condition] {act : Action ε σ PUnit}
    {next : PUnit → Action ε σ β} :
    (if condition then act >>= next else next ⟨⟩) start = .ok value after ↔
      ∃ between, (condition ∧ act start = .ok ⟨⟩ between ∨ ¬condition ∧ between = start) ∧
        next ⟨⟩ between = .ok value after := by
  by_cases holds : condition
  · simp only [holds, if_true, bind_eq_ok, true_and, not_true, false_and, or_false]
    exact exists_comm.trans (exists_congr fun between => ⟨fun ⟨_, run⟩ => run, fun run => ⟨⟨⟩, run⟩⟩)
  · simp [holds]

theorem within_eq_ok {part : σ → τ} {replace : τ → σ → σ} {report : ε → ε'} {act : Action ε τ β} :
    within part replace report act start = .ok value after ↔
      ∃ new, act (part start) = .ok value new ∧ replace new start = after := by
  unfold within
  cases act (part start) <;> simp [and_assoc]

theorem within_eq_error {part : σ → τ} {replace : τ → σ → σ} {report : ε → ε'} {act : Action ε τ β} {failure : ε'} :
    within part replace report act start = .error failure after ↔
      ∃ cause new, act (part start) = .error cause new ∧ report cause = failure ∧ replace new start = after := by
  unfold within
  cases act (part start) <;> simp [and_assoc]

theorem atomically_eq_ok {act : Action ε σ β} :
    atomically act start = .ok value after ↔ act start = .ok value after := by
  unfold atomically
  cases act start <;> simp

theorem atomically_eq_error {act : Action ε σ β} {failure : ε} :
    atomically act start = .error failure after ↔ (∃ reached, act start = .error failure reached) ∧ start = after := by
  unfold atomically
  cases act start <;> simp

theorem stateAfter_eq_ok {act : Action ε σ β} :
    act.stateAfter start = .ok after ↔ ∃ value, act start = .ok value after := by
  unfold stateAfter
  cases act start <;> simp

/-! Failed runs, opened one step at a time. -/

theorem bind_eq_error {act : Action ε σ α} {next : α → Action ε σ β} {failure : ε} :
    (act >>= next) start = .error failure after ↔
      act start = .error failure after ∨
        ∃ middle between, act start = .ok middle between ∧ next middle between = .error failure after := by
  simp only [bind, EStateM.bind]
  cases act start <;> simp [and_assoc]

theorem map_eq_error {act : Action ε σ α} {f : α → β} {failure : ε} :
    (f <$> act) start = .error failure after ↔ act start = .error failure after := by
  simp only [Functor.map, EStateM.map]
  cases act start <;> simp

theorem throw_eq_error {refusal failure : ε} :
    (throw refusal : Action ε σ β) start = .error failure after ↔ refusal = failure ∧ start = after := by
  constructor
  · intro stopped
    cases stopped
    exact ⟨rfl, rfl⟩
  · rintro ⟨rfl, rfl⟩
    rfl

theorem lift_eq_error {act : Except ε β} {failure : ε} :
    (liftM act : Action ε σ β) start = .error failure after ↔ act = .error failure ∧ start = after := by
  cases act with
  | ok => exact iff_of_false nofun nofun
  | error refusal => exact throw_eq_error.trans (by simp)

theorem guard_bind_eq_error {condition : Prop} [Decidable condition] {refusal failure : ε}
    {next : PUnit → Action ε σ β} {rest : Action ε σ β} :
    (if condition then throw refusal >>= next else rest) start = .error failure after ↔
      condition ∧ refusal = failure ∧ start = after ∨ ¬condition ∧ rest start = .error failure after := by
  by_cases holds : condition
  · simp only [holds, if_true, bind_eq_error, throw_eq_error, throw_ne_ok, false_and, exists_false, or_false,
      true_and, not_true]
  · simp only [holds, if_false, false_and, not_false_iff, true_and, false_or]

theorem when_bind_eq_error {condition : Prop} [Decidable condition] {act : Action ε σ PUnit}
    {next : PUnit → Action ε σ β} {failure : ε} :
    (if condition then act >>= next else next ⟨⟩) start = .error failure after ↔
      condition ∧ act start = .error failure after ∨
        ∃ between, (condition ∧ act start = .ok ⟨⟩ between ∨ ¬condition ∧ between = start) ∧
          next ⟨⟩ between = .error failure after := by
  by_cases holds : condition
  · simp only [holds, if_true, bind_eq_error, true_and, not_true, false_and, or_false]
    refine or_congr Iff.rfl (exists_comm.trans (exists_congr fun between => ?_))
    exact ⟨fun ⟨_, run⟩ => run, fun run => ⟨⟨⟩, run⟩⟩
  · simp [holds]

/-- Whatever a computation stops with, from wherever it started, is of one kind. -/
def StopsWith (kind : ε → Prop) (act : Action ε σ α) : Prop :=
  ∀ ⦃start after : σ⦄ ⦃failure : ε⦄, act start = .error failure after → kind failure

section StopsWith

variable {kind : ε → Prop}

theorem stopsWith_pure (value : α) : StopsWith kind (pure value : Action ε σ α) := nofun

theorem stopsWith_get : StopsWith kind (get : Action ε σ σ) := nofun

theorem stopsWith_modify (change : σ → σ) : StopsWith kind (modify change : Action ε σ PUnit) := nofun

theorem stopsWith_throw {failure : ε} (holds : kind failure) : StopsWith kind (throw failure : Action ε σ α) := by
  intro start after other stopped
  obtain ⟨rfl, _⟩ := throw_eq_error.mp stopped
  exact holds

theorem stopsWith_lift {act : Except ε α} (failsWith : FailsWith kind act) :
    StopsWith kind (liftM act : Action ε σ α) :=
  fun _ _ _ stopped => failsWith (lift_eq_error.mp stopped).1

theorem stopsWith_bind {act : Action ε σ α} {next : α → Action ε σ β} (first : StopsWith kind act)
    (second : ∀ value, StopsWith kind (next value)) : StopsWith kind (act >>= next) := by
  intro start after failure stopped
  obtain early | ⟨value, _, _, late⟩ := bind_eq_error.mp stopped
  · exact first early
  · exact second value late

theorem stopsWith_ite {condition : Prop} [Decidable condition] {yes no : Action ε σ α}
    (left : StopsWith kind yes) (right : StopsWith kind no) : StopsWith kind (if condition then yes else no) := by
  split
  · exact left
  · exact right

theorem stopsWith_within {part : σ → τ} {replace : τ → σ → σ} {report : ε' → ε} {act : Action ε' τ α}
    (holds : ∀ cause, kind (report cause)) : StopsWith kind (within part replace report act) := by
  intro start after failure stopped
  obtain ⟨cause, _, _, rfl, _⟩ := within_eq_error.mp stopped
  exact holds cause

theorem stopsWith_map {act : Action ε σ α} (f : α → β) (stopsWith : StopsWith kind act) : StopsWith kind (f <$> act) :=
  fun _ _ _ stopped => stopsWith (map_eq_error.mp stopped)

theorem stopsWith_guard {condition : Prop} [Decidable condition] {failure : ε} {next : PUnit → Action ε σ α}
    {rest : Action ε σ α} (holds : kind failure) (later : StopsWith kind rest) :
    StopsWith kind (if condition then throw failure >>= next else rest) := by
  intro start after other stopped
  obtain ⟨_, rfl, _⟩ | ⟨_, late⟩ := guard_bind_eq_error.mp stopped
  · exact holds
  · exact later late

/-- A step that is only made under a condition. -/
theorem stopsWith_when {condition : Prop} [Decidable condition] {act : Action ε σ PUnit}
    {next : PUnit → Action ε σ α} (step : StopsWith kind act) (rest : ∀ done, StopsWith kind (next done)) :
    StopsWith kind (if condition then act >>= next else next ⟨⟩) :=
  stopsWith_ite (stopsWith_bind step rest) (rest ⟨⟩)

theorem stopsWith_demand {failure : ε} (holds : kind failure) (found : Option α) :
    StopsWith kind (demand failure found : Action ε σ α) := by
  cases found with
  | some value => exact stopsWith_pure value
  | none => exact stopsWith_throw holds

theorem stopsWith_forM {f : α → Action ε σ PUnit} (each : ∀ item, StopsWith kind (f item)) (items : List α) :
    StopsWith kind (items.forM f) := by
  induction items with
  | nil => exact stopsWith_pure _
  | cons item rest ih => exact stopsWith_bind (each item) fun _ => ih

theorem stopsWith_atomically {act : Action ε σ α} (stopsWith : StopsWith kind act) :
    StopsWith kind (atomically act) := by
  intro start after failure stopped
  obtain ⟨⟨_, stopped⟩, _⟩ := atomically_eq_error.mp stopped
  exact stopsWith stopped

/-- A failure on a part of the state that is reported in the terms of the whole. -/
theorem stopsWith_within_of {part : σ → τ} {replace : τ → σ → σ} {report : ε' → ε} {act : Action ε' τ α}
    {inner : ε' → Prop} (stopsWith : StopsWith inner act) (reported : ∀ cause, inner cause → kind (report cause)) :
    StopsWith kind (within part replace report act) := by
  intro start after failure stopped
  obtain ⟨cause, _, failed, rfl, _⟩ := within_eq_error.mp stopped
  exact reported cause (stopsWith failed)

theorem StopsWith.stateAfter {act : Action ε σ α} (stopsWith : StopsWith kind act) (start : σ) :
    FailsWith kind (act.stateAfter start) := by
  intro failure stopped
  unfold Action.stateAfter at stopped
  split at stopped
  · cases stopped
  · rename_i run
    cases stopped
    exact stopsWith run

end StopsWith

/-! What is left of a computation after its first step has been made. -/

theorem get_bind (next : σ → Action ε σ β) : (get >>= next) start = next start start := rfl

theorem modify_bind (change : σ → σ) (next : PUnit → Action ε σ β) :
    (modify change >>= next) start = next ⟨⟩ (change start) := rfl

theorem lift_bind_ok {act : Except ε α} {found : α} (run : act = .ok found) (next : α → Action ε σ β) :
    (liftM act >>= next) start = next found start := by
  rw [run]
  rfl

theorem lift_bind_error {act : Except ε α} {failure : ε} (stopped : act = .error failure)
    (next : α → Action ε σ β) : (liftM act >>= next) start = .error failure start := by
  rw [stopped]
  rfl

theorem bind_of_error {act : Action ε σ α} {failure : ε} (stopped : act start = .error failure after)
    (next : α → Action ε σ β) : (act >>= next) start = .error failure after := by
  simp only [bind, EStateM.bind, stopped]

theorem map_of_error {act : Action ε σ α} {failure : ε} (stopped : act start = .error failure after)
    (f : α → β) : (f <$> act) start = .error failure after := by
  simp only [Functor.map, EStateM.map, stopped]

theorem bind_of_ok {act : Action ε σ α} {between : σ} {found : α} (run : act start = .ok found between)
    (next : α → Action ε σ β) : (act >>= next) start = next found between := by
  simp only [bind, EStateM.bind, run]

/-- The state in which a computation ends, whether it fails or not. -/
def final (act : Action ε σ α) (start : σ) : σ :=
  match act start with
  | .ok _ after => after
  | .error _ after => after

theorem final_of_ok {act : Action ε σ β} (run : act start = .ok value after) : act.final start = after := by
  rw [final, run]

theorem final_of_error {act : Action ε σ β} {failure : ε} (stopped : act start = .error failure after) :
    act.final start = after := by
  rw [final, stopped]

theorem final_bind_of_ok {act : Action ε σ α} {between : σ} {found : α} (run : act start = .ok found between)
    (next : α → Action ε σ β) : (act >>= next).final start = (next found).final between := by
  rw [final, final, bind_of_ok run]

theorem final_get_bind (next : σ → Action ε σ β) (start : σ) :
    (get >>= next).final start = (next start).final start := rfl

theorem final_modify_bind (change : σ → σ) (next : PUnit → Action ε σ β) (start : σ) :
    (modify change >>= next).final start = (next ⟨⟩).final (change start) := rfl

theorem ending_of_ok {act : Action ε σ β} (run : act start = .ok value after) :
    act.ending start = (.ok value, after) := by
  rw [ending, run]

theorem ending_of_error {act : Action ε σ β} {failure : ε} (stopped : act start = .error failure after) :
    act.ending start = (.error failure, after) := by
  rw [ending, stopped]

theorem ending_bind_of_ok {act : Action ε σ α} {between : σ} {found : α} (run : act start = .ok found between)
    (next : α → Action ε σ β) : (act >>= next).ending start = (next found).ending between := by
  rw [ending, ending, bind_of_ok run]

theorem ending_snd (act : Action ε σ β) (start : σ) : (act.ending start).2 = act.final start := by
  unfold ending final
  cases act start <;> rfl

theorem ending_eq_ok {act : Action ε σ β} :
    (act.ending start).1 = .ok value ↔ ∃ after, act start = .ok value after := by
  unfold ending
  cases act start <;> simp

theorem ending_eq_error {act : Action ε σ β} {failure : ε} :
    (act.ending start).1 = .error failure ↔ ∃ after, act start = .error failure after := by
  unfold ending
  cases act start <;> simp

/-- Whether a computation succeeds in a way that passes a test. A run on given data
is looked at by evaluating this. -/
def succeeds (act : Action ε σ α) (test : α → σ → Bool) (start : σ) : Bool :=
  match act start with
  | .ok value after => test value after
  | .error _ _ => false

theorem succeeds_iff {act : Action ε σ α} {test : α → σ → Bool} :
    act.succeeds test start = true ↔ ∃ value after, act start = .ok value after ∧ test value after = true := by
  unfold succeeds
  cases act start <;> simp [and_assoc]

def fails (act : Action ε σ α) (test : ε → σ → Bool) (start : σ) : Bool :=
  match act start with
  | .ok _ _ => false
  | .error failure after => test failure after

theorem fails_iff {act : Action ε σ α} {test : ε → σ → Bool} :
    act.fails test start = true ↔ ∃ failure after, act start = .error failure after ∧ test failure after = true := by
  unfold fails
  cases act start <;> simp [and_assoc]

theorem final_within {part : σ → τ} {replace : τ → σ → σ} {report : ε → ε'} {act : Action ε τ α} :
    (within part replace report act).final start = replace (act.final (part start)) start := by
  unfold final within
  cases act (part start) <;> rfl

theorem final_map (f : α → β) (act : Action ε σ α) (start : σ) : (f <$> act).final start = act.final start := by
  simp only [final, Functor.map, EStateM.map]
  cases act start <;> rfl

/-- A transaction ends where it started or where a run without failure ends. -/
theorem final_atomically (act : Action ε σ α) (start : σ) :
    (atomically act).final start = start ∨ ∃ value, act start = .ok value ((atomically act).final start) := by
  unfold final atomically
  cases act start with
  | ok value => exact Or.inr ⟨value, rfl⟩
  | error => exact Or.inl rfl

/-- Every run, failing or not, takes the state to one that stands in the relation
to where it started. -/
def Moves (R : σ → σ → Prop) (act : Action ε σ α) : Prop :=
  ∀ start, R start (act.final start)

/-- What holds at the start holds at the end. -/
def Preserves (p : σ → Prop) (before after : σ) : Prop := p before → p after

instance (p : σ → Prop) : Std.Refl (Preserves p) := ⟨fun _ => id⟩

instance (p : σ → Prop) : IsTrans σ (Preserves p) := ⟨fun _ _ _ first second => second ∘ first⟩

variable {R : σ → σ → Prop}

/-- What does not touch the state moves it nowhere. -/
theorem moves_of_still [Std.Refl R] {act : Action ε σ α} (still : Moves Eq act) : Moves R act := by
  intro start
  rw [← still start]
  exact Std.Refl.refl start

theorem Moves.of_ok {act : Action ε σ β} (moves : Moves R act) (run : act start = .ok value after) :
    R start after := by
  have reached := moves start
  rwa [final_of_ok run] at reached

theorem Moves.of_when [Std.Refl R] {condition : Prop} {act : Action ε σ PUnit} (moves : Moves R act)
    (run : condition ∧ act start = .ok ⟨⟩ after ∨ ¬condition ∧ after = start) : R start after := by
  rcases run with ⟨_, run⟩ | ⟨_, rfl⟩
  · exact moves.of_ok run
  · exact Std.Refl.refl _

theorem moves_pure [Std.Refl R] (value : α) : Moves R (pure value : Action ε σ α) :=
  moves_of_still fun _ => rfl

theorem moves_throw [Std.Refl R] (failure : ε) : Moves R (throw failure : Action ε σ α) :=
  moves_of_still fun _ => rfl

theorem moves_get [Std.Refl R] : Moves R (get : Action ε σ σ) :=
  moves_of_still fun _ => rfl

theorem moves_lift [Std.Refl R] (act : Except ε α) : Moves R (liftM act : Action ε σ α) := by
  cases act <;> exact moves_of_still fun _ => rfl

theorem moves_demand [Std.Refl R] (failure : ε) (found : Option α) :
    Moves R (demand failure found : Action ε σ α) := by
  cases found <;> exact moves_of_still fun _ => rfl

theorem moves_modify {change : σ → σ} (moved : ∀ start, R start (change start)) :
    Moves R (modify change : Action ε σ PUnit) := moved

theorem moves_bind [IsTrans σ R] {act : Action ε σ α} {next : α → Action ε σ β} (first : Moves R act)
    (second : ∀ value, Moves R (next value)) : Moves R (act >>= next) := by
  intro start
  have reached := first start
  unfold final at reached ⊢
  simp only [bind, EStateM.bind]
  cases run : act start with
  | error => simpa only [run] using reached
  | ok value between =>
    simp only [run] at reached
    exact IsTrans.trans _ _ _ reached (second value between)

theorem moves_map {act : Action ε σ α} (f : α → β) (moves : Moves R act) : Moves R (f <$> act) := by
  intro start
  rw [final_map]
  exact moves start

theorem moves_ite {condition : Prop} [Decidable condition] {yes no : Action ε σ α} (left : Moves R yes)
    (right : Moves R no) : Moves R (if condition then yes else no) := by
  split
  · exact left
  · exact right

/-- A guard that stops leaves the state as it found it, and one that does not says what
the rest can rely on. -/
theorem moves_guarded [Std.Refl R] {condition : Prop} [Decidable condition] {failure : ε}
    {next : PUnit → Action ε σ α} {rest : Action ε σ α} (moves : ¬condition → Moves R rest) :
    Moves R (if condition then throw failure >>= next else rest) := by
  split
  · exact moves_of_still fun _ => rfl
  · rename_i passed
    exact moves passed

theorem moves_guard [Std.Refl R] {condition : Prop} [Decidable condition] {failure : ε}
    {next : PUnit → Action ε σ α} {rest : Action ε σ α} (moves : Moves R rest) :
    Moves R (if condition then throw failure >>= next else rest) :=
  moves_guarded fun _ => moves

/-- A step that is only made under a condition. -/
theorem moves_when [IsTrans σ R] {condition : Prop} [Decidable condition] {act : Action ε σ PUnit}
    {next : PUnit → Action ε σ α} (step : Moves R act) (rest : ∀ done, Moves R (next done)) :
    Moves R (if condition then act >>= next else next ⟨⟩) :=
  moves_ite (moves_bind step rest) (rest ⟨⟩)

theorem moves_forM [Std.Refl R] [IsTrans σ R] {f : α → Action ε σ PUnit} (each : ∀ item, Moves R (f item))
    (items : List α) : Moves R (items.forM f) := by
  induction items with
  | nil => exact moves_pure _
  | cons item rest ih => exact moves_bind (each item) fun _ => ih

theorem moves_within {Q : τ → τ → Prop} {part : σ → τ} {replace : τ → σ → σ} {report : ε → ε'}
    {act : Action ε τ α} (moves : Moves Q act)
    (carried : ∀ whole new, Q (part whole) new → R whole (replace new whole)) :
    Moves R (within part replace report act) := by
  intro start
  rw [final_within]
  exact carried start _ (moves (part start))

/-- A transaction moves the state only where it goes through. -/
theorem moves_atomically_of_ok [Std.Refl R] {act : Action ε σ α}
    (step : ∀ {start after : σ} {value : α}, act start = .ok value after → R start after) :
    Moves R (atomically act) := by
  intro start
  rcases final_atomically act start with same | ⟨value, run⟩
  · rw [same]
    exact Std.Refl.refl start
  · exact step run

theorem moves_atomically [Std.Refl R] {act : Action ε σ α} (moves : Moves R act) :
    Moves R (atomically act) :=
  moves_atomically_of_ok fun run => moves.of_ok run

/-- A failure leaves the state where it was. -/
def FailsInPlace (act : Action ε σ α) : Prop :=
  ∀ ⦃start after : σ⦄ ⦃failure : ε⦄, act start = .error failure after → after = start

theorem FailsInPlace.moves [Std.Refl R] {act : Action ε σ α} (inPlace : FailsInPlace act)
    (step : ∀ {start after : σ} {value : α}, act start = .ok value after → R start after) : Moves R act := by
  intro start
  unfold final
  cases run : act start with
  | ok value after => exact step run
  | error failure after =>
    rw [inPlace run]
    exact Std.Refl.refl start

/-- What does not succeed leaves the state where it was, too. -/
theorem FailsInPlace.final_of_refused {act : Action ε σ α} (inPlace : FailsInPlace act)
    (refused : act.succeeds (fun _ _ => true) start = false) : act.final start = start := by
  cases run : act start with
  | ok value after => exact absurd (succeeds_iff.mpr ⟨value, after, run, rfl⟩) (Bool.eq_false_iff.mp refused)
  | error failure after => rw [final_of_error run, inPlace run]

theorem failsInPlace_atomically (act : Action ε σ α) : FailsInPlace (atomically act) :=
  fun _ _ _ stopped => atomically_error stopped

theorem FailsInPlace.map {act : Action ε σ α} (inPlace : FailsInPlace act) (f : α → β) :
    FailsInPlace (f <$> act) := by
  intro start after failure stopped
  simp only [Functor.map, EStateM.map] at stopped
  cases run : act start with
  | ok => rw [run] at stopped; cases stopped
  | error => rw [run] at stopped; cases stopped; exact inPlace run

/-- What only looks may come before what fails in place. -/
theorem failsInPlace_bind {act : Action ε σ α} {next : α → Action ε σ β} (still : Moves Eq act)
    (inPlace : ∀ value, FailsInPlace (next value)) : FailsInPlace (act >>= next) := by
  intro start after failure stopped
  have same := still start
  unfold final at same
  simp only [bind, EStateM.bind] at stopped
  cases run : act start with
  | error =>
    simp only [run] at stopped same
    cases stopped
    exact same.symm
  | ok value between =>
    simp only [run] at stopped same
    subst same
    exact inPlace value stopped

theorem failsInPlace_ite {condition : Prop} [Decidable condition] {yes no : Action ε σ α}
    (left : FailsInPlace yes) (right : FailsInPlace no) : FailsInPlace (if condition then yes else no) := by
  split
  · exact left
  · exact right

theorem failsInPlace_guard {condition : Prop} [Decidable condition] {failure : ε}
    {next : PUnit → Action ε σ α} {rest : Action ε σ α} (inPlace : FailsInPlace rest) :
    FailsInPlace (if condition then throw failure >>= next else rest) := by
  split
  · intro start after failure' stopped
    cases stopped
    rfl
  · exact inPlace

/-- A computation that always goes through. -/
def Total (act : Action ε σ α) : Prop := ∀ start, ∃ value after, act start = .ok value after

theorem total_pure (value : α) : Total (pure value : Action ε σ α) := fun start => ⟨value, start, rfl⟩

theorem total_modify (change : σ → σ) : Total (modify change : Action ε σ PUnit) :=
  fun start => ⟨⟨⟩, change start, rfl⟩

theorem total_get : Total (get : Action ε σ σ) := fun start => ⟨start, start, rfl⟩

theorem total_ite {condition : Prop} [Decidable condition] {yes no : Action ε σ α} (left : Total yes)
    (right : Total no) : Total (if condition then yes else no) := by
  split
  · exact left
  · exact right

theorem total_bind {act : Action ε σ α} {next : α → Action ε σ β} (first : Total act)
    (second : ∀ value, Total (next value)) : Total (act >>= next) := by
  intro start
  obtain ⟨value, between, run⟩ := first start
  obtain ⟨result, after, rest⟩ := second value between
  exact ⟨result, after, bind_eq_ok.mpr ⟨value, between, run, rest⟩⟩

theorem Total.ne_error {act : Action ε σ α} {failure : ε} (total : Total act) :
    act start ≠ .error failure after := by
  intro stopped
  obtain ⟨value, reached, run⟩ := total start
  rw [run] at stopped
  cases stopped

theorem Total.failsInPlace {act : Action ε σ α} (total : Total act) : FailsInPlace act :=
  fun _ _ _ stopped => absurd stopped total.ne_error

theorem Total.stopsWith {kind : ε → Prop} {act : Action ε σ α} (total : Total act) : StopsWith kind act :=
  fun _ _ _ stopped => absurd stopped total.ne_error

/-- What fails in place may come before what always goes through. -/
theorem FailsInPlace.bind_total {act : Action ε σ α} {next : α → Action ε σ β} (inPlace : FailsInPlace act)
    (total : ∀ value, Total (next value)) : FailsInPlace (act >>= next) := by
  intro start after failure stopped
  cases run : act start with
  | error =>
    simp only [bind, EStateM.bind, run] at stopped
    cases stopped
    exact inPlace run
  | ok value between =>
    obtain ⟨result, reached, rest⟩ := total value between
    rw [bind_of_ok run, rest] at stopped
    cases stopped

/-- A write that is the last step. -/
theorem failsInPlace_set_pure (state : σ) (value : β) :
    FailsInPlace (do set state; pure value : Action ε σ β) :=
  nofun

/-- What a computation comes to, whatever state a failure leaves. -/
def outcome (act : Action ε σ α) (start : σ) : Except ε (α × σ) :=
  match act start with
  | .ok value after => .ok (value, after)
  | .error failure _ => .error failure

theorem outcome_eq_ok {act : Action ε σ β} :
    act.outcome start = .ok (value, after) ↔ act start = .ok value after := by
  unfold outcome
  cases act start <;> simp

theorem outcome_eq_error {act : Action ε σ β} {failure : ε} :
    act.outcome start = .error failure ↔ ∃ after, act start = .error failure after := by
  unfold outcome
  cases act start <;> simp

theorem outcome_bind (act : Action ε σ α) (next : α → Action ε σ β) (start : σ) :
    (act >>= next).outcome start = act.outcome start >>= fun reached => (next reached.1).outcome reached.2 := by
  unfold outcome
  simp only [bind, EStateM.bind, Except.bind]
  cases act start <;> rfl

/-- To put a computation into a transaction changes nothing but what a failure
leaves. -/
theorem outcome_atomically (act : Action ε σ α) (start : σ) :
    (atomically act).outcome start = act.outcome start := by
  unfold outcome atomically
  cases act start <;> rfl

/-- The state after a computation has been run on one input after another, whatever
came of the runs before. -/
def finalAll {ι : Type} (act : ι → Action ε σ α) (inputs : List ι) (start : σ) : σ :=
  inputs.foldl (fun state input => (act input).final state) start

theorem finalAll_append {ι : Type} (act : ι → Action ε σ α) (first second : List ι) (start : σ) :
    finalAll act (first ++ second) start = finalAll act second (finalAll act first start) :=
  List.foldl_append

theorem moved_finalAll [Std.Refl R] [IsTrans σ R] {ι : Type} {act : ι → Action ε σ α}
    (each : ∀ input, Moves R (act input)) (inputs : List ι) (start : σ) :
    R start (finalAll act inputs start) := by
  induction inputs generalizing start with
  | nil => exact Std.Refl.refl start
  | cons input rest ih => exact IsTrans.trans _ _ _ (each input start) (ih ((act input).final start))

/-- Runs of which each leaves a state as it is leave it as it is together. -/
theorem finalAll_eq_self {ι : Type} {act : ι → Action ε σ α} {inputs : List ι}
    (still : ∀ input ∈ inputs, (act input).final start = start) : finalAll act inputs start = start := by
  induction inputs with
  | nil => rfl
  | cons input rest ih =>
    obtain ⟨first, later⟩ := List.forall_mem_cons.mp still
    exact (congrArg (finalAll act rest) first).trans (ih later)

end Action

end IndexBasket
