import IndexBasket.Proofs.Engine.OnTarget

namespace IndexBasket

/-- What a unit and a larger one ask of a supply differs once the smaller is rounded down
and the larger up. -/
theorem Fixed.floor_lt_ceil {supply : Nat} {unit target : Int} (positive : 0 < supply) (above : 0 < target)
    (below : unit < target) :
    unit.toNat * supply / 10 ^ 18 < (target.toNat * supply + (10 ^ 18 - 1)) / 10 ^ 18 := by
  have less : unit.toNat * supply < target.toNat * supply := Nat.mul_lt_mul_of_pos_right (by omega) positive
  omega

namespace Engine

open IndexBasket.Action

variable {engine : Engine} {component : Address} {current target : Fixed} {supply held quantity : Amount}

/-- A unit off its target that no trade would bring nearer. Above the target the
holdings rounded down are within the target rounded up; below it they are the target
rounded down, and one base unit more would land farther above it. -/
def WithinRounding (supply : Nat) (unit target : Int) : Prop :=
  target < unit ∧ unit.toNat * supply / 10 ^ 18 ≤ (target.toNat * supply + (10 ^ 18 - 1)) / 10 ^ 18 ∨
    unit < target ∧ (target ≤ 0 ∨
      unit.toNat * supply / 10 ^ 18 = target.toNat * supply / 10 ^ 18 ∧
        target - unit < perToken supply ((target.toNat * supply + (10 ^ 18 - 1)) / 10 ^ 18) - target)

theorem WithinRounding.ne {supply : Nat} {unit target : Int} (within : WithinRounding supply unit target) :
    unit ≠ target := by
  rcases within with ⟨above, _⟩ | ⟨below, _⟩
  · omega
  · omega

theorem sellQuantity_eq_zero_iff (run : sellQuantity target supply held = .ok quantity) :
    quantity = Amount.zero ↔ held.toNat ≤ (target.toInt.toNat * supply.toNat + (10 ^ 18 - 1)) / 10 ^ 18 := by
  rw [Amount.ext_iff, sellQuantity_eq_ok run]
  exact Nat.sub_eq_zero_iff_le

/-- Nothing is bought toward a target that asks for nothing, nor where what is held is
the target rounded down and the target rounded up is farther away. -/
theorem buyQuantity_eq_zero_iff (positive : 0 < supply.toNat) (below : current.toInt < target.toInt)
    (value : held.toNat = current.toInt.toNat * supply.toNat / 10 ^ 18)
    (run : buyQuantity current target supply held = .ok quantity) :
    quantity = Amount.zero ↔ target.toInt ≤ 0 ∨
      current.toInt.toNat * supply.toNat / 10 ^ 18 = target.toInt.toNat * supply.toNat / 10 ^ 18 ∧
        target.toInt - current.toInt <
          perToken supply.toNat ((target.toInt.toNat * supply.toNat + (10 ^ 18 - 1)) / 10 ^ 18) - target.toInt := by
  obtain ⟨landed, size, bought⟩ := buyQuantity_eq_ok run
  have zero : quantity = Amount.zero ↔ quantity.toNat = 0 := Amount.ext_iff
  rw [zero]
  by_cases worthless : target.toInt ≤ 0
  · rw [show target.toInt.toNat = 0 by omega] at bought
    refine iff_of_true ?_ (Or.inl worthless)
    split at bought
    · omega
    · omega
  · have more := Fixed.floor_lt_ceil positive (Int.not_le.mp worthless) below
    have down : current.toInt.toNat * supply.toNat ≤ target.toInt.toNat * supply.toNat := Nat.mul_le_mul_right _ (by omega)
    have floors := Nat.div_le_div_right (c := 10 ^ 18) down
    rw [← value] at more floors ⊢
    rw [Nat.add_sub_cancel' more.le] at size
    have landing : landed.subClamped target ≤ target.subClamped current ↔
        perToken supply.toNat ((target.toInt.toNat * supply.toNat + (10 ^ 18 - 1)) / 10 ^ 18) - target.toInt ≤
          target.toInt - current.toInt := by
      have most := landed.le_max
      change max (-2 ^ 127) (min (landed.toInt - target.toInt) (2 ^ 127 - 1)) ≤
        max (-2 ^ 127) (min (target.toInt - current.toInt) (2 ^ 127 - 1)) ↔ _
      change landed.toInt = (perToken _ _ : Nat) at size
      rw [← size]
      omega
    rw [or_iff_right worthless]
    split at bought
    · rename_i near
      rw [landing] at near
      omega
    · rename_i far
      rw [landing] at far
      omega

theorem sellQuantity_eq_error {failure : EngineError} (stopped : sellQuantity target supply held = .error failure) :
    failure = .ledger .overflow := by
  simp only [sellQuantity, notionalCeil, Except.bind_eq_error, demand_eq_error] at stopped
  obtain ⟨_, rfl⟩ | ⟨_, _, done⟩ := stopped
  · rfl
  · cases done

theorem buyQuantity_eq_error {failure : EngineError}
    (stopped : buyQuantity current target supply held = .error failure) : failure = .ledger .overflow := by
  simp only [buyQuantity, notionalCeil, unitOfNotional, Except.bind_eq_error, demand_eq_error] at stopped
  obtain ⟨_, rfl⟩ | ⟨_, _, ⟨_, rfl⟩ | ⟨_, _, ⟨_, rfl⟩ | ⟨_, _, stopped⟩⟩⟩ := stopped
  · rfl
  · rfl
  · rfl
  · split at stopped
    · cases stopped
    · simp only [notionalFloor, Except.bind_eq_error, demand_eq_error] at stopped
      obtain ⟨_, rfl⟩ | ⟨_, _, done⟩ := stopped
      · rfl
      · cases done

/-- Why a component has no trade where its target is known: an amount is out of range,
or the unit is at the target, or there is nothing to buy or to sell. -/
theorem tradeSize_eq_error {failure : EngineError} (positive : 0 < engine.basket.totalSupply.toNat)
    (scaled : engine.targetUnit component = .ok target) (stopped : engine.tradeSize component = .error failure) :
    failure = .ledger .overflow ∨ failure = .targetAlreadyMet ∧ (engine.defaultRealUnit component = target ∨
      ∃ held : Amount, held.toNat = engine.tracked component ∧
        (engine.defaultRealUnit component < target ∧
            buyQuantity (engine.defaultRealUnit component) target engine.basket.totalSupply held = .ok Amount.zero ∨
          target < engine.defaultRealUnit component ∧
            sellQuantity target engine.basket.totalSupply held = .ok Amount.zero)) := by
  have supplied : engine.basket.totalSupply ≠ Amount.zero := fun none => positive.ne' (congrArg Amount.toNat none)
  simp only [tradeSize, Except.guard_bind_eq_error, Except.bind_eq_error, scaled] at stopped
  obtain ⟨none, _⟩ | ⟨_, unscaled | ⟨_, known, stopped⟩⟩ := stopped
  · exact absurd none supplied
  · cases unscaled
  cases known
  obtain ⟨same, rfl⟩ | ⟨off, unheld | ⟨held, found, stopped⟩⟩ := stopped
  · exact Or.inr ⟨rfl, Or.inl same⟩
  · rw [notionalFloor, demand_eq_error] at unheld
    exact Or.inl unheld.2.symm
  have value := notionalFloor_eq_ok.mp found
  have different : (engine.defaultRealUnit component).toInt ≠ target.toInt := fun same => off (Fixed.ext same)
  by_cases below : engine.defaultRealUnit component < target
  · simp only [if_pos below, Except.bind_eq_error, Except.guard_bind_eq_error] at stopped
    obtain overflow | ⟨delta, bought, stopped⟩ := stopped
    · exact Or.inl (buyQuantity_eq_error overflow)
    · obtain ⟨nothing, rfl⟩ | ⟨_, done⟩ := stopped
      · rw [nothing] at bought
        exact Or.inr ⟨rfl, Or.inr ⟨held, value, Or.inl ⟨below, bought⟩⟩⟩
      · cases done
  · simp only [if_neg below, Except.bind_eq_error, Except.guard_bind_eq_error] at stopped
    have above : target < engine.defaultRealUnit component := by
      rw [Fixed.lt_def] at below ⊢
      omega
    obtain overflow | ⟨delta, sold, stopped⟩ := stopped
    · exact Or.inl (sellQuantity_eq_error overflow)
    · obtain ⟨nothing, rfl⟩ | ⟨_, done⟩ := stopped
      · rw [nothing] at sold
        exact Or.inr ⟨rfl, Or.inr ⟨held, value, Or.inr ⟨above, sold⟩⟩⟩
      · cases done

/-- A component is reported as met at its target and within rounding of it, and is
given a trade from anywhere else. -/
theorem tradeSize_met_iff (positive : 0 < engine.basket.totalSupply.toNat)
    (scaled : engine.targetUnit component = .ok target)
    (fits : engine.tradeSize component ≠ .error (.ledger .overflow)) :
    engine.tradeSize component = .error .targetAlreadyMet ↔ engine.defaultRealUnit component = target ∨
      WithinRounding engine.basket.totalSupply.toNat (engine.defaultRealUnit component).toInt target.toInt := by
  cases sized : engine.tradeSize component with
  | error failure =>
    obtain rfl | ⟨rfl, met⟩ := tradeSize_eq_error positive scaled sized
    · exact absurd sized fits
    refine iff_of_true rfl (met.imp_right ?_)
    rintro ⟨held, value, ⟨below, bought⟩ | ⟨above, sold⟩⟩
    · exact Or.inr ⟨below, (buyQuantity_eq_zero_iff positive below value bought).mp rfl⟩
    · have near := (sellQuantity_eq_zero_iff sold).mp rfl
      rw [value] at near
      exact Or.inl ⟨above, near⟩
  | ok order =>
    obtain ⟨direction, quantity⟩ := order
    obtain ⟨_, held, delta, _, scaled', value, nonzero, _, sides⟩ := tradeSize_eq_ok.mp sized
    cases scaled.symm.trans scaled'
    have some : delta ≠ Amount.zero := fun none => nonzero (congrArg Amount.toNat none)
    refine iff_of_false nofun ?_
    rintro (rfl | within)
    · omega
    rcases sides with ⟨_, below, bought⟩ | ⟨_, above, sold⟩
    · obtain ⟨above, _⟩ | ⟨_, near⟩ := within
      · omega
      · exact some ((buyQuantity_eq_zero_iff positive below value bought).mpr near)
    · obtain ⟨_, near⟩ | ⟨below, _⟩ := within
      · rw [ne_eq, sellQuantity_eq_zero_iff sold, value] at some
        exact some near
      · omega

/-! The targets of a whole rebalance. -/

/-- A component that is within rounding of its target, and not at it. -/
def NearTarget (engine : Engine) (component : Address) : Prop :=
  ∃ target, engine.targetUnit component = .ok target ∧
    WithinRounding engine.basket.totalSupply.toNat (engine.defaultRealUnit component).toInt target.toInt

theorem targetsMet_eq_true_iff {components : List Address} :
    engine.targetsMet components = .ok true ↔
      ∀ component ∈ components, engine.targetUnit component = .ok (engine.defaultRealUnit component) := by
  induction components with
  | nil => exact iff_of_true rfl nofun
  | cons component rest ih =>
    rw [List.forall_mem_cons, ← ih, targetsMet, Except.bind_eq_ok]
    constructor
    · rintro ⟨target, scaled, others⟩
      by_cases same : target = engine.defaultRealUnit component
      · rw [if_neg (not_not.mpr same)] at others
        exact ⟨same ▸ scaled, others⟩
      · rw [if_pos same] at others
        cases others
    · rintro ⟨scaled, others⟩
      exact ⟨_, scaled, by rw [if_neg (not_not.mpr rfl)]; exact others⟩

theorem targetsMet_answers {components : List Address}
    (scaled : ∀ component ∈ components, ∃ target, engine.targetUnit component = .ok target) :
    ∃ met, engine.targetsMet components = .ok met := by
  induction components with
  | nil => exact ⟨true, rfl⟩
  | cons component rest ih =>
    obtain ⟨⟨target, known⟩, others⟩ := List.forall_mem_cons.mp scaled
    rw [targetsMet, known]
    by_cases same : target = engine.defaultRealUnit component
    · obtain ⟨met, answered⟩ := ih others
      exact ⟨met, (if_neg (not_not.mpr same)).trans answered⟩
    · exact ⟨false, if_pos same⟩

/-- A component that is reported as met, or given a trade, has a target. -/
theorem targetUnit_of_fits (positive : 0 < engine.basket.totalSupply.toNat)
    (fits : engine.tradeSize component ≠ .error (.ledger .overflow)) :
    ∃ target, engine.targetUnit component = .ok target := by
  have supplied : engine.basket.totalSupply ≠ Amount.zero := fun none => positive.ne' (congrArg Amount.toNat none)
  cases scaled : engine.targetUnit component with
  | ok target => exact ⟨target, rfl⟩
  | error failure =>
    have stopped : engine.tradeSize component = .error failure := by
      simp only [tradeSize, if_neg supplied, scaled, bind, Except.bind]
    rw [targetUnit, demand_eq_error] at scaled
    obtain ⟨_, rfl⟩ := scaled
    exact absurd stopped fits

/-- What a raise of the targets asks for beside that they are met. -/
structure MayRaise (engine : Engine) (context : CallContext) : Prop where
  trader : (engine.anyoneTrade || engine.isTrader context.caller) = true
  registered : engine.registry.isValidBasket engine.basket.address = true
  initialized : engine.basket.isInitializedModule engine.settings.module = true
  reserve : Fixed.zero < engine.reserveUnit

/-- No new snapshot multiplier is refused for targets that are not met. -/
theorem raisedSnapshot_ne_unmet (snapshot : Fixed) (percentage : Amount) :
    raisedSnapshot snapshot percentage ≠ .error .targetsNotMetOrNoReserveRemaining := by
  intro stopped
  simp only [raisedSnapshot, Except.bind_eq_error, demand_eq_error, reduceCtorEq, and_false, exists_false,
    or_self] at stopped

theorem raiseAssetTargets_refused_iff {context : CallContext} {met : Bool} (may : engine.MayRaise context)
    (answered : engine.allTargetsMet = .ok met) :
    raiseAssetTargets context engine = .error .targetsNotMetOrNoReserveRemaining engine ↔ met = false := by
  have allowed : requireAllowedTrader context engine = .ok () engine :=
    requireAllowedTrader_eq_ok.mpr ⟨may.trader, rfl⟩
  have valid : requireValidBasket engine = .ok () engine :=
    requireValidBasket_eq_ok.mpr ⟨⟨may.registered, may.initialized⟩, rfl⟩
  rw [raiseAssetTargets, atomically_eq_error, and_iff_left rfl, bind_of_ok allowed, bind_of_ok valid, get_bind,
    lift_bind_ok answered]
  cases met with
  | false => exact iff_of_true ⟨engine, rfl⟩ rfl
  | true =>
    refine iff_of_false ?_ nofun
    rintro ⟨reached, stopped⟩
    rw [if_neg (by simpa using may.reserve)] at stopped
    beta_reduce at stopped
    cases raised : raisedSnapshot engine.snapshot engine.settings.raiseTargetPercentage with
    | ok snapshot =>
      rw [lift_bind_ok raised] at stopped
      cases stopped
    | error failure =>
      rw [lift_bind_error raised] at stopped
      cases stopped
      exact raisedSnapshot_ne_unmet _ _ raised

theorem targetUnits_of_fits (supplied : Amount.zero < engine.basket.totalSupply)
    (fits : ∀ component ∈ engine.rebalanceComponents, engine.tradeSize component ≠ .error (.ledger .overflow)) :
    ∀ component ∈ engine.rebalanceComponents, ∃ target, engine.targetUnit component = .ok target :=
  fun component listed => targetUnit_of_fits supplied (fits component listed)

theorem allTargetsMet_iff (supplied : Amount.zero < engine.basket.totalSupply)
    (fits : ∀ component ∈ engine.rebalanceComponents, engine.tradeSize component ≠ .error (.ledger .overflow)) :
    engine.allTargetsMet = .ok true ↔ ∀ component ∈ engine.rebalanceComponents,
      engine.tradeSize component = .error .targetAlreadyMet ∧ ¬engine.NearTarget component := by
  rw [allTargetsMet, targetsMet_eq_true_iff]
  refine forall₂_congr fun component listed => ?_
  obtain ⟨target, scaled⟩ := targetUnits_of_fits supplied fits component listed
  rw [tradeSize_met_iff supplied scaled (fits component listed), scaled]
  constructor
  · intro same
    cases same
    refine ⟨Or.inl rfl, ?_⟩
    rintro ⟨_, again, near⟩
    cases scaled.symm.trans again
    exact near.ne rfl
  · rintro ⟨same | near, far⟩
    · rw [same]
    · exact absurd ⟨target, scaled, near⟩ far

/-- All targets are met exactly where every component is reported as met and none of
them is only near its target. So where nothing can be traded because every component is
reported as met, the targets can still not be raised exactly if one is only near. -/
theorem allTargetsMet_iff_sized (supplied : Amount.zero < engine.basket.totalSupply)
    (fits : ∀ component ∈ engine.rebalanceComponents, engine.tradeSize component ≠ .error (.ledger .overflow)) :
    (engine.allTargetsMet = .ok true ↔ ∀ component ∈ engine.rebalanceComponents,
      engine.tradeSize component = .error .targetAlreadyMet ∧ ¬engine.NearTarget component) ∧
    ∀ context, engine.MayRaise context →
      (∀ component ∈ engine.rebalanceComponents, engine.tradeSize component = .error .targetAlreadyMet) →
      (raiseAssetTargets context engine = .error .targetsNotMetOrNoReserveRemaining engine ↔
        ∃ component ∈ engine.rebalanceComponents, engine.NearTarget component) := by
  have met_iff := allTargetsMet_iff supplied fits
  refine ⟨met_iff, fun context may sized => ?_⟩
  obtain ⟨met, answered⟩ := targetsMet_answers (targetUnits_of_fits supplied fits)
  rw [raiseAssetTargets_refused_iff may answered]
  cases met with
  | true =>
    have all := met_iff.mp answered
    refine iff_of_false nofun ?_
    rintro ⟨component, listed, near⟩
    exact (all component listed).2 near
  | false =>
    refine iff_of_true rfl ?_
    by_contra none
    have all := met_iff.mpr fun component listed =>
      ⟨sized component listed, fun near => none ⟨component, listed, near⟩⟩
    rw [allTargetsMet, answered] at all
    cases all

/-- The market at a supply that is no number of whole tokens, with a target one below
the unit. -/
def Market.uneven : Engine :=
  let engine := Market.engine Fixed.one (Fixed.ofInt 1_000_000_000_000_000_001) Amount.baseUnit
  { engine with
    basket := ((Basket.Edit.setTotalSupply (Amount.ofNat 1_100_000_000_000_000_000)).apply Market.registry).final
      engine.basket }

theorem Market.uneven_reachable : Market.uneven.Reachable :=
  (Market.reachable _ _ _).step (.editBasket _ _)

theorem allTargetsMet_iff_sized_uneven :
    Market.uneven.Reachable ∧ Market.uneven.rebalanceComponents = [Market.dai] ∧
      Market.uneven.tradeSize Market.dai = .error .targetAlreadyMet ∧ Market.uneven.NearTarget Market.dai ∧
      Market.uneven.allTargetsMet ≠ .ok true ∧
      raiseAssetTargets (Market.call 1) Market.uneven =
        .error .targetsNotMetOrNoReserveRemaining Market.uneven := by
  have listed : Market.uneven.rebalanceComponents = [Market.dai] := by decide +kernel
  have met : Market.uneven.tradeSize Market.dai = .error .targetAlreadyMet := by decide +kernel
  have sized : ∀ component ∈ Market.uneven.rebalanceComponents,
      Market.uneven.tradeSize component = .error .targetAlreadyMet := by
    rw [listed]
    exact List.forall_mem_singleton.mpr met
  have scaled : Market.uneven.targetUnit Market.dai = .ok (Fixed.ofInt 1_000_000_000_000_000_001) := by decide +kernel
  have unit : Market.uneven.defaultRealUnit Market.dai = Fixed.ofInt 1_000_000_000_000_000_002 := by decide +kernel
  have supply : Market.uneven.basket.totalSupply = Amount.ofNat 1_100_000_000_000_000_000 := by decide +kernel
  have near : Market.uneven.NearTarget Market.dai := by
    refine ⟨_, scaled, Or.inl ?_⟩
    rw [unit, supply]
    decide
  have may : Market.uneven.MayRaise (Market.call 1) :=
    ⟨by decide +kernel, by decide +kernel, by decide +kernel, by decide +kernel⟩
  obtain ⟨met_iff, refused⟩ := allTargetsMet_iff_sized (by rw [supply]; decide) fun component member overflow => by
    cases (sized component member).symm.trans overflow
  have some : Market.dai ∈ Market.uneven.rebalanceComponents := by
    rw [listed]
    exact List.mem_singleton_self _
  exact ⟨Market.uneven_reachable, listed, met, near, fun all => (met_iff.mp all _ some).2 near,
    (refused _ may sized).mpr ⟨_, some, near⟩⟩

/-- With every component reported as met the targets can count as not met. -/
theorem met_but_not_at_target :
    ¬∀ engine : Engine, engine.Reachable → Amount.zero < engine.basket.totalSupply →
      (∀ component ∈ engine.rebalanceComponents, engine.tradeSize component ≠ .error (.ledger .overflow)) →
      (engine.allTargetsMet = .ok true ↔
        ∀ component ∈ engine.rebalanceComponents, engine.tradeSize component = .error .targetAlreadyMet) := by
  intro agree
  have listed : Market.uneven.rebalanceComponents = [Market.dai] := by decide +kernel
  have sized : ∀ component ∈ Market.uneven.rebalanceComponents,
      Market.uneven.tradeSize component = .error .targetAlreadyMet := by
    rw [listed]
    exact List.forall_mem_singleton.mpr (by decide +kernel)
  have unmet : Market.uneven.allTargetsMet = .ok false := by decide +kernel
  have met := (agree Market.uneven Market.uneven_reachable (by decide +kernel) fun component member overflow => by
    cases (sized component member).symm.trans overflow).mpr sized
  cases unmet.symm.trans met

end Engine

end IndexBasket
