import IndexBasket.Proofs.Engine.Sizing

namespace IndexBasket

namespace Engine

open IndexBasket.Action

/-- The unit at which a supply holds an amount. -/
def perToken (supply notional : Nat) : Nat := notional * 10 ^ 18 / supply

section Rounding

variable {supply unit held : Nat}

theorem perToken_mono (supply : Nat) {less more : Nat} (le : less ≤ more) :
    perToken supply less ≤ perToken supply more :=
  Nat.div_le_div_right (Nat.mul_le_mul_right _ le)

/-- Rounding down to what is held and down again to a unit gains nothing. -/
theorem perToken_floor_le (supply unit : Nat) : perToken supply (unit * supply / 10 ^ 18) ≤ unit := by
  refine Nat.div_le_of_le_mul ?_
  rw [Nat.mul_comm supply]
  omega

/-- One base unit more than what is held makes up for both roundings. -/
theorem le_perToken_of_lt (positive : 0 < supply) (more : unit * supply / 10 ^ 18 < held) :
    unit ≤ perToken supply held := by
  rw [perToken, Nat.le_div_iff_mul_le positive]
  omega

theorem le_perToken_ceil (positive : 0 < supply) (enough : (unit * supply + (10 ^ 18 - 1)) / 10 ^ 18 ≤ held) :
    unit ≤ perToken supply held := by
  rw [perToken, Nat.le_div_iff_mul_le positive]
  omega

/-- From a whole token on, what a unit asks for is worth that unit exactly. -/
theorem perToken_ceil (unit : Nat) (whole : 10 ^ 18 ≤ supply) :
    perToken supply ((unit * supply + (10 ^ 18 - 1)) / 10 ^ 18) = unit := by
  refine Nat.le_antisymm ?_ (le_perToken_ceil (by omega) (Nat.le_refl _))
  refine Nat.le_of_lt_succ ((Nat.div_lt_iff_lt_mul (by omega)).mpr ?_)
  rw [Nat.succ_mul]
  omega

end Rounding

variable {engine after : Engine} {component : Address} {direction : TradeDirection} {fill : Fill}
  {trade : Trade} {context : CallContext}

/-- What a purchase leaves with the basket: a fee that the basket pays to itself
stays there. -/
def keptOf (engine : Engine) (trade : Trade) : Nat :=
  trade.amountBought.toNat +
    if engine.registry.feeRecipient = engine.basket.address then trade.protocolFee.toNat else 0

/-- After a sale the unit is what is left of the tracked amount, per token. -/
theorem Settled.unit_sell (distinct : component ≠ engine.reserve)
    (limited : fill.amountIn.toNat ≤ engine.tracked component)
    (settled : Settled engine component .sell fill trade after) :
    trade.newComponentUnit.toInt =
      perToken engine.basket.totalSupply.toNat (engine.tracked component - trade.amountSold.toNat) := by
  have moved := settled.custody component
  simp only [soldAsset, boughtAsset, distinct.symm, if_false, false_and, if_true] at moved
  rw [settled.sold]
  obtain ⟨apart, ⟨spent, zero⟩ | ⟨_, _, _, size⟩⟩ := settled.component_revalued
  · rw [zero, show engine.tracked component - fill.amountIn.toNat = 0 by omega, perToken, Nat.zero_mul, Nat.zero_div]
    rfl
  · rw [size, perToken]
    congr 3
    omega

/-- After a purchase the unit is the tracked amount and what has been kept of the
purchase, per token. -/
theorem Settled.unit_buy (distinct : component ≠ engine.reserve)
    (settled : Settled engine component .buy fill trade after) :
    engine.keptOf trade ≤ fill.amountOut.toNat ∧
    trade.newComponentUnit.toInt =
      perToken engine.basket.totalSupply.toNat (engine.tracked component + engine.keptOf trade) := by
  have moved := settled.custody component
  have bought := settled.bought
  simp only [soldAsset, boughtAsset, distinct.symm, if_false, true_and, if_true] at moved
  have kept : (after.custody component).toNat = (engine.custody component).toNat + engine.keptOf trade ∧
      engine.keptOf trade ≤ fill.amountOut.toNat := by
    unfold keptOf
    by_cases self : engine.registry.feeRecipient = engine.basket.address
    · simp only [self, ne_eq, not_true, if_false, if_true] at moved ⊢
      omega
    · simp only [self, ne_eq, not_false_iff, if_false, if_true] at moved ⊢
      omega
  refine ⟨kept.2, ?_⟩
  obtain ⟨apart, ⟨spent, zero⟩ | ⟨_, _, _, size⟩⟩ := settled.component_revalued
  · rw [zero, show engine.tracked component + engine.keptOf trade = 0 by omega, perToken, Nat.zero_mul, Nat.zero_div]
    rfl
  · rw [size, perToken]
    congr 3
    omega

/-- The size of a trade is what it would be without a limit. -/
def Unlimited (engine : Engine) (component : Address) : Prop :=
  (engine.updateInfo component ({ · with maxSize := Amount.clamp (2 ^ 128) })).tradeSize component =
    engine.tradeSize component

theorem tradeSize_unlimited {quantity : Amount} (unlimited : engine.Unlimited component)
    (run : engine.tradeSize component = .ok (direction, quantity)) :
    ∃ target held,
      engine.targetUnit component = .ok target ∧ held.toNat = engine.tracked component ∧ quantity.toNat ≠ 0 ∧
      (direction = .buy ∧ (engine.defaultRealUnit component).toInt < target.toInt ∧
          buyQuantity (engine.defaultRealUnit component) target engine.basket.totalSupply held = .ok quantity ∨
        direction = .sell ∧ target.toInt < (engine.defaultRealUnit component).toInt ∧
          sellQuantity target engine.basket.totalSupply held = .ok quantity) := by
  obtain ⟨target, held, delta, _, scaled, value, nonzero, size, sides⟩ := tradeSize_eq_ok.mp (unlimited.trans run)
  rw [info_updateInfo] at size
  have whole : quantity = delta := by
    refine Amount.ext ?_
    have fits := delta.lt_size
    rw [size, Amount.toNat_min]
    simp only [Amount.clamp]
    omega
  subst whole
  have same : (engine.updateInfo component ({ · with maxSize := Amount.clamp (2 ^ 128) })).targetUnit component =
      engine.targetUnit component := targetUnit_congr (by rw [info_updateInfo]) rfl rfl
  exact ⟨target, held, same.symm.trans scaled, value, nonzero, sides⟩

/-- Nothing is bought toward a target that asks for nothing. -/
theorem buyQuantity_wanted {current target : Fixed} {supply held quantity : Amount} (sized : quantity.toNat ≠ 0)
    (run : buyQuantity current target supply held = .ok quantity) : 0 < target.toInt := by
  obtain ⟨landed, size, sized'⟩ := buyQuantity_eq_ok run
  have wanted : target.toInt.toNat ≠ 0 := by
    intro none
    rw [none] at sized'
    split at sized' <;> omega
  omega

/-- How a purchase can be sized: it does not land farther above the target than
the unit was below it, and a base unit of it is enough to keep the unit. -/
theorem buyQuantity_lands {current target : Fixed} {supply held quantity : Amount}
    (positive : 0 < supply.toNat) (below : current.toInt < target.toInt)
    (value : held.toNat = current.toInt.toNat * supply.toNat / 10 ^ 18) (sized : quantity.toNat ≠ 0)
    (run : buyQuantity current target supply held = .ok quantity) {kept : Nat} (within : kept ≤ quantity.toNat) :
    (kept ≠ 0 → current.toInt ≤ perToken supply.toNat (held.toNat + kept)) ∧
      (perToken supply.toNat (held.toNat + kept) : Int) - target.toInt ≤ target.toInt - current.toInt := by
  constructor
  · intro nonzero
    have kept' := le_perToken_of_lt positive
      (show current.toInt.toNat * supply.toNat / 10 ^ 18 < held.toNat + kept by omega)
    omega
  · have wanted := buyQuantity_wanted sized run
    obtain ⟨landed, size, sized⟩ := buyQuantity_eq_ok run
    split at sized
    · rename_i near
      have near : max (-2 ^ 127) (min (landed.toInt - target.toInt) (2 ^ 127 - 1)) ≤
        max (-2 ^ 127) (min (target.toInt - current.toInt) (2 ^ 127 - 1)) := near
      have reached := perToken_mono supply.toNat (Nat.add_le_add_left (within.trans sized.le) held.toNat)
      have most := landed.le_max
      unfold perToken at reached ⊢
      omega
    · have reached := perToken_mono supply.toNat
        (show held.toNat + kept ≤ target.toInt.toNat * supply.toNat / 10 ^ 18 by omega)
      have down := perToken_floor_le supply.toNat target.toInt.toNat
      omega

/-- From a whole token on, a purchase of its whole size lands on the target. -/
theorem buyQuantity_exact {current target : Fixed} {supply held quantity : Amount}
    (whole : 10 ^ 18 ≤ supply.toNat) (below : current.toInt < target.toInt) (nonneg : 0 ≤ target.toInt)
    (value : held.toNat = current.toInt.toNat * supply.toNat / 10 ^ 18)
    (run : buyQuantity current target supply held = .ok quantity) :
    (perToken supply.toNat (held.toNat + quantity.toNat) : Int) = target.toInt := by
  obtain ⟨landed, size, sized⟩ := buyQuantity_eq_ok run
  have exact := perToken_ceil target.toInt.toNat whole
  have less : current.toInt.toNat * supply.toNat ≤ target.toInt.toNat * supply.toNat :=
    Nat.mul_le_mul_right _ (Int.toNat_le_toNat below.le)
  have reached : held.toNat + ((target.toInt.toNat * supply.toNat + (10 ^ 18 - 1)) / 10 ^ 18 - held.toNat) =
      (target.toInt.toNat * supply.toNat + (10 ^ 18 - 1)) / 10 ^ 18 := by omega
  rw [reached] at size
  have near : landed.subClamped target ≤ target.subClamped current := by
    refine Fixed.subClamped_mono ?_
    unfold perToken at exact
    omega
  rw [if_pos near] at sized
  rw [sized, reached, exact]
  omega

/-- What a trade that goes through has done to the unit of its component. -/
theorem trade_landed (sound : engine.Sound) (run : Engine.trade context component engine = .ok trade after) :
    ∃ target, engine.targetUnit component = .ok target ∧ after.targetUnit component = .ok target ∧
      0 < engine.basket.totalSupply.toNat ∧
      (after.defaultRealUnit component).toInt =
        Ledger.readBack engine.basket.ledger.multiplier.toInt trade.newComponentUnit.toInt ∧
      (trade.direction = .sell ∧ target.toInt < (engine.defaultRealUnit component).toInt ∧
          trade.newComponentUnit.toInt =
            perToken engine.basket.totalSupply.toNat (engine.tracked component - trade.amountSold.toNat) ∧
          target.toInt ≤ trade.newComponentUnit.toInt ∧
          trade.newComponentUnit.toInt ≤ (engine.defaultRealUnit component).toInt ∨
        trade.direction = .buy ∧ (engine.defaultRealUnit component).toInt < target.toInt ∧
          trade.newComponentUnit.toInt =
            perToken engine.basket.totalSupply.toNat (engine.tracked component + engine.keptOf trade) ∧
          (engine.keptOf trade ≠ 0 →
            (engine.defaultRealUnit component).toInt ≤ trade.newComponentUnit.toInt) ∧
          trade.newComponentUnit.toInt - target.toInt ≤
            target.toInt - (engine.defaultRealUnit component).toInt) := by
  obtain ⟨direction, quantity, exchange, bound, fill, listed, sized, swapped, settled⟩ := trade_eq_ok sound run
  have distinct := sound.component_ne_reserve listed
  obtain ⟨target, held, delta, positive, scaled, value, nonzero, size, sides⟩ := tradeSize_eq_ok.mp sized
  have within : quantity.toNat ≤ delta.toNat := by
    rw [size, Amount.toNat_min]
    exact Nat.min_le_left _ _
  have unit := settled.unit component
  rw [if_pos rfl] at unit
  refine ⟨target, scaled, settled.targetUnit.trans scaled, positive, unit, ?_⟩
  rcases sides with ⟨rfl, below, sizing⟩ | ⟨rfl, above, sizing⟩
  · have bought : fill.amountOut = quantity := Venues.execute_fixedSide swapped
    obtain ⟨kept, new⟩ := settled.unit_buy distinct
    rw [bought] at kept
    obtain ⟨lower, upper⟩ := buyQuantity_lands positive below value nonzero sizing (kept.trans within)
    rw [value] at lower upper
    refine Or.inr ⟨settled.direction_eq, below, new, fun some => ?_, ?_⟩
    · rw [new]
      exact lower some
    · rw [new]
      exact upper
  · have sold : fill.amountIn = quantity := Venues.execute_fixedSide swapped
    have most := sellQuantity_eq_ok sizing
    have limited : fill.amountIn.toNat ≤ engine.tracked component := by
      rw [sold]
      omega
    have new := settled.unit_sell distinct limited
    refine Or.inl ⟨settled.direction_eq, above, new, ?_, ?_⟩
    · have left : (target.toInt.toNat * engine.basket.totalSupply.toNat + (10 ^ 18 - 1)) / 10 ^ 18 ≤
          engine.tracked component - trade.amountSold.toNat := by
        rw [settled.sold, sold]
        omega
      have worth := le_perToken_ceil positive left
      omega
    · have less := perToken_mono engine.basket.totalSupply.toNat
        (Nat.sub_le (engine.tracked component) trade.amountSold.toNat)
      have down := perToken_floor_le engine.basket.totalSupply.toNat
        (engine.defaultRealUnit component).toInt.toNat
      change perToken _ (engine.tracked component) ≤ _ at down
      have positive' : (engine.defaultRealUnit component).toInt.toNat ≠ 0 := by
        intro none
        have nothing : engine.tracked component = 0 := by
          rw [tracked, none, Nat.zero_mul, Nat.zero_div]
        omega
      omega

/-- Where neither a limit nor a fee is in the way and the supply is at least a
whole token, all rounding cancels. A target below zero is met as one of zero. -/
theorem trade_exact_max (sound : engine.Sound) (run : Engine.trade context component engine = .ok trade after)
    {target : Fixed} (scaled : engine.targetUnit component = .ok target)
    (whole : 10 ^ 18 ≤ engine.basket.totalSupply.toNat) (free : trade.protocolFee = Amount.zero)
    (unlimited : engine.Unlimited component) : trade.newComponentUnit.toInt = max target.toInt 0 := by
  obtain ⟨direction, quantity, exchange, bound, fill, listed, sized, swapped, settled⟩ := trade_eq_ok sound run
  have distinct := sound.component_ne_reserve listed
  obtain ⟨target', held, scaled', value, nonzero, sides⟩ := tradeSize_unlimited unlimited sized
  cases scaled.symm.trans scaled'
  have none : trade.protocolFee.toNat = 0 := congrArg Amount.toNat free
  rcases sides with ⟨rfl, below, sizing⟩ | ⟨rfl, above, sizing⟩
  · have bought : fill.amountOut = quantity := Venues.execute_fixedSide swapped
    have whole' := settled.bought
    have kept : engine.keptOf trade = quantity.toNat := by
      rw [keptOf, none, ite_self, ← bought]
      omega
    have wanted := buyQuantity_wanted nonzero sizing
    rw [(settled.unit_buy distinct).2, kept, ← value, buyQuantity_exact whole below wanted.le value sizing]
    omega
  · have sold : fill.amountIn = quantity := Venues.execute_fixedSide swapped
    have most := sellQuantity_eq_ok sizing
    have exact := perToken_ceil target.toInt.toNat whole
    have left : engine.tracked component - trade.amountSold.toNat =
        (target.toInt.toNat * engine.basket.totalSupply.toNat + (10 ^ 18 - 1)) / 10 ^ 18 := by
      rw [settled.sold, sold]
      omega
    rw [settled.unit_sell distinct (by rw [sold]; omega), left, exact]
    omega

theorem trade_exact (sound : engine.Sound) (run : Engine.trade context component engine = .ok trade after)
    {target : Fixed} (scaled : engine.targetUnit component = .ok target) (nonneg : 0 ≤ target.toInt)
    (whole : 10 ^ 18 ≤ engine.basket.totalSupply.toNat) (free : trade.protocolFee = Amount.zero)
    (unlimited : engine.Unlimited component) : trade.newComponentUnit.toInt = target.toInt := by
  rw [trade_exact_max sound run scaled whole free unlimited, max_eq_left nonneg]

/-- A trade goes toward the target. A sale stops at it or above, a purchase that
leaves something bought comes no farther from it on the other side, and from a
whole token on both meet it if nothing holds them back. -/
theorem trade_lands (reached : engine.Reachable)
    (run : Engine.trade context component engine = .ok trade after) :
    ∃ target, engine.targetUnit component = .ok target ∧
      (trade.direction = .sell ↔ target < engine.defaultRealUnit component) ∧
      (trade.direction = .buy ↔ engine.defaultRealUnit component < target) ∧
      (trade.direction = .sell →
        target ≤ trade.newComponentUnit ∧ trade.newComponentUnit ≤ engine.defaultRealUnit component) ∧
      (trade.direction = .buy → Amount.zero < trade.amountBought →
        engine.defaultRealUnit component ≤ trade.newComponentUnit ∧
          trade.newComponentUnit.toInt - target.toInt ≤
            target.toInt - (engine.defaultRealUnit component).toInt) ∧
      (Fixed.zero ≤ target → Amount.one ≤ engine.basket.totalSupply → trade.protocolFee = Amount.zero →
        engine.Unlimited component → trade.newComponentUnit = target) := by
  obtain ⟨target, scaled, _, positive, _, sides⟩ := trade_landed reached.sound run
  simp only [Fixed.lt_def, Fixed.le_def]
  refine ⟨target, scaled, ?_, ?_, fun sells => ?_, fun buys some => ?_, fun nonneg whole free unlimited => ?_⟩
  · rcases sides with ⟨sells, above, _⟩ | ⟨buys, below, _⟩
    · exact iff_of_true sells above
    · exact iff_of_false (by rw [buys]; decide) (by omega)
  · rcases sides with ⟨sells, above, _⟩ | ⟨buys, below, _⟩
    · exact iff_of_false (by rw [sells]; decide) (by omega)
    · exact iff_of_true buys below
  · rcases sides with ⟨_, _, _, lower, upper⟩ | ⟨buys, _⟩
    · exact ⟨lower, upper⟩
    · rw [buys] at sells
      cases sells
  · rcases sides with ⟨sells, _⟩ | ⟨_, _, _, lower, upper⟩
    · rw [sells] at buys
      cases buys
    · have kept : engine.keptOf trade ≠ 0 := by
        have bought : 0 < trade.amountBought.toNat := some
        unfold keptOf
        omega
      exact ⟨lower kept, upper⟩
  · exact Fixed.ext (trade_exact reached.sound run scaled nonneg whole free unlimited)

theorem trade_lands_purchase :
    let engine := Market.engine (Fixed.ofInt 980_000_000_000_000_000) (Fixed.ofInt 1_500_000_000_000_000_000)
      (Amount.ofNat 1_000_000_000_000_000_000_000)
    engine.Reachable ∧ ∃ trade after, Engine.trade (Market.call 1) Market.dai engine = .ok trade after ∧
      trade.direction = .buy ∧ trade.newComponentUnit = Fixed.ofInt 1_500_000_000_000_000_000 := by
  intro engine
  have reached : engine.Reachable := Market.reachable _ _ _
  have bought : (Engine.trade (Market.call 1) Market.dai).succeeds
      (fun trade _ => trade.protocolFee = Amount.zero) engine = true := by decide +kernel
  obtain ⟨trade, after, run, free⟩ := succeeds_iff.mp bought
  obtain ⟨target, scaled, _, buys, _, _, exact⟩ := trade_lands reached run
  have known : engine.targetUnit Market.dai = .ok (Fixed.ofInt 1_500_000_000_000_000_000) := by decide +kernel
  cases known.symm.trans scaled
  refine ⟨reached, trade, after, run, buys.mpr (by decide +kernel), exact (by decide) (by decide +kernel) ?_ ?_⟩
  · exact of_decide_eq_true free
  · unfold Unlimited
    decide +kernel

end Engine

end IndexBasket
