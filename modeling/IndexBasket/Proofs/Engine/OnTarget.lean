import IndexBasket.Proofs.Engine.Landing
import IndexBasket.Proofs.Engine.StoredUnit

namespace IndexBasket

namespace Engine

open IndexBasket.Action

variable {engine after : Engine} {component : Address} {direction : TradeDirection} {quantity : Amount}
  {trade : Trade} {context : CallContext} {target : Fixed}

/-- What a target asks for is an amount whenever a trade toward it has a size. -/
theorem tradeSize_needs (scaled : engine.targetUnit component = .ok target)
    (run : engine.tradeSize component = .ok (direction, quantity)) :
    ∃ needed, notionalCeil target engine.basket.totalSupply = .ok needed := by
  obtain ⟨target', held, delta, _, scaled', _, _, _, sides⟩ := tradeSize_eq_ok.mp run
  cases scaled.symm.trans scaled'
  rcases sides with ⟨_, _, run⟩ | ⟨_, _, run⟩
  · obtain ⟨needed, asked, _⟩ := Except.bind_eq_ok.mp run
    exact ⟨needed, asked⟩
  · obtain ⟨needed, asked, _⟩ := Except.bind_eq_ok.mp run
    exact ⟨needed, asked⟩

/-- At a target there is nothing to trade, and at zero nothing to sell toward one
below it. -/
theorem tradeSize_met (positive : 0 < engine.basket.totalSupply.toNat)
    (scaled : engine.targetUnit component = .ok target)
    (met : (engine.defaultRealUnit component).toInt = max target.toInt 0) :
    engine.tradeSize component = .error .targetAlreadyMet := by
  have supplied : engine.basket.totalSupply ≠ Amount.zero := fun none =>
    positive.ne' (congrArg Amount.toNat none)
  unfold tradeSize
  simp only [if_neg supplied, scaled, bind, Except.bind]
  by_cases same : engine.defaultRealUnit component = target
  · rw [if_pos same]
    rfl
  · -- The unit is zero and the target below it: a sale is sized, of nothing.
    have different : (engine.defaultRealUnit component).toInt ≠ target.toInt := fun equal => same (Fixed.ext equal)
    have above : ¬engine.defaultRealUnit component < target := by
      rw [Fixed.lt_def]
      omega
    have held : notionalFloor (engine.defaultRealUnit component) engine.basket.totalSupply = .ok Amount.zero :=
      notionalFloor_eq_ok.mpr (by
        rw [met, show (max target.toInt 0).toNat = 0 by omega, Nat.zero_mul, Nat.zero_div]
        rfl)
    have needed : notionalCeil target engine.basket.totalSupply = .ok Amount.zero :=
      notionalCeil_eq_ok.mpr (by
        rw [show target.toInt.toNat = 0 by omega, Nat.zero_mul]
        rfl)
    simp only [if_neg same, held, if_neg above, sellQuantity, needed, bind, Except.bind]
    rfl

/-- From a whole token on, a unit below its target is bought up to what the target
asks for, however little is missing. -/
theorem tradeSize_below (whole : 10 ^ 18 ≤ engine.basket.totalSupply.toNat)
    (scaled : engine.targetUnit component = .ok target)
    (nonneg : 0 ≤ (engine.defaultRealUnit component).toInt)
    (below : (engine.defaultRealUnit component).toInt < target.toInt) {needed : Amount}
    (asked : notionalCeil target engine.basket.totalSupply = .ok needed) :
    ∃ delta : Amount, delta.toNat ≠ 0 ∧
      engine.tradeSize component = .ok (.buy, min delta (engine.info component).maxSize) := by
  have value := notionalCeil_eq_ok.mp asked
  have exact := perToken_ceil target.toInt.toNat whole
  have less : engine.tracked component < needed.toNat := by
    have above : ((engine.defaultRealUnit component).toInt.toNat + 1) * engine.basket.totalSupply.toNat ≤
        target.toInt.toNat * engine.basket.totalSupply.toNat := Nat.mul_le_mul_right _ (by omega)
    rw [Nat.add_mul] at above
    unfold tracked
    omega
  have room := needed.lt_size
  let held : Amount := ⟨engine.tracked component, by omega⟩
  have sized : buyQuantity (engine.defaultRealUnit component) target engine.basket.totalSupply held =
      .ok (needed.monus held) := by
    simp only [buyQuantity, Except.bind_eq_ok, demand_eq_ok, Amount.add?, Amount.ofNat?_eq_some,
      unitOfNotional_eq_ok]
    refine ⟨needed, asked, needed, ?_, target, ⟨by omega, ?_⟩, ?_⟩
    · rw [Amount.toNat_monus]
      exact Nat.add_sub_cancel' less.le
    · rw [value]
      change _ = ((perToken _ _ : Nat) : Int)
      omega
    · rw [if_pos (Fixed.subClamped_mono (by omega))]
      rfl
  have missing : (needed.monus held).toNat ≠ 0 := (Nat.sub_pos_of_lt less).ne'
  exact ⟨needed.monus held, missing, tradeSize_eq_ok.mpr ⟨target, held, needed.monus held, by omega, scaled, rfl,
    missing, rfl, Or.inl ⟨rfl, below, sized⟩⟩⟩

/-- A trade that rounding, a fee and a limit leave alone ends with the ledger's
reading of the target. Where the multiplier does not divide the target the reading
falls short of it, and the next trade buys what is missing. -/
theorem trade_on_target (reached : engine.Reachable)
    (run : Engine.trade context component engine = .ok trade after)
    (whole : Amount.one ≤ engine.basket.totalSupply) (free : trade.protocolFee = Amount.zero)
    (unlimited : engine.Unlimited component) :
    ∃ target, engine.targetUnit component = .ok target ∧ after.targetUnit component = .ok target ∧
      (after.defaultRealUnit component).toInt =
        Ledger.readBack engine.basket.ledger.multiplier.toInt (max target.toInt 0) ∧
      (after.defaultRealUnit component = target ↔
        0 ≤ target.toInt ∧ engine.basket.ledger.multiplier.toInt ∣ target.toInt * 10 ^ 18) ∧
      if engine.basket.ledger.multiplier.toInt ∣ max target.toInt 0 * 10 ^ 18 then
        after.tradeSize component = .error .targetAlreadyMet
      else ∃ quantity, Amount.zero < quantity ∧ after.tradeSize component = .ok (.buy, quantity) := by
  have sound := reached.sound
  obtain ⟨direction, quantity, exchange, bound, fill, listed, sized, swapped, settled⟩ := trade_eq_ok sound run
  obtain ⟨target, held, scaled, value, nonzero, sides⟩ := tradeSize_unlimited unlimited sized
  have whole' : 10 ^ 18 ≤ engine.basket.totalSupply.toNat := Amount.le_def.mp whole
  have new := trade_exact_max sound run scaled whole' free unlimited
  have stored := settled.component_stored sound
  have read := stored.read
  rw [new] at read
  have exact_iff := Ledger.readBack_eq_self_iff sound.readable (max target.toInt 0)
  have least := Ledger.readBack_nonneg sound.readable (le_max_right target.toInt 0)
  have most := Ledger.readBack_le sound.readable (max target.toInt 0)
  have scaled' := settled.targetUnit.trans scaled
  refine ⟨target, scaled, scaled', read, ?_, ?_⟩
  · rw [Fixed.ext_iff, read]
    constructor
    · intro same
      have nonneg : 0 ≤ target.toInt := by omega
      rw [max_eq_left nonneg] at same exact_iff
      exact ⟨nonneg, exact_iff.mp same⟩
    · rintro ⟨nonneg, divides⟩
      rw [max_eq_left nonneg] at exact_iff ⊢
      exact exact_iff.mpr divides
  · split
    · rename_i divides
      refine tradeSize_met (by rw [settled.supply]; omega) scaled' ?_
      rw [read, exact_iff.mpr divides]
    · rename_i remains
      -- The reading is below the target, so a purchase is sized as from any other unit below it.
      have short : Ledger.readBack engine.basket.ledger.multiplier.toInt (max target.toInt 0) ≠
        max target.toInt 0 := fun same => remains (exact_iff.mp same)
      obtain ⟨needed, asked⟩ := tradeSize_needs scaled sized
      rw [← settled.supply] at whole' asked
      obtain ⟨delta, some, again⟩ := tradeSize_below whole' scaled' (by omega) (by omega) asked
      refine ⟨_, ?_, again⟩
      have limit := tradeSize_le_maxSize sized
      rw [settled.info, Amount.lt_def, Amount.toNat_min]
      exact Nat.lt_min.mpr ⟨Nat.pos_of_ne_zero some, (Nat.pos_of_ne_zero nonzero).trans_le limit⟩

theorem trade_on_target_purchase :
    let engine := Market.engine (Fixed.ofInt 980_000_000_000_000_000) (Fixed.ofInt 1_500_000_000_000_000_000)
      (Amount.ofNat 1_000_000_000_000_000_000_000)
    engine.Reachable ∧ ∃ trade after quantity, Engine.trade (Market.call 1) Market.dai engine = .ok trade after ∧
      after.defaultRealUnit Market.dai = Fixed.ofInt 1_499_999_999_999_999_999 ∧
      Amount.zero < quantity ∧ after.tradeSize Market.dai = .ok (.buy, quantity) := by
  intro engine
  have reached : engine.Reachable := Market.reachable _ _ _
  have bought : (Engine.trade (Market.call 1) Market.dai).succeeds
      (fun trade _ => trade.protocolFee = Amount.zero) engine = true := by decide +kernel
  obtain ⟨trade, after, run, free⟩ := succeeds_iff.mp bought
  obtain ⟨target, scaled, _, read, _, next⟩ := trade_on_target reached run (by decide +kernel)
    (of_decide_eq_true free) (by unfold Unlimited; decide +kernel)
  have known : engine.targetUnit Market.dai = .ok (Fixed.ofInt 1_500_000_000_000_000_000) := by decide +kernel
  cases known.symm.trans scaled
  rw [show engine.basket.ledger.multiplier = Fixed.ofInt 980_000_000_000_000_000 by decide +kernel] at read next
  rw [if_neg (by decide)] at next
  obtain ⟨quantity, some, again⟩ := next
  exact ⟨reached, trade, after, quantity, run, Fixed.ext read, some, again⟩

/-- What falls short of a target that the multiplier does not divide is bought
again. -/
theorem target_missed :
    ¬∀ {engine after : Engine} {component : Address} {trade : Trade} {context : CallContext},
      engine.Reachable → Engine.trade context component engine = .ok trade after →
      Amount.one ≤ engine.basket.totalSupply → trade.protocolFee = Amount.zero → engine.Unlimited component →
      after.targetUnit component = .ok (after.defaultRealUnit component) ∧
        after.tradeSize component = .error .targetAlreadyMet := by
  intro meets
  have traded : (Engine.trade (Market.call 1) Market.dai).succeeds
      (fun trade after => trade.protocolFee = Amount.zero ∧
        after.tradeSize Market.dai ≠ .error .targetAlreadyMet)
      (Market.engine (Fixed.ofInt 980_000_000_000_000_000) (Fixed.ofInt 1_500_000_000_000_000_000)
        (Amount.ofNat 1_000_000_000_000_000_000_000)) = true := by decide +kernel
  obtain ⟨trade, after, run, found⟩ := succeeds_iff.mp traded
  obtain ⟨free, sized⟩ := of_decide_eq_true found
  exact sized (meets (Market.reachable _ _ _) run (by decide +kernel) free (by unfold Unlimited; decide +kernel)).2

end Engine

end IndexBasket
