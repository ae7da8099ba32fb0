import IndexBasket.Proofs.Engine.Settlement

namespace IndexBasket

namespace Engine

open IndexBasket.Action

/-- How the ledger reads a unit that a call has computed and stored: rounded down
through the live multiplier, by less than what a virtual unit stands for and one
base unit more, and exactly where the multiplier divides it. -/
structure StoredAs (engine after : Engine) (asset : Address) (unit : Fixed) : Prop where
  read : (after.defaultRealUnit asset).toInt =
    Ledger.readBack engine.basket.ledger.multiplier.toInt unit.toInt
  le : after.defaultRealUnit asset ≤ unit
  close : unit.toInt ≤
    (after.defaultRealUnit asset).toInt + (engine.basket.ledger.multiplier.toInt + (10 ^ 18 - 2)) / 10 ^ 18
  exact_iff : after.defaultRealUnit asset = unit ↔
    engine.basket.ledger.multiplier.toInt ∣ unit.toInt * 10 ^ 18

theorem storedAs_of_readBack {engine after : Engine} {asset : Address} {unit : Fixed} (sound : engine.Sound)
    (read : (after.defaultRealUnit asset).toInt =
      Ledger.readBack engine.basket.ledger.multiplier.toInt unit.toInt) :
    engine.StoredAs after asset unit := by
  refine ⟨read, ?_, ?_, ?_⟩
  · rw [Fixed.le_def, read]
    exact Ledger.readBack_le sound.readable unit.toInt
  · rw [read]
    exact Ledger.le_readBack_add sound.readable unit.toInt
  · rw [Fixed.ext_iff, read]
    exact Ledger.readBack_eq_self_iff sound.readable unit.toInt

variable {engine after : Engine} {component : Address} {direction : TradeDirection} {fill : Fill}
  {trade : Trade} {context : CallContext}

theorem Settled.component_stored (sound : engine.Sound)
    (settled : Settled engine component direction fill trade after) :
    engine.StoredAs after component trade.newComponentUnit := by
  refine storedAs_of_readBack sound ?_
  rw [settled.unit, if_pos rfl]

theorem Settled.reserve_stored (sound : engine.Sound) (distinct : component ≠ engine.reserve)
    (settled : Settled engine component direction fill trade after) :
    engine.StoredAs after engine.reserve trade.newReserveUnit := by
  refine storedAs_of_readBack sound ?_
  rw [settled.unit, if_neg distinct, if_pos rfl]

/-- What a trade reports, in its answer and in the one event it records, are the
units before they are stored. The ledger reads them as the multiplier lets it. -/
theorem trade_reported (reached : engine.Reachable)
    (run : Engine.trade context component engine = .ok trade after ∨
      Engine.tradeRemainingReserve context component engine = .ok trade after) :
    after.events = engine.events ++ [.tradeExecuted trade] ∧
      trade.component = component ∧ trade.counterAsset = engine.reserve ∧
      engine.StoredAs after component trade.newComponentUnit ∧
      engine.StoredAs after engine.reserve trade.newReserveUnit := by
  have sound := reached.sound
  have booked : ∃ direction fill, component ∈ engine.rebalanceComponents ∧
      Settled engine component direction fill trade after := by
    rcases run with run | run
    · obtain ⟨direction, _, _, _, fill, listed, _, _, settled⟩ := trade_eq_ok sound run
      exact ⟨direction, fill, listed, settled⟩
    · obtain ⟨_, _, fill, listed, _, settled⟩ := tradeRemainingReserve_eq_ok sound run
      exact ⟨.buy, fill, listed, settled⟩
  obtain ⟨direction, fill, listed, settled⟩ := booked
  exact ⟨settled.events, settled.component_eq, settled.counterAsset_eq, settled.component_stored sound,
    settled.reserve_stored sound (sound.component_ne_reserve listed)⟩

theorem trade_reported_purchase :
    let engine := Market.engine (Fixed.ofInt 980_000_000_000_000_000) (Fixed.ofInt 1_470_000_000_000_000_000)
      (Amount.ofNat 1_000_000_000_000_000_000_000)
    engine.Reachable ∧ ∃ trade after, Engine.trade (Market.call 1) Market.dai engine = .ok trade after ∧
      after.events = engine.events ++ [.tradeExecuted trade] ∧
      after.defaultRealUnit Market.dai = trade.newComponentUnit ∧
      after.defaultRealUnit Market.weth ≤ trade.newReserveUnit := by
  intro engine
  have reached : engine.Reachable := Market.reachable _ _ _
  have bought : (Engine.trade (Market.call 1) Market.dai).succeeds
      (fun trade _ => trade.newComponentUnit = Fixed.ofInt 1_470_000_000_000_000_000) engine = true := by
    decide +kernel
  obtain ⟨trade, after, run, landed⟩ := succeeds_iff.mp bought
  obtain ⟨events, _, _, component, reserve⟩ := trade_reported reached (Or.inl run)
  rw [show engine.reserve = Market.weth by decide +kernel] at reserve
  refine ⟨reached, trade, after, run, events, component.exact_iff.mpr ?_, reserve.le⟩
  rw [of_decide_eq_true landed, show engine.basket.ledger.multiplier = Fixed.ofInt 980_000_000_000_000_000 by
    decide +kernel]
  decide

/-- At a multiplier that does not divide it, a purchase reports a unit that the
ledger does not read. -/
theorem reported_unit_differs :
    ¬∀ {engine after : Engine} {component : Address} {trade : Trade} {context : CallContext},
      engine.Reachable →
      Engine.trade context component engine = .ok trade after ∨
        Engine.tradeRemainingReserve context component engine = .ok trade after →
      after.defaultRealUnit component = trade.newComponentUnit ∧
        after.defaultRealUnit engine.reserve = trade.newReserveUnit := by
  intro agrees
  have traded : (Engine.trade (Market.call 1) Market.dai).succeeds
      (fun trade after => after.defaultRealUnit Market.dai ≠ trade.newComponentUnit)
      (Market.engine (Fixed.ofInt 980_000_000_000_000_000) (Fixed.ofInt 1_500_000_000_000_000_000)
        (Amount.ofNat 1_000_000_000_000_000_000_000)) = true := by decide +kernel
  obtain ⟨trade, after, run, differs⟩ := succeeds_iff.mp traded
  exact of_decide_eq_true differs (agrees (Market.reachable _ _ _) (Or.inl run)).1

end Engine

end IndexBasket
