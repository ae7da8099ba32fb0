import IndexBasket.Proofs.Engine.Landing
import IndexBasket.Proofs.Engine.Rescaling
import IndexBasket.Proofs.Ledger.Positions

namespace IndexBasket

namespace Engine

open IndexBasket.Action

variable {engine after : Engine} {context : CallContext} {component : Address} {direction : TradeDirection}
  {exchange : Exchange} {fill : Fill} {before : PreTrade} {trade : Trade} {components : List Address}

/-- Nothing is left to sell when no component that has a route stands above its target. A
component without a route is not looked at, and may have no target that can be told. -/
theorem nothingToSell_eq_true_iff :
    engine.nothingToSell components = .ok true ↔
      ∀ component ∈ components, (engine.info component).exchange ≠ .unset →
        ∃ target, engine.targetUnit component = .ok target ∧ engine.defaultRealUnit component ≤ target := by
  induction components with
  | nil => exact iff_of_true rfl nofun
  | cons component rest ih =>
    rw [List.forall_mem_cons, ← ih, nothingToSell]
    by_cases unrouted : (engine.info component).exchange = .unset
    · rw [if_pos unrouted, and_iff_right fun routed => absurd unrouted routed]
    rw [if_neg unrouted, Except.bind_eq_ok, forall_prop_of_true unrouted]
    constructor
    · rintro ⟨target, scaled, others⟩
      by_cases above : target < engine.defaultRealUnit component
      · rw [if_pos above] at others
        cases others
      · rw [if_neg above] at others
        exact ⟨⟨target, scaled, Int.not_lt.mp above⟩, others⟩
    · rintro ⟨⟨target, scaled, within⟩, others⟩
      exact ⟨target, scaled, (if_neg (Int.not_lt.mpr within)).trans others⟩

/-- A purchase that spends the whole balance of the reserve leaves nothing of it, in
custody and in the ledger. -/
theorem Settled.reserve_spent (sound : engine.Sound) (distinct : component ≠ engine.reserve)
    (whole : fill.amountIn = engine.custody engine.reserve)
    (settled : Settled engine component .buy fill trade after) :
    after.custody engine.reserve = Amount.zero ∧ trade.newReserveUnit = Fixed.zero ∧
      after.defaultRealUnit engine.reserve = Fixed.zero := by
  have moved := settled.custody engine.reserve
  simp only [soldAsset, boughtAsset, if_true, distinct, if_false, false_and, whole] at moved
  have spent : (after.custody engine.reserve).toNat = 0 := by omega
  have unit : trade.newReserveUnit = Fixed.zero := by
    obtain ⟨_, ⟨_, zero⟩ | ⟨left, _⟩⟩ := settled.reserve_revalued
    · exact Fixed.ext zero
    · exact absurd spent left
  have divides : engine.basket.ledger.multiplier.toInt ∣ trade.newReserveUnit.toInt * 10 ^ 18 := by
    rw [unit]
    exact dvd_zero _
  exact ⟨Amount.ext spent, unit, ((settled.reserve_stored sound distinct).exact_iff.mpr divides).trans unit⟩

/-- A purchase of which something is left after the fee does not lower the unit: one base
unit makes up for what rounding takes, at any supply. -/
theorem Settled.component_unit_le (distinct : component ≠ engine.reserve)
    (settled : Settled engine component .buy fill trade after) (some : Amount.zero < trade.amountBought) :
    engine.defaultRealUnit component ≤ trade.newComponentUnit := by
  obtain ⟨_, new⟩ := settled.unit_buy distinct
  have kept : trade.amountBought.toNat ≤ engine.keptOf trade := Nat.le_add_right _ _
  have bought : 0 < trade.amountBought.toNat := some
  have moved := settled.custody component
  have whole := settled.bought
  simp only [soldAsset, boughtAsset, distinct.symm, if_false, true_and, if_true] at moved
  have positive : 0 < engine.basket.totalSupply.toNat := by
    obtain ⟨_, ⟨spent, _⟩ | ⟨_, positive, _⟩⟩ := settled.component_revalued
    · split at moved <;> omega
    · exact positive
  have worth : (engine.defaultRealUnit component).toInt.toNat ≤
      perToken engine.basket.totalSupply.toNat (engine.tracked component + engine.keptOf trade) := by
    refine le_perToken_of_lt positive ?_
    change engine.tracked component < _
    omega
  rw [Fixed.le_def, new]
  omega

/-- When a settlement leaves the reserve at a unit of zero, it is gone from the list of
components, unless a module is attributed to it. -/
theorem settle_attributed
    (run : settle context component direction exchange fill before engine = .ok trade after)
    (built : engine.basket.ledger.Built) (unit : trade.newReserveUnit = Fixed.zero) (listed : engine.reserve ∈ after.basket.ledger.components) :
    ∃ module, after.basket.ledger.isExternalModule engine.reserve module = true := by
  obtain ⟨_, _, _, _, newComponentUnit, component', newReserveUnit, reserve', _, _, _, _, _, componentStored, _,
    reserveStored, rfl, rfl⟩ := settle_eq_ok.mp run
  have edited : (Ledger.Edit.defaultPosition component newComponentUnit).apply engine.basket.ledger =
    .ok () component' := componentStored
  have consistent := (built.of_ok edited).consistent
  rw [show newReserveUnit = Fixed.zero from unit] at reserveStored
  exact consistent.attributed_of_listed reserveStored listed

/-- A trade of the remaining reserve is made when nothing is left to sell. It spends the
whole balance of the reserve, with what is not tracked of it, and so takes the reserve off
the ledger. What it buys never lowers the unit, however the supply rounds it. -/
theorem tradeRemainingReserve_spends (reached : engine.Reachable)
    (run : Engine.tradeRemainingReserve context component engine = .ok trade after) :
    (∀ other ∈ engine.rebalanceComponents, (engine.info other).exchange ≠ .unset →
      ∃ target, engine.targetUnit other = .ok target ∧ engine.defaultRealUnit other ≤ target) ∧
    trade.amountSold = engine.custody engine.reserve ∧
    after.custody engine.reserve = Amount.zero ∧ after.defaultRealUnit engine.reserve = Fixed.zero ∧
    trade.newReserveUnit = Fixed.zero ∧
    (engine.reserve ∈ after.basket.ledger.components →
      ∃ module, after.basket.ledger.isExternalModule engine.reserve module = true) ∧
    (Amount.zero < trade.amountBought → engine.defaultRealUnit component ≤ trade.newComponentUnit) := by
  have sound := reached.sound
  obtain ⟨permits, answered, distinct, _, _, _, _, fill, venues, _, _, _, swapped, _, booked⟩ :=
    tradeRemainingReserve_iff.mp run
  obtain ⟨settled, _⟩ := settle_after_swap sound permits.listed booked
  have whole : fill.amountIn = engine.custody engine.reserve := Venues.execute_fixedSide swapped
  obtain ⟨spent, unit, forgotten⟩ := settled.reserve_spent sound distinct whole
  have attributed := settle_attributed booked reached.ledgerBuilt unit
  exact ⟨nothingToSell_eq_true_iff.mp answered, settled.sold.trans whole, spent, forgotten, unit, attributed,
    settled.component_unit_le distinct⟩

/-- The market holds a thousand of its reserve and tracks a hundred. All of it is spent on
dai, and the reserve is no component afterwards. -/
theorem tradeRemainingReserve_spends_surplus :
    let engine := Market.engine Fixed.one (Fixed.ofInt 5_000_000_000_000_000_000)
      (Amount.ofNat 1_000_000_000_000_000_000_000)
    engine.Reachable ∧ engine.tracked Market.weth = 100_000_000_000_000_000_000 ∧
      ∃ trade after, Engine.tradeRemainingReserve (Market.call 1) Market.dai engine = .ok trade after ∧
        trade.amountSold = Amount.ofNat 1_000_000_000_000_000_000_000 ∧
        after.custody Market.weth = Amount.zero ∧ after.defaultRealUnit Market.weth = Fixed.zero ∧
        Market.weth ∉ after.basket.ledger.components ∧
        engine.defaultRealUnit Market.dai ≤ trade.newComponentUnit := by
  intro engine
  have reached : engine.Reachable := Market.reachable _ _ _
  have bought : (Engine.tradeRemainingReserve (Market.call 1) Market.dai).succeeds
      (fun trade after => Amount.zero < trade.amountBought ∧ Market.weth ∉ after.basket.ledger.external) engine =
        true := by decide +kernel
  obtain ⟨trade, after, run, holds⟩ := succeeds_iff.mp bought
  obtain ⟨some, unattributed⟩ := of_decide_eq_true holds
  obtain ⟨_, whole, spent, forgotten, _, attributed, kept⟩ := tradeRemainingReserve_spends reached run
  rw [show engine.reserve = Market.weth by decide +kernel] at whole spent forgotten attributed
  rw [show engine.custody Market.weth = Amount.ofNat 1_000_000_000_000_000_000_000 by decide +kernel] at whole
  refine ⟨reached, by decide +kernel, trade, after, run, whole, spent, forgotten, fun listed => unattributed ?_, kept some⟩
  obtain ⟨module, named⟩ := attributed listed
  rw [Std.ExtTreeMap.mem_iff_isSome_getElem?, Ledger.getElem?_external named]
  rfl

end Engine

end IndexBasket
