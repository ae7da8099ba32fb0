import IndexBasket.Proofs.Engine.Guards
import IndexBasket.Proofs.Engine.Reachable
import IndexBasket.Proofs.Ledger.Readback
import IndexBasket.Proofs.Venue.Fill
import IndexBasket.Proofs.Balances

namespace IndexBasket

namespace Engine

open IndexBasket.Action

/-- What the unit of an asset says that the basket holds, rounded down. -/
def tracked (engine : Engine) (asset : Address) : Nat :=
  (engine.defaultRealUnit asset).toInt.toNat * engine.basket.totalSupply.toNat / 10 ^ 18

theorem notionalFloor_eq_ok {unit : Fixed} {supply notional : Amount} :
    notionalFloor unit supply = .ok notional ↔
      notional.toNat = unit.toInt.toNat * supply.toNat / 10 ^ 18 := by
  unfold notionalFloor
  rw [demand_eq_ok, Fixed.notionalFloor_eq_some]

theorem notionalCeil_eq_ok {unit : Fixed} {supply notional : Amount} :
    notionalCeil unit supply = .ok notional ↔
      notional.toNat = (unit.toInt.toNat * supply.toNat + (10 ^ 18 - 1)) / 10 ^ 18 := by
  unfold notionalCeil
  rw [demand_eq_ok, Fixed.notionalCeil_eq_some]

theorem unitOfNotional_eq_ok {notional supply : Amount} {unit : Fixed} :
    unitOfNotional notional supply = .ok unit ↔
      0 < supply.toNat ∧ unit.toInt = (notional.toNat * 10 ^ 18 / supply.toNat : Nat) := by
  unfold unitOfNotional Amount.preciseDiv
  simp only [demand_eq_ok, Option.bind_eq_some_iff, Amount.mulDivFloor_eq_some, Amount.toFixed?,
    Fixed.ofInt?_eq_some]
  constructor
  · rintro ⟨quotient, ⟨positive, size⟩, signed⟩
    refine ⟨positive, ?_⟩
    rw [← signed, size]
    rfl
  · rintro ⟨positive, size⟩
    have fits : notional.toNat * 10 ^ 18 / supply.toNat < 2 ^ 128 := by
      have most := unit.le_max
      omega
    exact ⟨⟨_, fits⟩, ⟨positive, rfl⟩, size.symm⟩

/-- How a unit follows from a custody balance: the part of the balance that was
tracked before a trade, and what the trade has added to it or taken from it, per
token. Nothing is tracked of a balance of zero. -/
def Revalued (engine : Engine) (asset : Address) (before balance : Nat) (unit : Fixed) : Prop :=
  engine.tracked asset ≤ before ∧
    (balance = 0 ∧ unit.toInt = 0 ∨
      balance ≠ 0 ∧ 0 < engine.basket.totalSupply.toNat ∧ before ≤ balance + engine.tracked asset ∧
        unit.toInt = ((balance + engine.tracked asset - before) * 10 ^ 18 / engine.basket.totalSupply.toNat : Nat))

theorem unitAfter_eq_ok {engine : Engine} {asset : Address} {before : Amount} {unit : Fixed} :
    engine.unitAfter asset before = .ok unit ↔
      engine.Revalued asset before.toNat (engine.custody asset).toNat unit := by
  simp only [unitAfter, Except.bind_eq_ok, notionalFloor_eq_ok, demand_eq_ok, Amount.sub?_eq_some]
  change (∃ held : Amount, held.toNat = engine.tracked asset ∧ _) ↔ _
  constructor
  · rintro ⟨held, value, excess, apart, run⟩
    refine ⟨by omega, ?_⟩
    by_cases spent : engine.custody asset = Amount.zero
    · rw [if_pos spent] at run
      cases run
      exact Or.inl ⟨congrArg Amount.toNat spent, rfl⟩
    · rw [if_neg spent] at run
      simp only [Except.bind_eq_ok, demand_eq_ok, Amount.sub?_eq_some, unitOfNotional_eq_ok] at run
      obtain ⟨attributable, rest, positive, size⟩ := run
      have nonzero : (engine.custody asset).toNat ≠ 0 := fun zero => spent (Amount.ext zero)
      refine Or.inr ⟨nonzero, positive, by omega, ?_⟩
      rw [size, show (engine.custody asset).toNat + engine.tracked asset - before.toNat = attributable.toNat by omega]
  · rintro ⟨enough, sides⟩
    have room := before.lt_size
    have room' := (engine.custody asset).lt_size
    refine ⟨⟨engine.tracked asset, by omega⟩, rfl, ⟨before.toNat - engine.tracked asset, by omega⟩,
      (Nat.sub_add_cancel enough).symm, ?_⟩
    rcases sides with ⟨spent, zero⟩ | ⟨left, positive, covered, size⟩
    · rw [if_pos (Amount.ext spent : engine.custody asset = Amount.zero)]
      exact congrArg Except.ok (Fixed.ext zero.symm)
    · rw [if_neg fun spent => left (congrArg Amount.toNat spent)]
      simp only [Except.bind_eq_ok, demand_eq_ok, Amount.sub?_eq_some, unitOfNotional_eq_ok]
      refine ⟨⟨(engine.custody asset).toNat + engine.tracked asset - before.toNat, by omega⟩, ?_, positive, size⟩
      dsimp only
      omega

theorem Revalued.nonneg {engine : Engine} {asset : Address} {before balance : Nat} {unit : Fixed}
    (revalued : engine.Revalued asset before balance unit) : 0 ≤ unit.toInt := by
  obtain ⟨_, ⟨_, zero⟩ | ⟨_, _, _, size⟩⟩ := revalued
  · omega
  · rw [size]
    exact Int.natCast_nonneg _

theorem onLedger_eq_ok {update : Ledger.Update} {engine after : Engine} {done : Unit} :
    onBasket (Basket.onLedger update) engine = .ok done after ↔
      ∃ ledger, update engine.basket.ledger = .ok done ledger ∧
        after = { engine with basket := { engine.basket with ledger } } := by
  simp only [onBasket, Basket.onLedger, within_eq_ok]
  constructor
  · rintro ⟨_, ⟨ledger, edited, rfl⟩, rfl⟩
    exact ⟨ledger, edited, rfl⟩
  · rintro ⟨ledger, edited, rfl⟩
    exact ⟨_, ⟨ledger, edited, rfl⟩, rfl⟩

theorem updatePosition_eq_ok {engine after : Engine} {asset : Address} {before : Amount} {unit : Fixed} :
    updatePosition asset before engine = .ok unit after ↔
      engine.unitAfter asset before = .ok unit ∧
        ∃ ledger, Ledger.setDefaultPosition asset unit engine.basket.ledger = .ok () ledger ∧
          after = { engine with basket := { engine.basket with ledger } } := by
  simp only [updatePosition, bind_eq_ok, get_eq_ok, lift_eq_ok, onLedger_eq_ok, pure_eq_ok]
  constructor
  · rintro ⟨_, _, ⟨rfl, rfl⟩, unit, _, ⟨found, rfl⟩, _, _, ⟨ledger, stored, rfl⟩, rfl, rfl⟩
    exact ⟨found, ledger, stored, rfl⟩
  · rintro ⟨found, ledger, stored, rfl⟩
    exact ⟨_, _, ⟨rfl, rfl⟩, unit, _, ⟨found, rfl⟩, ⟨⟩, _, ⟨ledger, stored, rfl⟩, rfl, rfl⟩

section Storing

variable {engine : Engine} {component asset : Address} {unit new : Fixed} {ledger : Ledger} {done : Unit}
  (balances : Balances) (readable : 0 < engine.basket.ledger.multiplier.toInt) (nonneg : 0 ≤ unit.toInt)
  (stored : Ledger.setDefaultPosition component unit engine.basket.ledger = .ok done ledger)
  (distinct : component ≠ asset)

include readable nonneg stored distinct

theorem tracked_setDefaultPosition :
    tracked { engine with balances, basket := { engine.basket with ledger } } asset = engine.tracked asset := by
  have untouched := Ledger.defaultRealUnit_setDefaultPosition readable nonneg stored asset
  rw [if_neg distinct] at untouched
  unfold tracked defaultRealUnit Basket.defaultRealUnit
  dsimp only
  rw [untouched]

/-- Storing the unit of one asset leaves what is tracked of another, and so how the
unit of that follows from its balance. -/
theorem revalued_setDefaultPosition {before balance : Nat} :
    Revalued { engine with balances, basket := { engine.basket with ledger } } asset before balance new ↔
      engine.Revalued asset before balance new := by
  unfold Revalued
  rw [tracked_setDefaultPosition balances readable nonneg stored distinct]

end Storing

theorem onBalances_eq_ok {update : Balances.Update} {engine after : Engine} {done : Unit} :
    onBalances update engine = .ok done after ↔
      ∃ balances, update engine.balances = .ok done balances ∧ { engine with balances } = after := by
  unfold onBalances
  exact within_eq_ok

variable {context : CallContext} {component : Address} {direction : TradeDirection} {exchange : Exchange}
  {fill : Fill} {before : PreTrade} {trade : Trade} {engine after : Engine}

/-- The steps of a settlement that goes through: the swap is booked, the fee is
passed on, and both units are brought up to date, the component's first. -/
theorem settle_eq_ok :
    settle context component direction exchange fill before engine = .ok trade after ↔
    let holder := engine.basket.address
    let order := engine.swapOrder component direction fill.amountIn
    ∃ debited credited fee paid newComponentUnit component' newReserveUnit reserve',
      Balances.debit holder order.assetIn fill.amountIn engine.balances = .ok () debited ∧
      Balances.credit holder order.assetOut fill.amountOut debited = .ok () credited ∧
      engine.registry.feeAmount engine.settings.module tradeFeeIndex fill.amountOut = .ok fee ∧
      (0 < fee.toNat ∧ Balances.transfer order.assetOut holder engine.registry.feeRecipient fee credited =
          .ok () paid ∨
        fee.toNat = 0 ∧ paid = credited) ∧
      { engine with balances := paid }.unitAfter component before.component = .ok newComponentUnit ∧
      Ledger.setDefaultPosition component newComponentUnit engine.basket.ledger = .ok () component' ∧
      { engine with balances := paid, basket := { engine.basket with ledger := component' } }.unitAfter
        engine.reserve before.reserve = .ok newReserveUnit ∧
      Ledger.setDefaultPosition engine.reserve newReserveUnit component' = .ok () reserve' ∧
      trade =
        { component, counterAsset := engine.reserve, direction, exchange, amountSold := fill.amountIn
          amountBought := fill.amountOut.monus fee, protocolFee := fee, newComponentUnit, newReserveUnit
          timestamp := context.timestamp } ∧
      after = ({ engine with balances := paid, basket := { engine.basket with ledger := reserve' } }.updateInfo
        component ({ · with lastTradeTimestamp := context.timestamp })).record (.tradeExecuted trade) := by
  have free : ∀ {fee : Amount}, ¬Amount.zero < fee ↔ fee.toNat = 0 := Nat.not_lt.trans Nat.le_zero
  simp only [settle, bind_eq_ok, get_eq_ok, onBalances_eq_ok, ofExcept_eq_ok, Except.mapError_eq_ok]
  constructor
  · rintro ⟨_, _, ⟨rfl, rfl⟩, _, _, ⟨debited, debit, rfl⟩, _, _, ⟨credited, credit, rfl⟩, fee, _,
      ⟨charged, rfl⟩, run⟩
    obtain ⟨_, transferred, run⟩ := when_bind_eq_ok.mp run
    simp only [bind_eq_ok, modify_eq_ok, pure_eq_ok, updatePosition_eq_ok, onBalances_eq_ok, free] at transferred run
    obtain ⟨newComponentUnit, _, first, newReserveUnit, _, second, _, _, rfl, _, _, rfl, rfl, rfl⟩ := run
    obtain ⟨componentUnit, component', componentStored, rfl⟩ := first
    obtain ⟨reserveUnit, reserve', reserveStored, rfl⟩ := second
    rcases transferred with ⟨some, paid, transfer, rfl⟩ | ⟨none, rfl⟩
    · exact ⟨debited, credited, fee, paid, newComponentUnit, component', newReserveUnit, reserve', debit, credit,
        charged, Or.inl ⟨some, transfer⟩, componentUnit, componentStored, reserveUnit, reserveStored, rfl, rfl⟩
    · exact ⟨debited, credited, fee, credited, newComponentUnit, component', newReserveUnit, reserve', debit, credit,
        charged, Or.inr ⟨none, rfl⟩, componentUnit, componentStored, reserveUnit, reserveStored, rfl, rfl⟩
  · rintro ⟨debited, credited, fee, paid, newComponentUnit, component', newReserveUnit, reserve', debit, credit,
      charged, transferred, componentUnit, componentStored, reserveUnit, reserveStored, rfl, rfl⟩
    refine ⟨_, _, ⟨rfl, rfl⟩, ⟨⟩, _, ⟨debited, debit, rfl⟩, ⟨⟩, _, ⟨credited, credit, rfl⟩, fee, _,
      ⟨charged, rfl⟩, when_bind_eq_ok.mpr ⟨{ engine with balances := paid }, ?_, ?_⟩⟩
    · simp only [onBalances_eq_ok, free]
      rcases transferred with ⟨some, transfer⟩ | ⟨none, rfl⟩
      · exact Or.inl ⟨some, paid, transfer, rfl⟩
      · exact Or.inr ⟨none, rfl⟩
    · simp only [bind_eq_ok, modify_eq_ok, pure_eq_ok, updatePosition_eq_ok]
      exact ⟨newComponentUnit, _, ⟨componentUnit, component', componentStored, rfl⟩, newReserveUnit, _,
        ⟨reserveUnit, reserve', reserveStored, rfl⟩, ⟨⟩, _, rfl, ⟨⟩, _, rfl, rfl, rfl⟩

theorem protocolFee_le {registry : Registry} {module : Address} {index : UInt64} {quantity fee : Amount}
    (bounded : (registry.moduleFee module index).toNat ≤ 10 ^ 18)
    (run : registry.feeAmount module index quantity = .ok fee) : fee.toNat ≤ quantity.toNat := by
  simp only [Registry.feeAmount, demand_eq_ok, Amount.preciseMul, Amount.mulDivFloor_eq_some] at run
  rw [run.2]
  exact Nat.div_le_of_le_mul ((Nat.mul_le_mul_left _ bounded).trans (Nat.mul_comm _ _).le)

theorem info_updateInfo (engine : Engine) (asset : Address) (change : AssetInfo → AssetInfo) :
    (engine.updateInfo asset change).info asset = change (engine.info asset) :=
  Std.ExtTreeMap.getD_insert_self

theorem info_updateInfo_ne {asset other : Address} (distinct : asset ≠ other) (engine : Engine)
    (change : AssetInfo → AssetInfo) : (engine.updateInfo asset change).info other = engine.info other := by
  unfold updateInfo info
  rw [Std.ExtTreeMap.getD_insert, if_neg fun same => distinct (Std.LawfulEqCmp.compare_eq_iff_eq.mp same)]

theorem info_updateInfo_ite (engine : Engine) (changed asset : Address) (change : AssetInfo → AssetInfo) :
    (engine.updateInfo changed change).info asset =
      if changed = asset then change (engine.info asset) else engine.info asset := by
  by_cases same : changed = asset
  · rw [if_pos same, same, info_updateInfo]
  · rw [if_neg same, info_updateInfo_ne same]

theorem info_record (engine : Engine) (event : Event) (asset : Address) :
    (engine.record event).info asset = engine.info asset := rfl

theorem targetUnit_congr {engine after : Engine} {component : Address}
    (info : (after.info component).targetUnit = (engine.info component).targetUnit)
    (multiplier : after.basket.ledger.multiplier = engine.basket.ledger.multiplier)
    (snapshot : after.snapshot = engine.snapshot) :
    after.targetUnit component = engine.targetUnit component := by
  unfold targetUnit
  rw [info, multiplier, snapshot]

/-- The asset that a trade of a component gives away. -/
def soldAsset (engine : Engine) (component : Address) : TradeDirection → Address
  | .sell => component
  | .buy => engine.reserve

def boughtAsset (engine : Engine) (component : Address) : TradeDirection → Address
  | .sell => engine.reserve
  | .buy => component

theorem swapOrder_assetIn (engine : Engine) (component : Address) (direction : TradeDirection)
    (amount : Amount) : (engine.swapOrder component direction amount).assetIn =
      engine.soldAsset component direction := by
  cases direction <;> rfl

theorem swapOrder_assetOut (engine : Engine) (component : Address) (direction : TradeDirection)
    (amount : Amount) : (engine.swapOrder component direction amount).assetOut =
      engine.boughtAsset component direction := by
  cases direction <;> rfl

theorem soldAsset_ne_boughtAsset (distinct : component ≠ engine.reserve) (direction : TradeDirection) :
    engine.soldAsset component direction ≠ engine.boughtAsset component direction := by
  cases direction with
  | sell => exact distinct
  | buy => exact distinct.symm

section Booking

variable {balances debited credited paid : Balances} {holder recipient sold bought : Address}
  {amountIn amountOut fee : Amount}

/-- What a holder owns of an asset once a fill has been booked and the fee has been
passed on. A fee to oneself changes nothing. -/
theorem booked_balanceOf (debit : Balances.debit holder sold amountIn balances = .ok () debited)
    (credit : Balances.credit holder bought amountOut debited = .ok () credited)
    (passed : 0 < fee.toNat ∧ Balances.transfer bought holder recipient fee credited = .ok () paid ∨
      fee.toNat = 0 ∧ paid = credited) (asset : Address) :
    ((paid.balanceOf holder asset).toNat + (if sold = asset then amountIn.toNat else 0) +
        if bought = asset ∧ recipient ≠ holder then fee.toNat else 0) =
      (balances.balanceOf holder asset).toNat + if bought = asset then amountOut.toNat else 0 := by
  have taken := Balances.balanceOf_debit debit holder asset
  have given := Balances.balanceOf_credit credit holder asset
  simp only [true_and] at taken given
  rcases passed with ⟨_, transfer⟩ | ⟨free, rfl⟩
  · have moved := Balances.balanceOf_transfer transfer holder asset
    simp only [true_and] at moved
    by_cases self : recipient = holder
    · simp only [self, true_and, ne_eq, not_true, and_false, if_false] at moved ⊢
      omega
    · simp only [self, false_and, ne_eq, not_false_iff, and_true, if_false] at moved ⊢
      omega
  · rw [free, ite_self]
    omega

theorem booked_total (debit : Balances.debit holder sold amountIn balances = .ok () debited)
    (credit : Balances.credit holder bought amountOut debited = .ok () credited)
    (passed : 0 < fee.toNat ∧ Balances.transfer bought holder recipient fee credited = .ok () paid ∨
      fee.toNat = 0 ∧ paid = credited) (asset : Address) :
    (paid.total asset + if sold = asset then amountIn.toNat else 0) =
      balances.total asset + if bought = asset then amountOut.toNat else 0 := by
  have taken := Balances.total_debit debit asset
  have given := Balances.total_credit credit asset
  rcases passed with ⟨_, transfer⟩ | ⟨_, rfl⟩
  · have moved := Balances.total_transfer transfer asset
    omega
  · omega

end Booking

/-- What a settlement leaves: balances moved by the fill and the fee, and the two
units that follow from them, as far as the ledger can store them. All else that
decides a holding is as it was. -/
structure Settled (engine : Engine) (component : Address) (direction : TradeDirection) (fill : Fill)
    (trade : Trade) (after : Engine) : Prop where
  component_eq : trade.component = component
  counterAsset_eq : trade.counterAsset = engine.reserve
  direction_eq : trade.direction = direction
  sold : trade.amountSold = fill.amountIn
  bought : trade.amountBought.toNat + trade.protocolFee.toNat = fill.amountOut.toNat
  custody : ∀ asset, ((after.custody asset).toNat +
      (if engine.soldAsset component direction = asset then fill.amountIn.toNat else 0) +
      if engine.boughtAsset component direction = asset ∧
        engine.registry.feeRecipient ≠ engine.basket.address then trade.protocolFee.toNat else 0) =
    (engine.custody asset).toNat +
      if engine.boughtAsset component direction = asset then fill.amountOut.toNat else 0
  total : ∀ asset, (after.balances.total asset +
      if engine.soldAsset component direction = asset then fill.amountIn.toNat else 0) =
    engine.balances.total asset +
      if engine.boughtAsset component direction = asset then fill.amountOut.toNat else 0
  component_revalued : engine.Revalued component (engine.custody component).toNat
    (after.custody component).toNat trade.newComponentUnit
  reserve_revalued : engine.Revalued engine.reserve (engine.custody engine.reserve).toNat
    (after.custody engine.reserve).toNat trade.newReserveUnit
  unit : ∀ asset, (after.defaultRealUnit asset).toInt =
    if component = asset then
      Ledger.readBack engine.basket.ledger.multiplier.toInt trade.newComponentUnit.toInt
    else if engine.reserve = asset then
      Ledger.readBack engine.basket.ledger.multiplier.toInt trade.newReserveUnit.toInt
    else (engine.defaultRealUnit asset).toInt
  reserve : after.reserve = engine.reserve
  supply : after.basket.totalSupply = engine.basket.totalSupply
  targetUnit : after.targetUnit component = engine.targetUnit component
  info : after.info component = { engine.info component with lastTradeTimestamp := trade.timestamp }
  events : after.events = engine.events ++ [.tradeExecuted trade]

/-- All that a settlement changes in the records of its component is the time. -/
theorem settle_info (run : settle context component direction exchange fill before engine = .ok trade after) :
    after.info component = { engine.info component with lastTradeTimestamp := trade.timestamp } := by
  obtain ⟨_, _, _, _, _, _, _, _, _, _, _, _, _, _, _, _, rfl, rfl⟩ := settle_eq_ok.mp run
  rw [info_record, info_updateInfo]
  rfl

theorem settle_timestamp (run : settle context component direction exchange fill before engine = .ok trade after) :
    trade.timestamp = context.timestamp := by
  obtain ⟨_, _, _, _, _, _, _, _, _, _, _, _, _, _, _, _, rfl, _⟩ := settle_eq_ok.mp run
  rfl

theorem settle_info_ne {asset : Address} (distinct : component ≠ asset)
    (run : settle context component direction exchange fill before engine = .ok trade after) :
    after.info asset = engine.info asset := by
  obtain ⟨_, _, _, _, _, _, _, _, _, _, _, _, _, _, _, _, _, rfl⟩ := settle_eq_ok.mp run
  rw [info_record, info_updateInfo_ne distinct]
  rfl

theorem settle_settled (sound : engine.Sound) (distinct : component ≠ engine.reserve)
    (run : settle context component direction exchange fill (engine.preTrade component) engine = .ok trade after) :
    Settled engine component direction fill trade after := by
  obtain ⟨debited, credited, fee, paid, newComponentUnit, component', newReserveUnit, reserve', debit, credit,
    charged, transferred, componentUnit, componentStored, reserveUnit, reserveStored, rfl, rfl⟩ := settle_eq_ok.mp run
  have info := settle_info run
  have fee_le := protocolFee_le (sound.fee_le _ _) charged
  have first := unitAfter_eq_ok.mp componentUnit
  have second := unitAfter_eq_ok.mp reserveUnit
  have units := Ledger.defaultRealUnit_setDefaultPosition sound.readable first.nonneg componentStored
  have multiplier := Ledger.multiplier_setDefaultPosition componentStored
  have units' := Ledger.defaultRealUnit_setDefaultPosition (by rw [multiplier]; exact sound.readable)
    second.nonneg reserveStored
  rw [multiplier] at units'
  rw [swapOrder_assetIn] at debit
  rw [swapOrder_assetOut] at credit transferred
  refine ⟨rfl, rfl, rfl, rfl, Nat.sub_add_cancel fee_le, fun asset => ?_, fun asset => ?_, first, ?_,
    fun asset => ?_, rfl, rfl, ?_, info, rfl⟩
  · exact booked_balanceOf debit credit transferred asset
  · exact booked_total debit credit transferred asset
  · exact (revalued_setDefaultPosition paid sound.readable first.nonneg componentStored distinct).mp second
  · change (reserve'.defaultRealUnit asset).toInt = _
    rw [units' asset, units asset]
    by_cases isReserve : engine.reserve = asset
    · rw [if_pos isReserve, if_pos isReserve, if_neg fun same => distinct (same.trans isReserve.symm)]
    · rw [if_neg isReserve, if_neg isReserve]
      rfl
  · have kept := (Ledger.multiplier_setDefaultPosition reserveStored).trans multiplier
    exact targetUnit_congr (by rw [info]) kept rfl

theorem settle_venues (run : settle context component direction exchange fill before engine = .ok trade after) :
    after.venues = engine.venues := by
  obtain ⟨_, _, _, _, _, _, _, _, _, _, _, _, _, _, _, _, _, rfl⟩ := settle_eq_ok.mp run
  rfl

/-- A swap on the venues and a settlement after it. -/
theorem settle_after_swap {venues : Venues} (sound : engine.Sound)
    (listed : component ∈ engine.rebalanceComponents)
    (run : settle context component direction exchange fill (engine.preTrade component) { engine with venues } =
      .ok trade after) :
    Settled engine component direction fill trade after ∧ after.venues = venues := by
  have settled := settle_settled (sound.withVenues venues) (sound.component_ne_reserve listed) run
  exact ⟨⟨settled.component_eq, settled.counterAsset_eq, settled.direction_eq, settled.sold, settled.bought,
    settled.custody, settled.total, settled.component_revalued, settled.reserve_revalued, settled.unit,
    settled.reserve, settled.supply, settled.targetUnit, settled.info, settled.events⟩, settle_venues run⟩

/-- A plan says what there is to trade, and what the venue of the component asks for it. -/
theorem planTrade_iff {plan : TradePlan} :
    engine.planTrade component = .ok plan ↔
      plan.component = component ∧ plan.exchange = (engine.info component).exchange ∧ plan.exchange ≠ .unset ∧
        engine.tradeSize component = .ok (plan.direction, plan.quantity) ∧
        engine.quote plan.exchange (engine.swapOrder component plan.direction plan.quantity) = .ok plan.quote := by
  simp only [planTrade, Except.guard_bind_eq_ok, Except.bind_eq_ok]
  constructor
  · rintro ⟨routed, ⟨direction, quantity⟩, size, quoted, priced, done⟩
    cases done
    exact ⟨rfl, rfl, routed, size, priced⟩
  · obtain ⟨component', direction, quantity, exchange, quoted⟩ := plan
    dsimp only
    rintro ⟨rfl, rfl, routed, size, priced⟩
    exact ⟨routed, (direction, quantity), size, quoted, priced, rfl⟩

theorem planTrade_eq_ok {plan : TradePlan} (run : engine.planTrade component = .ok plan) :
    engine.tradeSize component = .ok (plan.direction, plan.quantity) :=
  (planTrade_iff.mp run).2.2.2.1

/-- The steps of a trade that goes through: it is permitted, planned, swapped within
the bound of its own quote, and settled on the venues that the swap has left. -/
theorem trade_iff :
    Engine.trade context component engine = .ok trade after ↔
      engine.Permits context component ∧ engine.Tradable component context.timestamp ∧
      ∃ plan bound fill venues,
        engine.planTrade component = .ok plan ∧
        engine.slippageBound (engine.swapOrder component plan.direction plan.quantity).kind plan.quote
          (engine.custody engine.reserve) = .ok bound ∧
        Venues.execute plan.exchange (engine.swapOrder component plan.direction plan.quantity) bound
          engine.venues = .ok fill venues ∧
        settle context component plan.direction plan.exchange fill (engine.preTrade component)
          { engine with venues } = .ok trade after := by
  unfold Engine.trade
  rw [atomically_eq_ok, guarded_eq_ok]
  simp only [bind_eq_ok, get_eq_ok, lift_eq_ok, swap, within_eq_ok, requireTradable_eq_ok]
  constructor
  · rintro ⟨permits, _, _, ⟨tradable, rfl⟩, _, _, ⟨rfl, rfl⟩, plan, _, ⟨planned, rfl⟩, bound, _, ⟨bounded, rfl⟩,
      fill, _, ⟨venues, swapped, rfl⟩, booked⟩
    exact ⟨permits, tradable, plan, bound, fill, venues, planned, bounded, swapped, booked⟩
  · rintro ⟨permits, tradable, plan, bound, fill, venues, planned, bounded, swapped, booked⟩
    exact ⟨permits, ⟨⟩, _, ⟨tradable, rfl⟩, _, _, ⟨rfl, rfl⟩, plan, _, ⟨planned, rfl⟩, bound, _, ⟨bounded, rfl⟩,
      fill, _, ⟨venues, swapped, rfl⟩, booked⟩

/-- A trade that goes through swaps the quantity that its size asks for. -/
theorem trade_eq_ok (sound : engine.Sound) (run : Engine.trade context component engine = .ok trade after) :
    ∃ direction quantity exchange bound fill,
      component ∈ engine.rebalanceComponents ∧
      engine.tradeSize component = .ok (direction, quantity) ∧
      Venues.execute exchange (engine.swapOrder component direction quantity) bound engine.venues =
        .ok fill after.venues ∧
      Settled engine component direction fill trade after := by
  obtain ⟨permits, _, plan, bound, fill, venues, planned, _, swapped, booked⟩ := trade_iff.mp run
  obtain ⟨settled, rfl⟩ := settle_after_swap sound permits.listed booked
  exact ⟨plan.direction, plan.quantity, plan.exchange, bound, fill, permits.listed, planTrade_eq_ok planned,
    swapped, settled⟩

/-- The steps of a trade of the remaining reserve that goes through: nothing is left to
sell, all of the reserve is swapped, and what is bought is within the limit both as quoted
and as filled. -/
theorem tradeRemainingReserve_iff :
    Engine.tradeRemainingReserve context component engine = .ok trade after ↔
      engine.Permits context component ∧ engine.noTokensToSell = .ok true ∧ component ≠ engine.reserve ∧
      engine.Tradable component context.timestamp ∧ engine.custody engine.reserve ≠ Amount.zero ∧
      let exchange := (engine.info component).exchange
      let order : SwapOrder := ⟨engine.reserve, component, engine.custody engine.reserve, .exactInput⟩
      ∃ quoted bound fill venues,
        engine.quote exchange order = .ok quoted ∧
        quoted.amountOut.toNat ≤ (engine.info component).maxSize.toNat ∧
        engine.slippageBound .exactInput quoted (engine.custody engine.reserve) = .ok bound ∧
        Venues.execute exchange order bound engine.venues = .ok fill venues ∧
        fill.amountOut.toNat ≤ (engine.info component).maxSize.toNat ∧
        settle context component .buy exchange fill (engine.preTrade component) { engine with venues } =
          .ok trade after := by
  unfold Engine.tradeRemainingReserve
  rw [atomically_eq_ok, guarded_eq_ok]
  simp only [bind_eq_ok, get_eq_ok, lift_eq_ok, swap, within_eq_ok, guard_bind_eq_ok, requireTradable_eq_ok,
    Bool.not_eq_true', Bool.not_eq_false, Amount.lt_def, Nat.not_lt]
  constructor
  · rintro ⟨permits, _, _, ⟨rfl, rfl⟩, sold, _, ⟨answered, rfl⟩, rfl, distinct, _, _, ⟨tradable, rfl⟩, left, quoted, _,
      ⟨priced, rfl⟩, limited, bound, _, ⟨bounded, rfl⟩, fill, _, ⟨venues, swapped, rfl⟩, limited', booked⟩
    exact ⟨permits, answered, distinct, tradable, left, quoted, bound, fill, venues, priced, limited, bounded, swapped,
      limited', booked⟩
  · rintro ⟨permits, answered, distinct, tradable, left, quoted, bound, fill, venues, priced, limited, bounded, swapped,
      limited', booked⟩
    exact ⟨permits, _, _, ⟨rfl, rfl⟩, true, _, ⟨answered, rfl⟩, rfl, distinct, ⟨⟩, _, ⟨tradable, rfl⟩, left, quoted, _,
      ⟨priced, rfl⟩, limited, bound, _, ⟨bounded, rfl⟩, fill, _, ⟨venues, swapped, rfl⟩, limited', booked⟩

/-- A trade of the remaining reserve swaps all of it. -/
theorem tradeRemainingReserve_eq_ok (sound : engine.Sound)
    (run : Engine.tradeRemainingReserve context component engine = .ok trade after) :
    ∃ exchange bound fill,
      component ∈ engine.rebalanceComponents ∧
      Venues.execute exchange ⟨engine.reserve, component, engine.custody engine.reserve, .exactInput⟩ bound
        engine.venues = .ok fill after.venues ∧
      Settled engine component .buy fill trade after := by
  obtain ⟨permits, _, _, _, _, quoted, bound, fill, venues, _, _, _, swapped, _, booked⟩ :=
    tradeRemainingReserve_iff.mp run
  obtain ⟨settled, rfl⟩ := settle_after_swap sound permits.listed booked
  exact ⟨_, bound, fill, permits.listed, swapped, settled⟩

end Engine

end IndexBasket
