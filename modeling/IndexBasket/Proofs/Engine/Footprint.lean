import IndexBasket.Proofs.Engine.Pacing
import IndexBasket.Proofs.Engine.Refusal
import IndexBasket.Proofs.Ledger.Consistency

namespace IndexBasket

open IndexBasket.Action

/-- Ledgers that differ in the default positions of some assets at most. All others are
listed in the same order. -/
structure Ledger.SameOutside (assets : List Address) (before after : Ledger) : Prop where
  multiplier : after.multiplier = before.multiplier
  external : after.external = before.external
  defaultUnits : ∀ asset ∉ assets, after.defaultUnits[asset]? = before.defaultUnits[asset]?
  components : after.components.filter (· ∉ assets) = before.components.filter (· ∉ assets)

namespace Ledger.SameOutside

variable {assets more : List Address} {before between after : Ledger}

theorem trans (first : SameOutside assets before between) (second : SameOutside assets between after) :
    SameOutside assets before after where
  multiplier := second.multiplier.trans first.multiplier
  external := second.external.trans first.external
  defaultUnits asset outside := (second.defaultUnits asset outside).trans (first.defaultUnits asset outside)
  components := second.components.trans first.components

theorem mono (same : SameOutside assets before after) (within : assets ⊆ more) : SameOutside more before after where
  multiplier := same.multiplier
  external := same.external
  defaultUnits asset outside := same.defaultUnits asset fun member => outside (within member)
  components := by
    have narrowed : ∀ listed : List Address,
        listed.filter (· ∉ more) = (listed.filter (· ∉ assets)).filter (· ∉ more) := by
      intro listed
      rw [List.filter_filter]
      refine List.filter_congr fun asset _ => ?_
      by_cases member : asset ∈ assets
      · simp [within member]
      · simp [member]
    rw [narrowed, narrowed before.components, same.components]

theorem defaultRealUnit (same : SameOutside assets before after) {asset : Address} (outside : asset ∉ assets) :
    after.defaultRealUnit asset = before.defaultRealUnit asset := by
  unfold Ledger.defaultRealUnit toReal
  rw [same.defaultUnits asset outside, same.multiplier]

end Ledger.SameOutside

theorem Ledger.sameOutside_setDefaultPosition {ledger after : Ledger} {component : Address} {unit : Fixed}
    {done : Unit} (run : setDefaultPosition component unit ledger = .ok done after) :
    SameOutside [component] ledger after := by
  have multiplier := multiplier_setDefaultPosition run
  obtain ⟨virtualUnit, components, _, rfl, listing⟩ := setDefaultPosition_cases run
  refine ⟨multiplier, external_withDefault _ _ _, fun asset outside => ?_, ?_⟩
  · rw [getElem?_withDefault, if_neg fun same => outside (List.mem_singleton.mpr same.symm)]
  · rw [components_withDefault]
    dsimp only
    rcases listing with ⟨_, _, _, rfl⟩ | ⟨_, _, _, rfl⟩ | ⟨rfl, _⟩
    · simp
    · rw [← List.erase_filter, List.erase_of_not_mem (by simp)]
    · rfl

/-- Balances that differ at some holders and in some assets at most. -/
structure Balances.SameOutside (holders assets : List Address) (before after : Balances) : Prop where
  holder : ∀ holder ∉ holders, after.byHolder[holder]? = before.byHolder[holder]?
  asset : ∀ holder, ∀ asset ∉ assets,
    (after.byHolder.getD holder ∅)[asset]? = (before.byHolder.getD holder ∅)[asset]?

namespace Balances

variable {holders assets : List Address} {balances between after : Balances} {holder asset giver taker : Address}
  {amount : Amount} {done : Unit}

theorem SameOutside.refl (balances : Balances) : SameOutside holders assets balances balances :=
  ⟨fun _ _ => rfl, fun _ _ _ => rfl⟩

theorem SameOutside.trans (first : SameOutside holders assets balances between)
    (second : SameOutside holders assets between after) : SameOutside holders assets balances after where
  holder holder outside := (second.holder holder outside).trans (first.holder holder outside)
  asset holder asset outside := (second.asset holder asset outside).trans (first.asset holder asset outside)

theorem SameOutside.balanceOf (same : SameOutside holders assets balances after) (outside : asset ∉ assets)
    (holder : Address) : after.balanceOf holder asset = balances.balanceOf holder asset := by
  have read : ∀ table : AddressMap Amount, table.getD asset Amount.zero = table[asset]?.getD Amount.zero :=
    fun _ => Std.ExtTreeMap.getD_eq_getD_getElem?
  rw [balanceOf_eq_getD, balanceOf_eq_getD, read, read, same.asset holder asset outside]

theorem getElem?_withBalance_ne {other : Address} (distinct : holder ≠ other) (balances : Balances)
    (asset : Address) (amount : Amount) :
    (balances.withBalance holder asset amount).byHolder[other]? = balances.byHolder[other]? := by
  have elsewhere : ¬compare holder other = .eq := fun same => distinct (Std.LawfulEqCmp.compare_eq_iff_eq.mp same)
  unfold withBalance
  split
  · split
    · dsimp only
      split
      · rw [Std.ExtTreeMap.getElem?_erase, if_neg elsewhere]
      · rw [Std.ExtTreeMap.getElem?_insert, if_neg elsewhere]
    · rfl
  · rw [Std.ExtTreeMap.getElem?_insert, if_neg elsewhere]

theorem sameOutside_withBalance (inHolders : holder ∈ holders) (inAssets : asset ∈ assets) (balances : Balances)
    (amount : Amount) : SameOutside holders assets balances (balances.withBalance holder asset amount) := by
  refine ⟨fun other outside => ?_, fun other asset' outside => ?_⟩
  · refine getElem?_withBalance_ne ?_ balances asset amount
    rintro rfl
    exact outside inHolders
  · have elsewhere : ¬compare asset asset' = .eq := fun same =>
      outside (Std.LawfulEqCmp.compare_eq_iff_eq.mp same ▸ inAssets)
    rw [getD_withBalance]
    split
    · rename_i same
      split
      · rw [Std.ExtTreeMap.getElem?_erase, if_neg elsewhere, same]
      · rw [Std.ExtTreeMap.getElem?_insert, if_neg elsewhere, same]
    · rfl

theorem sameOutside_credit (inHolders : holder ∈ holders) (inAssets : asset ∈ assets)
    (run : credit holder asset amount balances = .ok done after) : SameOutside holders assets balances after := by
  obtain ⟨updated, _, rfl⟩ := credit_eq_ok.mp run
  exact sameOutside_withBalance inHolders inAssets balances updated

theorem sameOutside_debit (inHolders : holder ∈ holders) (inAssets : asset ∈ assets)
    (run : debit holder asset amount balances = .ok done after) : SameOutside holders assets balances after := by
  obtain ⟨remaining, _, rfl⟩ := debit_eq_ok.mp run
  exact sameOutside_withBalance inHolders inAssets balances remaining

theorem sameOutside_transfer (gives : giver ∈ holders) (takes : taker ∈ holders) (inAssets : asset ∈ assets)
    (run : transfer asset giver taker amount balances = .ok done after) :
    SameOutside holders assets balances after := by
  rcases transfer_eq_ok.mp run with ⟨_, _, rfl⟩ | ⟨_, between, debited, credited⟩
  · exact .refl _
  · exact (sameOutside_debit gives inAssets debited).trans (sameOutside_credit takes inAssets credited)

/-- A fill that is booked, and the fee of it that is passed on. -/
theorem sameOutside_booked {debited credited paid : Balances} {recipient sold bought : Address}
    {amountIn amountOut fee : Amount} (gives : sold ∈ assets) (takes : bought ∈ assets)
    (debit : Balances.debit holder sold amountIn balances = .ok () debited)
    (credit : Balances.credit holder bought amountOut debited = .ok () credited)
    (passed : 0 < fee.toNat ∧ Balances.transfer bought holder recipient fee credited = .ok () paid ∨
      fee.toNat = 0 ∧ paid = credited) : SameOutside [holder, recipient] assets balances paid := by
  have holds : holder ∈ [holder, recipient] := List.mem_cons_self ..
  have receives : recipient ∈ [holder, recipient] := List.mem_cons_of_mem _ (List.mem_cons_self ..)
  have swapped := (sameOutside_debit holds gives debit).trans (sameOutside_credit holds takes credit)
  rcases passed with ⟨_, transfer⟩ | ⟨_, rfl⟩
  · exact swapped.trans (sameOutside_transfer holds receives takes transfer)
  · exact swapped

end Balances

/-- A venue before and after a swap of a pair. A router has new pools for the pair at
most, and a venue with fixed rates has one more swap in its record. -/
inductive Venue.Swapped (key : AssetPair) : Venue → Venue → Prop
  | pair {router after : PairRouter} (elsewhere : ∀ other ≠ key, after.pools[other]? = router.pools[other]?) :
      Swapped key (pair router) (pair after)
  | split {router after : SplitRouter} (elsewhere : ∀ other ≠ key, after.pools[other]? = router.pools[other]?) :
      Swapped key (split router) (split after)
  | fixedRate (venue : FixedRateVenue) (swap : RecordedSwap) :
      Swapped key (fixedRate venue) (fixedRate { venue with swaps := venue.swaps ++ [swap] })

theorem Venue.swapped_execute {venue after : Venue} {order : SwapOrder} {bound : Amount} {fill : Fill}
    (run : execute order bound venue = .ok fill after) :
    venue.Swapped (.unordered order.assetIn order.assetOut) after := by
  rcases execute_eq_ok run with ⟨_, _, rfl, rfl, swapped⟩ | ⟨_, _, rfl, rfl, swapped⟩ | ⟨_, _, rfl, rfl, swapped⟩
  · obtain ⟨_, _, _, _, _, _, rfl⟩ := PairRouter.execute_eq_ok.mp swapped
    refine .pair fun other distinct => ?_
    rw [Std.ExtTreeMap.getElem?_insert, if_neg fun same => distinct (Std.LawfulEqCmp.eq_of_compare same).symm]
  · obtain ⟨_, _, _, _, _, _, rfl⟩ := SplitRouter.execute_eq_ok.mp swapped
    refine .split fun other distinct => ?_
    rw [Std.ExtTreeMap.getElem?_insert, if_neg fun same => distinct (Std.LawfulEqCmp.eq_of_compare same).symm]
  · obtain ⟨_, _, _, _, rfl⟩ := FixedRateVenue.execute_eq_ok.mp swapped
    exact .fixedRate _ _

namespace Engine

/-- All that a trade of a component touches: the default positions of the component and
the reserve, what the basket and the recipient of the fee own of these two, the time of the
last trade, the pools of the pair or the record of swaps at the exchange of the component,
and the events, to which the trade is added. -/
structure TradeFootprint (engine : Engine) (context : CallContext) (component : Address) (trade : Trade)
    (after : Engine) : Prop where
  elsewhere : after = { engine with
    basket := { engine.basket with ledger := after.basket.ledger }
    balances := after.balances
    venues := after.venues
    infos := after.infos
    events := after.events }
  ledger : Ledger.SameOutside [component, engine.reserve] engine.basket.ledger after.basket.ledger
  balances : Balances.SameOutside [engine.basket.address, engine.registry.feeRecipient] [component, engine.reserve]
    engine.balances after.balances
  recorded : engine.infos[component]? = some (engine.info component)
  infos : after.infos =
    engine.infos.insert component { engine.info component with lastTradeTimestamp := context.timestamp }
  exchanges : ∀ exchange ≠ (engine.info component).exchange,
    after.venues.byExchange[exchange]? = engine.venues.byExchange[exchange]?
  venue : ∃ venue left, engine.venues.byExchange[(engine.info component).exchange]? = some venue ∧
    after.venues.byExchange[(engine.info component).exchange]? = some left ∧
    venue.Swapped (.unordered component engine.reserve) left
  events : after.events = engine.events ++ [.tradeExecuted trade]

variable {engine after : Engine} {context : CallContext} {component : Address} {direction : TradeDirection}
  {exchange : Exchange} {fill : Fill} {before : PreTrade} {trade : Trade} {order : SwapOrder} {bound : Amount}
  {venues : Venues}

/-- A component with a route has a record of its own. -/
theorem getElem?_infos (routed : (engine.info component).exchange ≠ .unset) :
    engine.infos[component]? = some (engine.info component) := by
  have read : engine.info component = engine.infos[component]?.getD {} := Std.ExtTreeMap.getD_eq_getD_getElem?
  cases found : engine.infos[component]? with
  | some info => rw [read, found, Option.getD_some]
  | none =>
    rw [read, found] at routed
    exact absurd rfl routed

theorem swapOrder_key (engine : Engine) (component : Address) (direction : TradeDirection) (amount : Amount) :
    AssetPair.unordered (engine.swapOrder component direction amount).assetIn
      (engine.swapOrder component direction amount).assetOut = .unordered component engine.reserve := by
  cases direction with
  | sell => rfl
  | buy => exact AssetPair.unordered_comm _ _

/-- A swap of the pair and its settlement touch what belongs to the pair. -/
theorem footprint_settle (routed : (engine.info component).exchange ≠ .unset)
    (key : AssetPair.unordered order.assetIn order.assetOut = .unordered component engine.reserve)
    (swapped : Venues.execute (engine.info component).exchange order bound engine.venues = .ok fill venues)
    (booked : settle context component direction exchange fill before { engine with venues } = .ok trade after) :
    engine.TradeFootprint context component trade after := by
  obtain ⟨venue, left, found, executed, rfl⟩ := Venues.execute_eq_ok.mp swapped
  obtain ⟨debited, credited, fee, paid, _, component', _, reserve', debit, credit, _, transferred, _, first, _,
    second, _, rfl⟩ := settle_eq_ok.mp booked
  have touched := Venue.swapped_execute executed
  rw [key] at touched
  rw [swapOrder_assetIn] at debit
  rw [swapOrder_assetOut] at credit transferred
  have sold : engine.soldAsset component direction ∈ [component, engine.reserve] := by
    cases direction <;> simp [soldAsset]
  have bought : engine.boughtAsset component direction ∈ [component, engine.reserve] := by
    cases direction <;> simp [boughtAsset]
  refine ⟨rfl, ?_, ?_, getElem?_infos routed, rfl, fun other distinct => ?_, ⟨venue, left, found, ?_, touched⟩, rfl⟩
  · have both : [component] ⊆ [component, engine.reserve] ∧ [engine.reserve] ⊆ [component, engine.reserve] := by simp
    have stored := (Ledger.sameOutside_setDefaultPosition first).mono both.1
    exact stored.trans ((Ledger.sameOutside_setDefaultPosition second).mono both.2)
  · exact Balances.sameOutside_booked sold bought debit credit transferred
  · exact Std.ExtTreeMap.getElem?_insert.trans (if_neg fun same => distinct (Std.LawfulEqCmp.eq_of_compare same).symm)
  · exact Std.ExtTreeMap.getElem?_insert_self

theorem Command.Trades.footprint {command : Command} (trades : command.Trades component)
    (run : command.perform context engine = .ok (.traded trade) after) :
    engine.TradeFootprint context component trade after := by
  cases trades with
  | trade =>
    obtain ⟨_, run, ⟨⟩⟩ := map_eq_ok.mp run
    obtain ⟨_, tradable, plan, _, _, _, planned, _, swapped, booked⟩ := trade_iff.mp run
    obtain ⟨_, exchange, _⟩ := planTrade_iff.mp planned
    rw [exchange] at swapped
    exact footprint_settle tradable.routed (engine.swapOrder_key component _ _) swapped booked
  | tradeRemainingReserve =>
    obtain ⟨_, run, ⟨⟩⟩ := map_eq_ok.mp run
    obtain ⟨_, _, _, tradable, _, _, _, _, _, _, _, _, swapped, _, booked⟩ := tradeRemainingReserve_iff.mp run
    refine footprint_settle tradable.routed ?_ swapped booked
    exact AssetPair.unordered_comm _ _

/-- Nothing that the manager sets for an asset is touched, and of the asset that was
traded only the time. -/
theorem TradeFootprint.info (footprint : engine.TradeFootprint context component trade after) (asset : Address) :
    after.info asset = { engine.info asset with
      lastTradeTimestamp :=
        if component = asset then context.timestamp else (engine.info asset).lastTradeTimestamp } := by
  have inserted : after.info asset =
      (engine.updateInfo component ({ · with lastTradeTimestamp := context.timestamp })).info asset := by
    unfold Engine.info
    rw [footprint.infos]
    rfl
  rw [inserted, info_updateInfo_ite]
  split <;> rfl

/-- All that a trade or a trade of the remaining reserve touches belongs to the pair that
is traded. What the manager has set for any asset is as it was, and so are the units and
the balances of every asset beside the component and the reserve. -/
theorem trade_touches_pair {command : Command} (trades : command.Trades component)
    (run : command.perform context engine = .ok (.traded trade) after) :
    engine.TradeFootprint context component trade after ∧
    (∀ asset, after.info asset = { engine.info asset with
      lastTradeTimestamp :=
        if component = asset then context.timestamp else (engine.info asset).lastTradeTimestamp }) ∧
    ∀ asset, asset ≠ component → asset ≠ engine.reserve →
      after.defaultRealUnit asset = engine.defaultRealUnit asset ∧
      ∀ holder, after.balances.balanceOf holder asset = engine.balances.balanceOf holder asset := by
  have footprint := trades.footprint run
  refine ⟨footprint, footprint.info, fun asset notComponent notReserve => ?_⟩
  have outside : asset ∉ [component, engine.reserve] := by simp [notComponent, notReserve]
  exact ⟨footprint.ledger.defaultRealUnit outside, footprint.balances.balanceOf outside⟩

/-- A sale of half of the component. -/
theorem trade_touches_pair_sale :
    let engine := Market.engine Fixed.one (Fixed.ofInt 500_000_000_000_000_000)
      (Amount.ofNat 1_000_000_000_000_000_000_000)
    ∃ trade after, (Command.trade Market.dai).perform (Market.call 1) engine = .ok (.traded trade) after ∧
      trade.direction = .sell ∧ engine.TradeFootprint (Market.call 1) Market.dai trade after ∧
      after.info Market.dai = { engine.info Market.dai with lastTradeTimestamp := 1 } ∧
      after.defaultRealUnit Market.index = engine.defaultRealUnit Market.index := by
  intro engine
  have sold : (Engine.trade (Market.call 1) Market.dai).succeeds (fun trade _ => trade.direction = .sell) engine =
      true := by decide +kernel
  obtain ⟨trade, after, run, side⟩ := succeeds_iff.mp sold
  have performed : (Command.trade Market.dai).perform (Market.call 1) engine = .ok (.traded trade) after :=
    map_eq_ok.mpr ⟨trade, run, rfl⟩
  obtain ⟨footprint, infos, others⟩ := trade_touches_pair .trade performed
  have timed := infos Market.dai
  rw [if_pos rfl] at timed
  have aside := others Market.index (by decide) (by decide +kernel)
  exact ⟨trade, after, performed, of_decide_eq_true side, footprint, timed, aside.1⟩

end Engine

end IndexBasket
