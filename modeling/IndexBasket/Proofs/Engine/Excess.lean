import IndexBasket.Proofs.Engine.Sizing
import IndexBasket.Proofs.Venue.Bound

namespace IndexBasket

namespace Engine

open IndexBasket.Action

/-- An engine that is another one with extra amounts in the custody of its basket.
Its venues may have recorded other bounds than those of the other. -/
def Endowed (extra : Address → Nat) (engine rich : Engine) : Prop :=
  ∃ balances venues, rich = { engine with balances, venues } ∧ engine.venues.Alike venues ∧
    Balances.Exceeded engine.basket.address extra engine.balances balances

variable {engine rich after : Engine} {component asset : Address} {direction : TradeDirection} {fill : Fill}
  {trade : Trade} {context : CallContext} {extra : Address → Nat} {balances : Balances} {venues : Venues}

theorem Endowed.custody (richer : Endowed extra engine rich) (asset : Address) :
    (rich.custody asset).toNat = (engine.custody asset).toNat + extra asset := by
  obtain ⟨balances, venues, rfl, _, exceeded⟩ := richer
  have held := exceeded engine.basket.address asset
  rw [if_pos rfl] at held
  exact held

/-- A plan looks at no balance, and at no record of a venue. -/
theorem planTrade_alike (alike : engine.venues.Alike venues) :
    ({ engine with balances, venues } : Engine).planTrade component = engine.planTrade component := by
  have quotes : ∀ exchange order,
      ({ engine with balances, venues } : Engine).quote exchange order = engine.quote exchange order := by
    intro exchange order
    unfold quote
    dsimp only
    rw [alike.quote]
  unfold planTrade
  simp only [quotes]
  rfl

/-- What more is available only loosens the bound of a trade. -/
theorem slippageBound_loosens {kind : SwapKind} {swap : Quote} {available more bound : Amount}
    (le : available ≤ more) (run : engine.slippageBound kind swap available = .ok bound) :
    ∃ looser, engine.slippageBound kind swap more = .ok looser ∧ kind.Loosens bound looser := by
  cases kind with
  | exactInput => exact ⟨bound, run, SwapKind.loosens_refl _ _⟩
  | exactOutput =>
    simp only [slippageBound, demand_eq_ok, Option.map_eq_some_iff] at run ⊢
    obtain ⟨charged, found, rfl⟩ := run
    refine ⟨min charged more, ⟨charged, found, rfl⟩, SwapKind.loosens_exactOutput ?_⟩
    rw [Amount.le_def] at le ⊢
    rw [Amount.toNat_min, Amount.toNat_min]
    omega

/-- An excess that stays in custody cancels out of the unit, also where without it
nothing would be left of the balance. -/
theorem Revalued.exceeded {before balance : Nat} {unit : Fixed} (more : Nat)
    (positive : 0 < engine.basket.totalSupply.toNat) (within : before ≤ balance + engine.tracked asset)
    (revalued : engine.Revalued asset before balance unit) :
    engine.Revalued asset (before + more) (balance + more) unit := by
  obtain ⟨enough, ⟨spent, zero⟩ | ⟨left, _, _, size⟩⟩ := revalued
  · -- A balance of zero is read as a unit of zero; with more in it the quotient is taken, of zero too.
    refine ⟨by omega, ?_⟩
    by_cases none : more = 0
    · exact Or.inl ⟨by omega, zero⟩
    · refine Or.inr ⟨by omega, positive, by omega, ?_⟩
      rw [zero, show balance + more + engine.tracked asset - (before + more) = 0 by omega, Nat.zero_mul, Nat.zero_div]
      rfl
  · refine ⟨by omega, Or.inr ⟨by omega, positive, by omega, ?_⟩⟩
    rw [size, show balance + more + engine.tracked asset - (before + more) = balance + engine.tracked asset - before by
      omega]

/-- A fill is booked over extra amounts as it is without them. -/
theorem exceeded_booked {holder recipient sold bought : Address} {amountIn amountOut fee : Amount}
    {balances more debited credited paid : Balances} (exceeded : Balances.Exceeded holder extra balances more)
    (debit : Balances.debit holder sold amountIn balances = .ok () debited)
    (credit : Balances.credit holder bought amountOut debited = .ok () credited)
    (passed : 0 < fee.toNat ∧ Balances.transfer bought holder recipient fee credited = .ok () paid ∨
      fee.toNat = 0 ∧ paid = credited)
    (fits : (more.balanceOf holder bought).toNat + amountOut.toNat < 2 ^ 128) :
    ∃ debited' credited' paid', Balances.debit holder sold amountIn more = .ok () debited' ∧
      Balances.credit holder bought amountOut debited' = .ok () credited' ∧
      (0 < fee.toNat ∧ Balances.transfer bought holder recipient fee credited' = .ok () paid' ∨
        fee.toNat = 0 ∧ paid' = credited') ∧
      Balances.Exceeded holder extra paid paid' := by
  obtain ⟨debited', debit', exceededDebited⟩ := exceeded.debit debit
  have left := Balances.balanceOf_debit debit' holder bought
  obtain ⟨credited', credit', exceededCredited⟩ := exceededDebited.credit credit fun _ => by omega
  rcases passed with ⟨some, transfer⟩ | ⟨none, rfl⟩
  · obtain ⟨paid', transfer', exceededPaid⟩ := exceededCredited.transfer transfer
    exact ⟨debited', credited', paid', debit', credit', Or.inl ⟨some, transfer'⟩, exceededPaid⟩
  · exact ⟨debited', credited', credited', debit', credit', Or.inr ⟨none, rfl⟩, exceededCredited⟩

/-- Of what is not sold, a fill leaves no less than there was: a fee is a part of what
is bought. -/
theorem le_booked {holder recipient sold bought : Address} {amountIn amountOut fee : Amount}
    {balances debited credited paid : Balances}
    (debit : Balances.debit holder sold amountIn balances = .ok () debited)
    (credit : Balances.credit holder bought amountOut debited = .ok () credited)
    (passed : 0 < fee.toNat ∧ Balances.transfer bought holder recipient fee credited = .ok () paid ∨
      fee.toNat = 0 ∧ paid = credited)
    (share : fee.toNat ≤ amountOut.toNat) (asset : Address) :
    (balances.balanceOf holder asset).toNat ≤
      (paid.balanceOf holder asset).toNat + if sold = asset then amountIn.toNat else 0 := by
  have moved := booked_balanceOf debit credit passed asset
  generalize (if sold = asset then amountIn.toNat else 0) = spent at moved ⊢
  by_cases isBought : bought = asset
  · rw [if_pos isBought] at moved
    split at moved <;> omega
  · rw [if_neg isBought, if_neg fun both => isBought both.1] at moved
    omega

theorem settle_endowed {exchange : Exchange} (sound : engine.Sound) (distinct : component ≠ engine.reserve)
    (positive : 0 < engine.basket.totalSupply.toNat) (richer : Endowed extra engine rich)
    (spends : fill.amountIn.toNat ≤ engine.tracked (engine.soldAsset component direction))
    (fits : (rich.custody (engine.boughtAsset component direction)).toNat + fill.amountOut.toNat < 2 ^ 128)
    (run : settle context component direction exchange fill (engine.preTrade component) engine = .ok trade after) :
    ∃ rich', settle context component direction exchange fill (rich.preTrade component) rich = .ok trade rich' ∧
      Endowed extra after rich' := by
  have custody := richer.custody
  obtain ⟨balances, venues, rfl, alike, exceeded⟩ := richer
  obtain ⟨debited, credited, fee, paid, newComponentUnit, component', newReserveUnit, reserve', debit, credit,
    charged, transferred, componentUnit, componentStored, reserveUnit, reserveStored, rfl, rfl⟩ := settle_eq_ok.mp run
  rw [← swapOrder_assetOut engine component direction fill.amountIn] at fits
  obtain ⟨debited', credited', paid', debit', credit', transferred', exceeded'⟩ :=
    exceeded_booked exceeded debit credit transferred fits
  have held : ∀ asset, (paid'.balanceOf engine.basket.address asset).toNat =
      (paid.balanceOf engine.basket.address asset).toNat + extra asset := by
    intro asset
    rw [exceeded' engine.basket.address asset, if_pos rfl]
  -- What is spent was tracked, so the excess of every asset is still there after the fill.
  have within : ∀ asset, (engine.custody asset).toNat ≤
      (paid.balanceOf engine.basket.address asset).toNat + engine.tracked asset := by
    intro asset
    have left := le_booked debit credit transferred (protocolFee_le (sound.fee_le _ _) charged) asset
    rw [swapOrder_assetIn] at left
    by_cases sold : engine.soldAsset component direction = asset
    · rw [if_pos sold] at left
      rw [sold] at spends
      exact left.trans (Nat.add_le_add_left spends _)
    · rw [if_neg sold] at left
      exact left.trans (Nat.le_add_right _ _)
  have first : engine.Revalued component (engine.custody component).toNat
      (paid.balanceOf engine.basket.address component).toNat newComponentUnit := unitAfter_eq_ok.mp componentUnit
  have second : engine.Revalued engine.reserve (engine.custody engine.reserve).toNat
      (paid.balanceOf engine.basket.address engine.reserve).toNat newReserveUnit :=
    (revalued_setDefaultPosition paid sound.readable first.nonneg componentStored distinct).mp
      (unitAfter_eq_ok.mp reserveUnit)
  refine ⟨_, settle_eq_ok.mpr ⟨debited', credited', fee, paid', newComponentUnit, component', newReserveUnit, reserve',
    debit', credit', charged, transferred', ?_, componentStored, ?_, reserveStored, rfl, rfl⟩, paid', venues, rfl,
    alike, exceeded'⟩
  · have more := first.exceeded (extra component) positive (within component)
    rw [← held, ← custody] at more
    exact unitAfter_eq_ok.mpr more
  · have more := second.exceeded (extra engine.reserve) positive (within engine.reserve)
    rw [← held, ← custody] at more
    exact unitAfter_eq_ok.mpr
      ((revalued_setDefaultPosition paid' sound.readable first.nonneg componentStored distinct).mpr more)

/-- Extra amounts in custody do not influence a trade that spends only what is
tracked. It goes through as it does without them and leaves the same behind, if the
balance of what it buys has room. A sale spends only what is tracked in any case. -/
theorem trade_endowed (reached : engine.Reachable) (richer : Endowed extra engine rich)
    (run : Engine.trade context component engine = .ok trade after)
    (spends : trade.direction = .buy → trade.amountSold.toNat ≤ engine.tracked engine.reserve)
    (fits : (rich.custody (engine.boughtAsset component trade.direction)).toNat + trade.amountBought.toNat +
      trade.protocolFee.toNat < 2 ^ 128) :
    ∃ rich', Engine.trade context component rich = .ok trade rich' ∧ Endowed extra after rich' ∧
      ∀ (exchange : Exchange) (venue : Venue), venue.Pooled →
        (after.venues.byExchange[exchange]? = some venue ↔ rich'.venues.byExchange[exchange]? = some venue) := by
  have sound := reached.sound
  obtain ⟨permits, tradable, plan, bound, fill, venues, planned, bounded, swapped, booked⟩ := trade_iff.mp run
  have distinct := sound.component_ne_reserve permits.listed
  obtain ⟨settled, _⟩ := settle_after_swap sound permits.listed booked
  have sized := planTrade_eq_ok planned
  obtain ⟨_, _, _, positive, _⟩ := tradeSize_eq_ok.mp sized
  have limited : fill.amountIn.toNat ≤ engine.tracked (engine.soldAsset component plan.direction) := by
    cases side : plan.direction with
    | buy =>
      rw [settled.direction_eq, settled.sold] at spends
      exact spends side
    | sell =>
      rw [side] at swapped sized
      have sold : fill.amountIn = plan.quantity := Venues.execute_fixedSide swapped
      rw [sold]
      exact tradeSize_sell_le sized
  rw [settled.direction_eq, Nat.add_assoc, settled.bought] at fits
  have more : engine.custody engine.reserve ≤ rich.custody engine.reserve := by
    rw [Amount.le_def, richer.custody]
    exact Nat.le_add_right _ _
  obtain ⟨balances, registered, rfl, alike, exceeded⟩ := richer
  obtain ⟨looser, bounded', loosens⟩ := slippageBound_loosens more bounded
  obtain ⟨venues', swapped', alike'⟩ := alike.execute loosens swapped
  obtain ⟨rich', booked', richer'⟩ := settle_endowed (sound.withVenues venues) distinct positive
    ⟨balances, venues', rfl, alike', exceeded⟩ limited fits booked
  refine ⟨rich', trade_iff.mpr ⟨?_, ⟨tradable.routed, tradable.cooled⟩, plan, looser, fill, venues',
    (planTrade_alike alike).trans planned, bounded', swapped', booked'⟩, richer', fun exchange venue pooled => ?_⟩
  · exact ⟨permits.trader, permits.externallyOwned, permits.registered, permits.initialized, permits.listed⟩
  · obtain ⟨_, _, rfl, alike, _⟩ := richer'
    exact alike.pooled pooled

theorem trade_endowed_purchase :
    let engine := Market.engine (Fixed.ofInt 980_000_000_000_000_000) (Fixed.ofInt 1_500_000_000_000_000_000)
      (Amount.ofNat 1_000_000_000_000_000_000_000)
    engine.Reachable ∧ ∃ balances trade after rich,
      Balances.credit Market.index Market.weth (Amount.ofNat 7) engine.balances = .ok () balances ∧
      Engine.trade (Market.call 1) Market.dai engine = .ok trade after ∧ trade.direction = .buy ∧
      Engine.trade (Market.call 1) Market.dai { engine with balances } = .ok trade rich ∧
      rich.basket = after.basket ∧ (rich.custody Market.weth).toNat = (after.custody Market.weth).toNat + 7 := by
  intro engine
  have reached : engine.Reachable := Market.reachable _ _ _
  have given : (Balances.credit Market.index Market.weth (Amount.ofNat 7)).succeeds (fun _ _ => True)
      engine.balances = true := by decide +kernel
  obtain ⟨_, balances, credited, _⟩ := succeeds_iff.mp given
  have bought : (Engine.trade (Market.call 1) Market.dai).succeeds
      (fun trade _ => trade.direction = .buy ∧ trade.amountSold.toNat ≤ engine.tracked engine.reserve ∧
        (engine.custody (engine.boughtAsset Market.dai .buy)).toNat + 0 + trade.amountBought.toNat +
          trade.protocolFee.toNat < 2 ^ 128) engine = true := by decide +kernel
  obtain ⟨trade, after, run, found⟩ := succeeds_iff.mp bought
  obtain ⟨buys, spends, fits⟩ := of_decide_eq_true found
  have richer : Endowed (fun other => if Market.weth = other then 7 else 0) engine { engine with balances } :=
    ⟨balances, engine.venues, rfl, .refl _, Balances.exceeded_credited credited⟩
  obtain ⟨rich, run', richer', _⟩ := trade_endowed reached richer run (fun _ => spends) (by
    rw [richer.custody, buys]
    exact fits)
  have custody := richer'.custody Market.weth
  obtain ⟨_, _, rfl, _⟩ := richer'
  exact ⟨reached, balances, trade, after, _, credited, run, buys, run', rfl, custody⟩

end Engine

end IndexBasket
