import IndexBasket.Proofs.Engine.Coverage
import IndexBasket.Proofs.Engine.Refusal

namespace IndexBasket

namespace Engine

open IndexBasket.Action

variable {engine after : Engine} {context : CallContext} {component asset other : Address}
  {direction : TradeDirection} {exchange : Exchange} {fill : Fill} {before : Amount} {trade : Trade}

/-- Why no unit follows from a balance: less was there before a trade than is tracked, or
the trade has taken more than is tracked and has not taken everything. -/
def Short (engine : Engine) (asset : Address) (before balance : Nat) : Prop :=
  before < engine.tracked asset ∨ balance ≠ 0 ∧ balance + engine.tracked asset < before

theorem Revalued.not_short {before balance : Nat} {unit : Fixed}
    (revalued : engine.Revalued asset before balance unit) : ¬engine.Short asset before balance := by
  obtain ⟨apart, ⟨spent, _⟩ | ⟨_, _, covered, _⟩⟩ := revalued
  · rintro (less | ⟨left, _⟩)
    · omega
    · exact left spent
  · rintro (less | ⟨_, taken⟩) <;> omega

theorem unitAfter_short (stopped : engine.unitAfter asset before = .error (.untrackedShortfall other)) :
    other = asset ∧ engine.Short asset before.toNat (engine.custody asset).toNat := by
  obtain overflow | ⟨held, value, stopped⟩ := Except.bind_eq_error.mp stopped
  · cases (demand_eq_error.mp overflow).2
  have tracked : held.toNat = engine.tracked asset := notionalFloor_eq_ok.mp value
  obtain less | ⟨excess, apart, stopped⟩ := Except.bind_eq_error.mp stopped
  · obtain ⟨absent, same⟩ := demand_eq_error.mp less
    cases same
    rw [Amount.sub?_eq_none, tracked] at absent
    exact ⟨rfl, Or.inl absent⟩
  rw [demand_eq_ok, Amount.sub?_eq_some] at apart
  by_cases spent : engine.custody asset = Amount.zero
  · rw [if_pos spent] at stopped
    cases stopped
  rw [if_neg spent] at stopped
  obtain taken | ⟨_, _, overflow⟩ := Except.bind_eq_error.mp stopped
  · obtain ⟨absent, same⟩ := demand_eq_error.mp taken
    cases same
    rw [Amount.sub?_eq_none] at absent
    exact ⟨rfl, Or.inr ⟨fun none => spent (Amount.ext none), by omega⟩⟩
  · cases (demand_eq_error.mp overflow).2

theorem updatePosition_short
    (stopped : updatePosition asset before engine = .error (.untrackedShortfall other) after) :
    other = asset ∧ engine.Short asset before.toNat (engine.custody asset).toNat := by
  simp only [updatePosition, get_bind, bind_eq_error, lift_eq_error] at stopped
  obtain ⟨short, _⟩ | ⟨_, _, _, unstored | ⟨_, _, _, done⟩⟩ := stopped
  · exact unitAfter_short short
  · obtain ⟨_, _, _, reported, _⟩ := within_eq_error.mp unstored
    cases reported
  · cases done

/-- A spend that needs some of what the basket holds of an asset beyond the tracked amount,
and not all of it. -/
def Encroaches (engine : Engine) (asset : Address) (spent : Amount) : Prop :=
  engine.tracked asset < spent.toNat ∧ spent.toNat < (engine.custody asset).toNat

/-- What a booked fill and its fee leave of an asset is too little for a unit only where it
was too little before, or where the fill has taken from the surplus. -/
theorem Short.of_booked {sold bought : Address} {amountIn amountOut fee : Amount} {balance : Nat} {elsewhere : Prop}
    [Decidable elsewhere] (differ : sold ≠ bought) (fee_le : fee.toNat ≤ amountOut.toNat)
    (booked : (balance + (if sold = asset then amountIn.toNat else 0) +
        if bought = asset ∧ elsewhere then fee.toNat else 0) =
      (engine.custody asset).toNat + if bought = asset then amountOut.toNat else 0)
    (short : engine.Short asset (engine.custody asset).toNat balance) :
    ¬engine.Covered asset ∨ asset = sold ∧ engine.Encroaches asset amountIn := by
  obtain less | ⟨left, taken⟩ := short
  · exact Or.inl (Nat.not_le.mpr less)
  by_cases gives : sold = asset
  · subst gives
    simp only [if_true, differ.symm, if_false, false_and] at booked
    exact Or.inr ⟨rfl, by omega, by omega⟩
  · rw [if_neg gives] at booked
    by_cases takes : bought = asset
    · simp only [takes, true_and, if_true] at booked
      split at booked <;> omega
    · simp only [takes, false_and, if_false] at booked
      omega

/-- A settlement that falls short has booked its fill and passed on the fee. It stops at the
unit of the component, or at that of the reserve once the other has been stored. -/
theorem settle_eq_shortfall {before : PreTrade}
    (stopped : settle context component direction exchange fill before engine =
      .error (.untrackedShortfall asset) after) :
    let holder := engine.basket.address
    let bought := engine.boughtAsset component direction
    ∃ debited credited fee paid,
      Balances.debit holder (engine.soldAsset component direction) fill.amountIn engine.balances = .ok () debited ∧
      Balances.credit holder bought fill.amountOut debited = .ok () credited ∧
      engine.registry.feeAmount engine.settings.module tradeFeeIndex fill.amountOut = .ok fee ∧
      (0 < fee.toNat ∧ Balances.transfer bought holder engine.registry.feeRecipient fee credited = .ok () paid ∨
        fee.toNat = 0 ∧ paid = credited) ∧
      ((∃ left, updatePosition component before.component { engine with balances := paid } =
          .error (.untrackedShortfall asset) left) ∨
        ∃ unit ledger left, { engine with balances := paid }.unitAfter component before.component = .ok unit ∧
          Ledger.setDefaultPosition component unit engine.basket.ledger = .ok () ledger ∧
          updatePosition engine.reserve before.reserve
              { engine with balances := paid, basket := { engine.basket with ledger } } =
            .error (.untrackedShortfall asset) left) := by
  have unbooked : ∀ {update : Balances.Update} {engine after : Engine},
      onBalances update engine ≠ .error (.untrackedShortfall asset) after := by
    intro update engine after refused
    obtain ⟨_, _, _, reported, _⟩ := within_eq_error.mp refused
    cases reported
  simp only [settle, get_bind, swapOrder_assetIn, swapOrder_assetOut] at stopped
  obtain refused | ⟨_, _, first, stopped⟩ := bind_eq_error.mp stopped
  · exact absurd refused unbooked
  obtain ⟨debited, debit, rfl⟩ := onBalances_eq_ok.mp first
  obtain refused | ⟨_, _, second, stopped⟩ := bind_eq_error.mp stopped
  · exact absurd refused unbooked
  obtain ⟨credited, credit, rfl⟩ := onBalances_eq_ok.mp second
  obtain uncharged | ⟨fee, _, third, stopped⟩ := bind_eq_error.mp stopped
  · obtain ⟨_, _, reported⟩ := Except.mapError_eq_error.mp (lift_eq_error.mp uncharged).1
    cases reported
  obtain ⟨charged, rfl⟩ := ofExcept_eq_ok.mp third
  obtain ⟨_, refused⟩ | ⟨between, transferred, stopped⟩ := when_bind_eq_error.mp stopped
  · exact absurd refused unbooked
  obtain ⟨paid, passed, rfl⟩ : ∃ paid,
      (0 < fee.toNat ∧ Balances.transfer (engine.boughtAsset component direction) engine.basket.address
          engine.registry.feeRecipient fee credited = .ok () paid ∨ fee.toNat = 0 ∧ paid = credited) ∧
        { engine with balances := paid } = between := by
    rcases transferred with ⟨some, transfer⟩ | ⟨free, rfl⟩
    · obtain ⟨paid, moved, rfl⟩ := onBalances_eq_ok.mp transfer
      exact ⟨paid, Or.inl ⟨some, moved⟩, rfl⟩
    · exact ⟨credited, Or.inr ⟨Nat.eq_zero_of_not_pos free, rfl⟩, rfl⟩
  refine ⟨debited, credited, fee, paid, debit, credit, Except.mapError_eq_ok.mp charged, passed, ?_⟩
  obtain refused | ⟨unit, _, updated, stopped⟩ := bind_eq_error.mp stopped
  · exact Or.inl ⟨_, refused⟩
  obtain ⟨valued, ledger, stored, rfl⟩ := updatePosition_eq_ok.mp updated
  obtain refused | ⟨_, _, _, done⟩ := bind_eq_error.mp stopped
  · exact Or.inr ⟨unit, ledger, _, valued, stored, refused⟩
  · cases done

/-- A settlement that falls short of an asset does so where less of it is held than is
tracked, or where it is sold and the sale encroaches on its surplus. -/
theorem settle_short (sound : engine.Sound) (distinct : component ≠ engine.reserve)
    (stopped : settle context component direction exchange fill (engine.preTrade component) engine =
      .error (.untrackedShortfall asset) after) :
    (asset = component ∨ asset = engine.reserve) ∧
      (¬engine.Covered asset ∨
        asset = engine.soldAsset component direction ∧ engine.Encroaches asset fill.amountIn) := by
  obtain ⟨debited, credited, fee, paid, debit, credit, charged, passed, refused⟩ := settle_eq_shortfall stopped
  have differ := soldAsset_ne_boughtAsset distinct direction
  have fee_le := protocolFee_le (sound.fee_le _ _) charged
  have booked := booked_balanceOf debit credit passed
  obtain ⟨_, refused⟩ | ⟨unit, ledger, _, valued, stored, refused⟩ := refused
  · obtain ⟨rfl, short⟩ := updatePosition_short refused
    exact ⟨Or.inl rfl, Short.of_booked differ fee_le (booked asset) short⟩
  · obtain ⟨rfl, short⟩ := updatePosition_short refused
    have nonneg := (unitAfter_eq_ok.mp valued).nonneg
    rw [Short, tracked_setDefaultPosition paid sound.readable nonneg stored distinct] at short
    exact ⟨Or.inr rfl, Short.of_booked differ fee_le (booked engine.reserve) short⟩

/-- A settlement that goes through is of assets of which no less is held than is tracked, and
what it sells does not encroach on the surplus. -/
theorem Settled.covered (distinct : component ≠ engine.reserve)
    (settled : Settled engine component direction fill trade after) :
    engine.Covered component ∧ engine.Covered engine.reserve ∧
      ¬engine.Encroaches (engine.soldAsset component direction) fill.amountIn := by
  refine ⟨settled.component_revalued.1, settled.reserve_revalued.1, fun ⟨more, fewer⟩ => ?_⟩
  have differ := (soldAsset_ne_boughtAsset distinct direction).symm
  have moved := settled.custody (engine.soldAsset component direction)
  simp only [if_true, differ, false_and, if_false] at moved
  have short : engine.Short (engine.soldAsset component direction)
      (engine.custody (engine.soldAsset component direction)).toNat
      (after.custody (engine.soldAsset component direction)).toNat := Or.inr ⟨by omega, by omega⟩
  cases direction with
  | sell => exact settled.component_revalued.not_short short
  | buy => exact settled.reserve_revalued.not_short short

/-- The purchase that is planned for a component would be filled at a cost that encroaches
on the surplus of the reserve. The bound of the purchase allows that: it is the whole
balance. -/
def Overspends (engine : Engine) (component : Address) : Prop :=
  ∃ plan bound fill venues, engine.planTrade component = .ok plan ∧ plan.direction = .buy ∧
    let order := engine.swapOrder component plan.direction plan.quantity
    engine.slippageBound order.kind plan.quote (engine.custody engine.reserve) = .ok bound ∧
    Venues.execute plan.exchange order bound engine.venues = .ok fill venues ∧
    engine.Encroaches engine.reserve fill.amountIn

/-- A sale is of what is tracked, so that only a purchase can encroach on a surplus. -/
theorem trade_short (sound : engine.Sound)
    (stopped : Engine.trade context component engine = .error (.untrackedShortfall asset) after) :
    (asset = component ∨ asset = engine.reserve) ∧
      (¬engine.Covered asset ∨ asset = engine.reserve ∧ engine.Overspends component) := by
  obtain refused | unplanned | ⟨permits, plan, planned, stopped⟩ := trade_eq_error stopped
  · cases refused
  · obtain same | unsized | ⟨_, unquoted⟩ := planTrade_eq_error unplanned
    · cases same
    · cases unsized
    · cases unquoted
  obtain unbounded | ⟨bound, bounded, ⟨_, refused⟩ | ⟨fill, venues, _, swapped, unbooked⟩⟩ := stopped
  · cases engine.failsWith_slippageBound _ _ _ unbounded
  · obtain ⟨same, _⟩ | ⟨_, _, _, same, _⟩ := swap_eq_error refused <;> cases same
  have distinct := sound.component_ne_reserve permits.listed
  obtain ⟨named, short⟩ := settle_short (sound.withVenues venues) distinct unbooked
  refine ⟨named, short.imp_right fun ⟨sold, encroaches⟩ => ?_⟩
  have sized := planTrade_eq_ok planned
  cases buys : plan.direction with
  | buy =>
    rw [buys] at sold
    cases sold
    exact ⟨rfl, plan, bound, fill, venues, planned, buys, bounded, swapped, encroaches⟩
  | sell =>
    rw [buys] at sold swapped sized
    have whole : fill.amountIn = plan.quantity := Venues.execute_fixedSide swapped
    have limited := tradeSize_sell_le sized
    have more : engine.tracked asset < fill.amountIn.toNat := encroaches.1
    rw [show asset = component from sold, whole] at more
    omega

/-- A trade of the remaining reserve leaves none of it, and so never falls short by what it
spends. -/
theorem tradeRemainingReserve_short (sound : engine.Sound)
    (stopped : Engine.tradeRemainingReserve context component engine = .error (.untrackedShortfall asset) after) :
    (asset = component ∨ asset = engine.reserve) ∧ ¬engine.Covered asset := by
  obtain refused | unsure | same | ⟨same, _⟩ | ⟨permits, _, stopped⟩ := tradeRemainingReserve_eq_error stopped
  · cases refused
  · cases engine.failsWith_nothingToSell _ unsure
  · cases same
  · cases same
  obtain same | same | unquoted | ⟨_, _, unbounded | ⟨_, _, ⟨_, refused⟩ | ⟨fill, venues, _, swapped, unbooked⟩⟩⟩ :=
    stopped
  · cases same
  · cases same
  · cases engine.failsWith_quote _ _ unquoted
  · cases engine.failsWith_slippageBound _ _ _ unbounded
  · obtain ⟨same, _⟩ | ⟨_, _, _, same, _⟩ := swap_eq_error refused <;> cases same
  have distinct := sound.component_ne_reserve permits.listed
  obtain ⟨named, short⟩ := settle_short (sound.withVenues venues) distinct unbooked
  refine ⟨named, short.resolve_right fun ⟨sold, encroaches⟩ => ?_⟩
  have whole : fill.amountIn = engine.custody engine.reserve := Venues.execute_fixedSide swapped
  have fewer : fill.amountIn.toNat < (engine.custody asset).toNat := encroaches.2
  rw [show asset = engine.reserve from sold, whole] at fewer
  exact Nat.lt_irrefl _ fewer

theorem trade_covered (sound : engine.Sound) (run : Engine.trade context component engine = .ok trade after) :
    engine.Covered component ∧ engine.Covered engine.reserve ∧ ¬engine.Overspends component := by
  obtain ⟨permits, _, plan, bound, fill, venues, planned, bounded, swapped, booked⟩ := trade_iff.mp run
  obtain ⟨settled, _⟩ := settle_after_swap sound permits.listed booked
  obtain ⟨held, reserve, apart⟩ := settled.covered (sound.component_ne_reserve permits.listed)
  refine ⟨held, reserve, ?_⟩
  rintro ⟨_, _, _, _, planned', buys, bounded', swapped', encroaches⟩
  cases planned.symm.trans planned'
  cases bounded.symm.trans bounded'
  cases swapped.symm.trans swapped'
  rw [buys] at apart
  exact apart encroaches

theorem tradeRemainingReserve_covered (sound : engine.Sound)
    (run : Engine.tradeRemainingReserve context component engine = .ok trade after) :
    engine.Covered component ∧ engine.Covered engine.reserve := by
  obtain ⟨_, _, _, listed, _, settled⟩ := tradeRemainingReserve_eq_ok sound run
  obtain ⟨held, reserve, _⟩ := settled.covered (sound.component_ne_reserve listed)
  exact ⟨held, reserve⟩

/-- A trade falls short of its component or of the reserve. It does so where less is held of
that asset than is tracked, and also where a purchase would take from the surplus of the
reserve without spending all of it. In neither case does any trade of the component go
through. A trade of the remaining reserve falls short in the first case only. -/
theorem trade_shortfall (reached : engine.Reachable) (context : CallContext) (component : Address) :
    (∀ asset after, Engine.trade context component engine = .error (.untrackedShortfall asset) after →
      (asset = component ∨ asset = engine.reserve) ∧
        ((engine.custody asset).toNat < engine.tracked asset ∨
          asset = engine.reserve ∧ engine.Overspends component)) ∧
    (∀ asset after, Engine.tradeRemainingReserve context component engine = .error (.untrackedShortfall asset) after →
      (asset = component ∨ asset = engine.reserve) ∧ (engine.custody asset).toNat < engine.tracked asset) ∧
    (∀ trade after, Engine.trade context component engine = .ok trade after →
      engine.tracked component ≤ (engine.custody component).toNat ∧
        engine.tracked engine.reserve ≤ (engine.custody engine.reserve).toNat ∧ ¬engine.Overspends component) ∧
    ∀ trade after, Engine.tradeRemainingReserve context component engine = .ok trade after →
      engine.tracked component ≤ (engine.custody component).toNat ∧
        engine.tracked engine.reserve ≤ (engine.custody engine.reserve).toNat := by
  have sound := reached.sound
  refine ⟨fun asset after stopped => ?_, fun asset after stopped => ?_, fun trade after => trade_covered sound,
    fun trade after => tradeRemainingReserve_covered sound⟩
  · obtain ⟨named, short⟩ := trade_short sound stopped
    exact ⟨named, short.imp_left Nat.not_le.mp⟩
  · obtain ⟨named, short⟩ := tradeRemainingReserve_short sound stopped
    exact ⟨named, Nat.not_le.mp short⟩

/-- The market holds a thousand of its reserve and tracks a hundred. Dai for about a hundred
and fifty cannot be bought by anyone. -/
theorem trade_shortfall_surplus :
    let engine := Market.engine Fixed.one (Fixed.ofInt 2_500_000_000_000_000_000)
      (Amount.ofNat 1_000_000_000_000_000_000_000)
    engine.Reachable ∧ engine.tracked Market.weth = 100_000_000_000_000_000_000 ∧
      engine.custody Market.weth = Amount.ofNat 1_000_000_000_000_000_000_000 ∧
      (∃ after, Engine.trade (Market.call 1) Market.dai engine = .error (.untrackedShortfall Market.weth) after) ∧
      engine.Overspends Market.dai ∧
      ∀ context trade after, Engine.trade context Market.dai engine ≠ .ok trade after := by
  intro engine
  have reached : engine.Reachable := Market.reachable _ _ _
  have tracked : engine.tracked Market.weth = 100_000_000_000_000_000_000 := by decide +kernel
  have held : engine.custody Market.weth = Amount.ofNat 1_000_000_000_000_000_000_000 := by decide +kernel
  have refused : (Engine.trade (Market.call 1) Market.dai).fails
      (fun failure _ => failure = .untrackedShortfall Market.weth) engine = true := by decide +kernel
  obtain ⟨failure, after, run, named⟩ := fails_iff.mp refused
  rw [of_decide_eq_true named] at run
  obtain ⟨_, less | ⟨_, overspends⟩⟩ := (trade_shortfall reached (Market.call 1) Market.dai).1 _ _ run
  · rw [tracked, held] at less
    exact absurd less (by decide)
  refine ⟨reached, tracked, held, ⟨after, run⟩, overspends, fun context trade after bought => ?_⟩
  exact ((trade_shortfall reached context Market.dai).2.2.1 trade after bought).2.2 overspends

/-- That purchase is refused for a balance below its tracked amount, of which ten times as
much is there. -/
theorem shortfall_of_covered :
    ¬∀ {engine after : Engine} {context : CallContext} {component asset : Address}, engine.Reachable →
      Engine.trade context component engine = .error (.untrackedShortfall asset) after ∨
        Engine.tradeRemainingReserve context component engine = .error (.untrackedShortfall asset) after →
      (engine.custody asset).toNat < engine.tracked asset := by
  intro covered
  have refused : (Engine.trade (Market.call 1) Market.dai).fails
      (fun failure _ => failure = .untrackedShortfall Market.weth)
      (Market.engine Fixed.one (Fixed.ofInt 2_500_000_000_000_000_000)
        (Amount.ofNat 1_000_000_000_000_000_000_000)) = true := by decide +kernel
  obtain ⟨failure, after, run, named⟩ := fails_iff.mp refused
  rw [of_decide_eq_true named] at run
  exact absurd (covered (Market.reachable _ _ _) (Or.inl run)) (by decide +kernel)

end Engine

end IndexBasket
