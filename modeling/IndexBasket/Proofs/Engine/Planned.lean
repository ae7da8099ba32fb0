import IndexBasket.Proofs.Engine.Refusal

namespace IndexBasket

open IndexBasket.Action

/-- A venue that fills at the price that it quotes: any with pools, and one with fixed
rates as long as it does not slip. -/
def Venue.FillsAsQuoted : Venue → Prop
  | pair _ => True
  | split _ => True
  | fixedRate venue => venue.fillMode = .quoted

theorem Venue.FillsAsQuoted.quote {venue after : Venue} {order : SwapOrder} {bound : Amount} {fill : Fill}
    (faithful : venue.FillsAsQuoted) (run : execute order bound venue = .ok fill after) :
    Venue.quote order venue = .ok fill := by
  cases venue with
  | pair router => exact quote_of_execute (show (pair router).Pooled from trivial) run
  | split router => exact quote_of_execute (show (split router).Pooled from trivial) run
  | fixedRate mock =>
    simp only [execute, within_eq_ok, FixedRateVenue.execute_eq_ok] at run
    obtain ⟨_, ⟨quoted, priced, filled, _⟩, _⟩ := run
    rw [FixedRateVenue.filled, show mock.fillMode = .quoted from faithful] at filled
    cases filled
    exact priced

/-- What a trade has brought in before the protocol's share is taken. -/
def Trade.received (trade : Trade) : Nat := trade.amountBought.toNat + trade.protocolFee.toNat

namespace Engine

/-- The slippage that is accepted, in basis points of at most the whole. -/
def slippageBps (engine : Engine) : Nat := min engine.settings.maxSlippageBps.toNat 10000

variable {engine after : Engine} {context : CallContext} {component : Address} {trade : Trade}
  {quoted : Quote} {available bound : Amount}

theorem toNat_slippageBps (engine : Engine) :
    (min (Amount.clamp engine.settings.maxSlippageBps.toNat) Amount.wholeBps).toNat = engine.slippageBps := by
  have small := engine.settings.maxSlippageBps.toNat_lt
  rw [Amount.toNat_min, SplitRouter.clamp_toNat (by omega)]
  rfl

/-- Of an output as quoted a sale has to bring at least what the slippage leaves. -/
theorem slippageBound_exactInput (run : engine.slippageBound .exactInput quoted available = .ok bound) :
    bound.toNat = quoted.amountOut.toNat * (10000 - engine.slippageBps) / 10000 := by
  simp only [slippageBound, demand_eq_ok, Amount.mulDivFloor_eq_some] at run
  rw [run.2, Amount.toNat_monus, toNat_slippageBps]
  rfl

/-- For an input as quoted a purchase may pay what the slippage adds, and no more than
there is. -/
theorem slippageBound_exactOutput (run : engine.slippageBound .exactOutput quoted available = .ok bound) :
    bound.toNat = min ((quoted.amountIn.toNat * (10000 + engine.slippageBps) + 9999) / 10000) available.toNat := by
  simp only [slippageBound, demand_eq_ok, Option.map_eq_some_iff, Amount.mulDivCeil_eq_some] at run
  obtain ⟨charged, ⟨_, value⟩, rfl⟩ := run
  have small : engine.slippageBps ≤ 10000 := Nat.min_le_right _ _
  rw [toNat_slippageBps, SplitRouter.clamp_toNat (by omega)] at value
  rw [Amount.toNat_min, value]
  rfl

/-- What a trade reports of the fill that it has booked. -/
theorem settle_received {direction : TradeDirection} {exchange : Exchange} {fill : Fill} {before : PreTrade}
    {venues : Venues} (charged : (engine.registry.moduleFee engine.settings.module tradeFeeIndex).toNat ≤ 10 ^ 18)
    (run : settle context component direction exchange fill before { engine with venues } = .ok trade after) :
    trade.component = component ∧ trade.direction = direction ∧ trade.exchange = exchange ∧
      trade.amountSold = fill.amountIn ∧ trade.received = fill.amountOut.toNat := by
  obtain ⟨_, _, fee, _, _, _, _, _, _, _, share, _, _, _, _, _, rfl, _⟩ := settle_eq_ok.mp run
  exact ⟨rfl, rfl, rfl, rfl, Nat.sub_add_cancel (protocolFee_le charged share)⟩

/-- A trade that keeps to a plan: of the same component, on the same side and at the same
exchange, in the quantity of the plan, and no worse than the slippage allows. Where the
venue fills as it quotes, the quote is what is paid and received. -/
structure Follows (engine : Engine) (plan : TradePlan) (trade : Trade) : Prop where
  component : trade.component = plan.component
  direction : trade.direction = plan.direction
  exchange : trade.exchange = plan.exchange
  quantity : (match plan.direction with
    | .sell => trade.amountSold.toNat
    | .buy => trade.received) = plan.quantity.toNat
  quoted : ∀ venue, engine.venues.byExchange[plan.exchange]? = some venue → venue.FillsAsQuoted →
    trade.amountSold = plan.quote.amountIn ∧ trade.received = plan.quote.amountOut.toNat
  bounded : match plan.direction with
    | .sell => plan.quote.amountOut.toNat * (10000 - engine.slippageBps) / 10000 ≤ trade.received
    | .buy => trade.amountSold.toNat ≤
        min ((plan.quote.amountIn.toNat * (10000 + engine.slippageBps) + 9999) / 10000)
          (engine.custody engine.reserve).toNat

/-- A trade that goes through has a plan, and follows it. -/
theorem trade_follows (charged : (engine.registry.moduleFee engine.settings.module tradeFeeIndex).toNat ≤ 10 ^ 18)
    (run : Engine.trade context component engine = .ok trade after) :
    ∃ plan, engine.planTrade component = .ok plan ∧ engine.Follows plan trade := by
  obtain ⟨_, _, plan, bound, fill, venues, planned, bounded, swapped, booked⟩ := trade_iff.mp run
  obtain ⟨named, _, _, _, priced⟩ := planTrade_iff.mp planned
  obtain ⟨venue, filled, found, executed, _⟩ := Venues.execute_eq_ok.mp swapped
  obtain ⟨_, found', quote⟩ := quote_eq_ok.mp priced
  cases found.symm.trans found'
  obtain ⟨component_eq, direction_eq, exchange_eq, sold, received⟩ := settle_received charged booked
  refine ⟨plan, planned, component_eq.trans named.symm, direction_eq, exchange_eq, ?_, ?_, ?_⟩
  · have given := Venue.execute_fixedSide executed
    cases side : plan.direction with
    | sell =>
      rw [side] at given
      exact congrArg Amount.toNat (sold.trans given)
    | buy =>
      rw [side] at given
      exact received.trans (congrArg Amount.toNat given)
  · intro other found' faithful
    cases found.symm.trans found'
    cases quote.symm.trans (faithful.quote executed)
    exact ⟨sold, received⟩
  · have accepted := Venue.execute_accepts executed
    cases side : plan.direction with
    | sell =>
      rw [side] at accepted bounded
      dsimp only
      rw [received, ← slippageBound_exactInput bounded]
      exact accepted
    | buy =>
      rw [side] at accepted bounded
      dsimp only
      rw [sold, ← slippageBound_exactOutput bounded]
      exact accepted

/-- At its own price a sale is never beyond the slippage, and a purchase only where there
is not enough to pay for it. -/
theorem beyond_slippageBound {kind : SwapKind} {failure : VenueError}
    (bounded : engine.slippageBound kind quoted available = .ok bound)
    (beyond : checkBound kind quoted bound = .error failure) :
    kind = .exactOutput ∧ failure = .slippageExceeded available quoted.amountIn ∧
      available.toNat < quoted.amountIn.toNat := by
  cases kind with
  | exactInput =>
    have value := slippageBound_exactInput bounded
    have least : quoted.amountOut.toNat * (10000 - engine.slippageBps) / 10000 ≤ quoted.amountOut.toNat :=
      Nat.div_le_of_le_mul ((Nat.mul_le_mul_left _ (Nat.sub_le _ _)).trans (Nat.mul_comm _ _).le)
    have within : checkBound .exactInput quoted bound = .ok () := checkBound_eq_ok.mpr (value.trans_le least)
    cases within.symm.trans beyond
  | exactOutput =>
    have value := slippageBound_exactOutput bounded
    have most : quoted.amountIn.toNat ≤ (quoted.amountIn.toNat * (10000 + engine.slippageBps) + 9999) / 10000 := by
      rw [Nat.le_div_iff_mul_le (by decide), Nat.mul_add]
      omega
    rw [checkBound] at beyond
    split at beyond
    · rename_i less
      rw [Amount.lt_def] at less
      have capped : bound = available := Amount.ext (by omega)
      cases beyond
      exact ⟨rfl, by rw [capped], by omega⟩
    · cases beyond

/-- On a venue with pools all that can be beyond the bound is the price of a purchase, as
planned, for which the reserve of the basket is not enough. -/
theorem trade_beyond_slippage {venue : Venue} {actual : Amount}
    (found : engine.venues.byExchange[(engine.info component).exchange]? = some venue) (pooled : venue.Pooled)
    (stopped : Engine.trade context component engine = .error (.venue (.slippageExceeded bound actual)) after) :
    ∃ plan, engine.planTrade component = .ok plan ∧ plan.direction = .buy ∧
      bound = engine.custody engine.reserve ∧ actual = plan.quote.amountIn ∧
      (engine.custody engine.reserve).toNat < plan.quote.amountIn.toNat := by
  obtain refused | unplanned | ⟨_, plan, planned, stopped⟩ := trade_eq_error stopped
  · cases refused
  · obtain unrouted | unsized | ⟨_, unquoted⟩ := planTrade_eq_error unplanned
    · cases unrouted
    · cases unsized
    · cases unquoted with
      | unpriced unpriced => cases unpriced
  obtain unbounded | ⟨bound', bounded, ⟨_, refused⟩ | ⟨_, _, _, _, unbooked⟩⟩ := stopped
  · cases engine.failsWith_slippageBound _ _ _ unbounded
  · obtain ⟨_, exchange, _, _, priced⟩ := planTrade_iff.mp planned
    obtain ⟨cause, _⟩ | ⟨_, venue', _, cause, found', refused⟩ := swap_eq_error refused
    · cases cause
    cases cause
    rw [exchange, found] at found'
    cases found'
    obtain unpriced | ⟨_, rejected⟩ | ⟨fill, beyond, quote⟩ := Venue.execute_eq_error refused
    · cases unpriced
    · cases rejected
    obtain ⟨_, found', quote'⟩ := quote_eq_ok.mp priced
    rw [exchange, found] at found'
    cases found'
    cases (quote pooled).symm.trans quote'
    obtain ⟨kind, same, short⟩ := beyond_slippageBound bounded beyond
    cases same
    cases side : plan.direction with
    | sell =>
      rw [side] at kind
      cases kind
    | buy => exact ⟨plan, planned, side, rfl, rfl, short⟩
  · cases stopsWith_settle _ _ _ _ _ _ unbooked

/-- What a plan shows is what a trade of the same component does in the same state,
whatever the venue. If the trade goes through there is a plan, and the trade follows it.
On a venue with pools the slippage only stops a purchase for which the basket does not
hold enough of the reserve. No registry takes a fee beyond the whole. -/
theorem trade_as_planned (engine : Engine) (context : CallContext) (component : Address)
    (charged : (engine.registry.moduleFee engine.settings.module tradeFeeIndex).toNat ≤ 10 ^ 18) :
    (∀ trade after, Engine.trade context component engine = .ok trade after →
      ∃ plan, engine.planTrade component = .ok plan ∧ engine.Follows plan trade) ∧
    ∀ venue bound actual after, engine.venues.byExchange[(engine.info component).exchange]? = some venue →
      venue.Pooled → Engine.trade context component engine = .error (.venue (.slippageExceeded bound actual)) after →
      ∃ plan, engine.planTrade component = .ok plan ∧ plan.direction = .buy ∧
        bound = engine.custody engine.reserve ∧ actual = plan.quote.amountIn ∧
        (engine.custody engine.reserve).toNat < plan.quote.amountIn.toNat :=
  ⟨fun _ _ run => trade_follows charged run,
    fun _ _ _ _ found pooled stopped => trade_beyond_slippage found pooled stopped⟩

/-- A sale, and a purchase that costs more than there is. -/
theorem trade_as_planned_sale :
    let poor := Market.engine Fixed.one (Fixed.ofInt 500_000_000_000_000_000)
      (Amount.ofNat 1_000_000_000_000_000_000_000)
    let dear := Market.engine Fixed.one (Fixed.ofInt 20_000_000_000_000_000_000)
      (Amount.ofNat 10_000_000_000_000_000_000_000)
    (∃ plan trade after, poor.planTrade Market.dai = .ok plan ∧ plan.direction = .sell ∧
      Engine.trade (Market.call 1) Market.dai poor = .ok trade after ∧ poor.Follows plan trade) ∧
    ∃ plan bound actual after, dear.planTrade Market.dai = .ok plan ∧ plan.direction = .buy ∧
      Engine.trade (Market.call 1) Market.dai dear = .error (.venue (.slippageExceeded bound actual)) after ∧
      (dear.custody Market.weth).toNat < plan.quote.amountIn.toNat := by
  intro poor dear
  constructor
  · have sold : (Engine.trade (Market.call 1) Market.dai).succeeds (fun trade _ => trade.direction = .sell) poor =
        true := by decide +kernel
    obtain ⟨trade, after, run, side⟩ := succeeds_iff.mp sold
    obtain ⟨plan, planned, follows⟩ := (trade_as_planned poor (Market.call 1) Market.dai
      ((Market.reachable _ _ _).sound.fee_le _ _)).1 trade after run
    exact ⟨plan, trade, after, planned, follows.direction.symm.trans (of_decide_eq_true side), run, follows⟩
  · have refused : (Engine.trade (Market.call 1) Market.dai).fails
        (fun failure _ => match failure with | .venue (.slippageExceeded _ _) => true | _ => false) dear = true := by
      decide +kernel
    obtain ⟨failure, after, stopped, beyond⟩ := fails_iff.mp refused
    split at beyond
    · rename_i bound actual
      have routed : dear.venues.byExchange[(dear.info Market.dai).exchange]? =
          Market.venues.byExchange[Exchange.uniswap]? := by decide +kernel
      obtain ⟨plan, planned, side, _, _, short⟩ := (trade_as_planned dear (Market.call 1) Market.dai
        ((Market.reachable _ _ _).sound.fee_le _ _)).2 _ bound actual after
          (routed.trans Std.ExtTreeMap.getElem?_insert_self) trivial stopped
      exact ⟨plan, bound, actual, after, planned, side, stopped, short⟩
    · cases beyond

end Engine

end IndexBasket
