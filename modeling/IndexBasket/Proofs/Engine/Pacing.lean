import IndexBasket.Proofs.Engine.Procedure
import IndexBasket.Proofs.Engine.Sizing

namespace IndexBasket

namespace AssetInfo

theorem toNat_nextTradeTime (info : AssetInfo) :
    info.nextTradeTime.toNat = min (2 ^ 64 - 1) (info.lastTradeTimestamp.toNat + info.coolOffPeriod.toNat) := by
  unfold nextTradeTime UInt64.ofNatClamp
  split
  all_goals
    rename_i size
    rw [UInt64.toNat_ofNatLT]
    unfold UInt64.size at *
    omega

theorem coolOffElapsed_iff {info : AssetInfo} {now : Timestamp} :
    info.coolOffElapsed now = true ↔
      min (2 ^ 64 - 1) (info.lastTradeTimestamp.toNat + info.coolOffPeriod.toNat) ≤ now.toNat := by
  unfold coolOffElapsed
  rw [decide_eq_true_iff, UInt64.le_iff_toNat_le, toNat_nextTradeTime]

end AssetInfo

namespace Engine

open IndexBasket.Action

/-- Not more of a component is moved than its limit, whichever side of the fill it is. -/
def Limited (engine : Engine) (component : Address) (direction : TradeDirection) (fill : Fill) : Prop :=
  match direction with
  | .sell => fill.amountIn.toNat ≤ (engine.info component).maxSize.toNat
  | .buy => fill.amountOut.toNat ≤ (engine.info component).maxSize.toNat

variable {engine after : Engine} {context : CallContext} {command : Command} {component : Address} {trade : Trade}
  {reply : Reply}

/-- The quantity of a trade is within the limit, and the venue fills it exactly. -/
theorem limited_of_swap {direction : TradeDirection} {quantity bound : Amount} {exchange : Exchange} {fill : Fill}
    {venues : Venues} (size : engine.tradeSize component = .ok (direction, quantity))
    (swapped : Venues.execute exchange (engine.swapOrder component direction quantity) bound engine.venues =
      .ok fill venues) : engine.Limited component direction fill := by
  have within := tradeSize_le_maxSize size
  cases direction with
  | sell =>
    have sold : fill.amountIn = quantity := Venues.execute_fixedSide swapped
    rwa [← sold] at within
  | buy =>
    have bought : fill.amountOut = quantity := Venues.execute_fixedSide swapped
    rwa [← bought] at within

/-- Both kinds of trade settle a fill that the limit of a tradable component allows. -/
theorem Command.Trades.settles (trades : command.Trades component)
    (run : command.perform context engine = .ok reply after) :
    ∃ trade direction exchange fill venues, reply = .traded trade ∧ engine.Permits context component ∧
      engine.Tradable component context.timestamp ∧ engine.Limited component direction fill ∧
      settle context component direction exchange fill (engine.preTrade component) { engine with venues } =
        .ok trade after := by
  cases trades with
  | trade =>
    simp only [Command.perform, map_eq_ok] at run
    obtain ⟨trade, run, rfl⟩ := run
    obtain ⟨permits, tradable, plan, bound, fill, venues, planned, _, swapped, booked⟩ := trade_iff.mp run
    have limited := limited_of_swap (planTrade_eq_ok planned) swapped
    exact ⟨trade, _, _, fill, venues, rfl, permits, tradable, limited, booked⟩
  | tradeRemainingReserve =>
    simp only [Command.perform, map_eq_ok] at run
    obtain ⟨trade, run, rfl⟩ := run
    obtain ⟨permits, _, _, tradable, _, quoted, bound, fill, venues, _, _, _, _, limited, booked⟩ :=
      tradeRemainingReserve_iff.mp run
    exact ⟨trade, .buy, _, fill, venues, rfl, permits, tradable, limited, booked⟩

/-- A component has been traded at some time, or later. -/
def TradedSince (time : Nat) (component : Address) (engine : Engine) : Prop :=
  time ≤ (engine.info component).lastTradeTimestamp.toNat

theorem Amends.lastTradeTimestamp (amends : Amends engine after) (asset : Address) :
    (after.info asset).lastTradeTimestamp = (engine.info asset).lastTradeTimestamp := by
  have kept : ∀ (changed : Address) {change : AssetInfo → AssetInfo},
      (∀ info, (change info).lastTradeTimestamp = info.lastTradeTimestamp) →
      ((engine.updateInfo changed change).info asset).lastTradeTimestamp =
        (engine.info asset).lastTradeTimestamp := by
    intro changed change keeps
    rw [info_updateInfo_ite]
    split
    · exact keeps _
    · rfl
  rcases amends with @⟨_, step⟩ | _
  · cases step with
    | target changed | tradeMaximum changed | exchange changed | coolOffPeriod changed =>
      rw [info_record]
      exact kept changed (by intro info; rfl)
    | _ => rfl
  · rfl

theorem Amended.lastTradeTimestamp (amended : Amended engine after) (asset : Address) :
    (after.info asset).lastTradeTimestamp = (engine.info asset).lastTradeTimestamp := by
  induction amended with
  | refl => rfl
  | tail _ step ih => exact (step.lastTradeTimestamp asset).trans ih

theorem Command.Trades.lastTradeTimestamp (trades : command.Trades component)
    (run : command.perform context engine = .ok reply after) (asset : Address) :
    (after.info asset).lastTradeTimestamp =
      if component = asset then context.timestamp else (engine.info asset).lastTradeTimestamp := by
  obtain ⟨trade, direction, exchange, fill, venues, _, _, _, _, booked⟩ := trades.settles run
  split
  · rename_i same
    subst same
    rw [settle_info booked, settle_timestamp booked]
  · rename_i distinct
    rw [settle_info_ne distinct booked]
    rfl

/-- No time is ever set back: a trade that goes through waits for the cool-off of its
component, and a call that does not trade leaves all times as they are. -/
theorem moves_perform_tradedSince (time : Nat) (asset : Address) (context : CallContext)
    (running : command ≠ .activate) : Moves (Preserves (TradedSince time asset)) (command.perform context) := by
  by_cases manages : command.Manages
  · intro engine since
    unfold TradedSince
    rw [(moves_amends context manages running engine).lastTradeTimestamp]
    exact since
  · refine (failsInPlace_perform context command).moves fun {engine after reply} run since => ?_
    obtain ⟨component, trades⟩ := Command.exists_trades manages
    obtain ⟨_, _, _, _, _, _, _, tradable, _⟩ := trades.settles run
    have cooled := AssetInfo.coolOffElapsed_iff.mp tradable.cooled
    unfold TradedSince at since ⊢
    rw [trades.lastTradeTimestamp run]
    split
    · rename_i same
      subst same
      have range := (engine.info component).lastTradeTimestamp.toNat_lt
      omega
    · exact since

/-- Whether an operation puts the engine to work, with the times of all its assets back
at zero. -/
def Operation.activates : Operation → Engine → Bool
  | .call context .activate, engine => (activate context).succeeds (fun _ _ => true) engine
  | _, _ => false

/-- Whether a run never puts the engine to work anew. Calls that fail do not count. -/
def undisturbed : List Operation → Engine → Bool
  | [], _ => true
  | operation :: rest, engine => !operation.activates engine && undisturbed rest (operation.perform.final engine)

theorem Operation.tradedSince {operation : Operation} {time : Nat} (since : TradedSince time component engine)
    (idle : operation.activates engine = false) : TradedSince time component (operation.perform.final engine) := by
  cases operation with
  | call context command =>
    rw [perform, final_map]
    by_cases activation : command = .activate
    · subst activation
      have still : (activate context).final engine = engine := (failsInPlace_atomically _).final_of_refused idle
      rw [Command.perform, final_map, still]
      exact since
    · exact moves_perform_tradedSince time component context activation engine since
  | editBasket registry edit =>
    rw [perform, final_map, onBasket, final_within]
    exact since
  | editBalances edit =>
    rw [perform, final_map, onBalances, final_within]
    exact since
  | replaceBasket basket => exact since
  | replaceBalances balances => exact since
  | takeEvents => exact since

theorem tradedSince_finalAll {time : Nat} {operations : List Operation}
    (since : TradedSince time component engine) (idle : undisturbed operations engine = true) :
    TradedSince time component (finalAll Operation.perform operations engine) := by
  induction operations generalizing engine with
  | nil => exact since
  | cons operation rest ih =>
    rw [undisturbed, Bool.and_eq_true, Bool.not_eq_true'] at idle
    exact ih (operation.tradedSince since idle.1) idle.2

/-- A trade that goes through moves no more of its component than the limit allows, and
no trade of the component that comes after it, next or later and of either kind, goes
through before the cool-off is over. What happens in between makes no difference, unless
it puts the engine to work anew. -/
theorem trade_paced (reached : engine.Reachable) (trades : command.Trades component)
    (run : command.perform context engine = .ok (.traded trade) after) :
    (trade.direction = .sell → trade.amountSold.toNat ≤ (engine.info component).maxSize.toNat) ∧
    (trade.direction = .buy →
      trade.amountBought.toNat + trade.protocolFee.toNat ≤ (engine.info component).maxSize.toNat) ∧
    ∀ between : List Operation, undisturbed between after = true →
      let meanwhile := finalAll Operation.perform between after
      ∀ {next : Command} {context' : CallContext} {trade' : Trade} {later : Engine}, next.Trades component →
        next.perform context' meanwhile = .ok (.traded trade') later →
        min (2 ^ 64 - 1) (context.timestamp.toNat + (meanwhile.info component).coolOffPeriod.toNat) ≤
          context'.timestamp.toNat := by
  obtain ⟨trade', direction, exchange, fill, venues, same, permits, _, limited, booked⟩ := trades.settles run
  cases same
  obtain ⟨settled, _⟩ := settle_after_swap reached.sound permits.listed booked
  have direction_eq := settled.direction_eq
  refine ⟨fun sells => ?_, fun buys => ?_, fun between idle => ?_⟩
  · rw [direction_eq] at sells
    subst sells
    rw [settled.sold]
    exact limited
  · rw [direction_eq] at buys
    subst buys
    rw [settled.bought]
    exact limited
  · intro meanwhile next context' trade' later trades' run'
    have since : TradedSince context.timestamp.toNat component after := by
      unfold TradedSince
      rw [trades.lastTradeTimestamp run, if_pos rfl]
    have kept : TradedSince context.timestamp.toNat component meanwhile := tradedSince_finalAll since idle
    obtain ⟨_, _, _, _, _, _, _, tradable, _⟩ := trades'.settles run'
    have cooled := AssetInfo.coolOffElapsed_iff.mp tradable.cooled
    unfold TradedSince at kept
    omega

theorem trade_paced_twice :
    let engine := Market.engine Fixed.one (Fixed.ofInt 1_500_000_000_000_000_000)
      (Amount.ofNat 1_000_000_000_000_000_000)
    let first := (Command.trade Market.dai).perform (Market.call 1)
    let between : List Operation :=
      [.call (Market.call 1) (.setCoolOffPeriods [Market.dai] [100]), .call (Market.call 100) (.trade Market.dai),
        .call (Market.call 100) .activate, .takeEvents]
    let second := (Command.trade Market.dai).perform (Market.call 101)
    engine.Reachable ∧ ∃ trade after trade' later, first engine = .ok (.traded trade) after ∧ trade.direction = .buy ∧
      trade.amountBought.toNat + trade.protocolFee.toNat ≤ (engine.info Market.dai).maxSize.toNat ∧
      undisturbed between after = true ∧
      second (finalAll Operation.perform between after) = .ok (.traded trade') later ∧
      min (2 ^ 64 - 1) (1 + ((finalAll Operation.perform between after).info Market.dai).coolOffPeriod.toNat) ≤
        101 := by
  intro engine first between second
  have reached : engine.Reachable := Market.reachable _ _ _
  have traded : (Engine.trade (Market.call 1) Market.dai).succeeds (fun trade after => trade.direction = .buy ∧
      undisturbed between after = true ∧ (Engine.trade (Market.call 101) Market.dai).succeeds (fun _ _ => true)
        (finalAll Operation.perform between after) = true) engine = true := by decide +kernel
  obtain ⟨trade, after, bought, checked⟩ := succeeds_iff.mp traded
  obtain ⟨buys, idle, again⟩ := of_decide_eq_true checked
  obtain ⟨trade', later, bought', _⟩ := succeeds_iff.mp again
  have run : first engine = .ok (.traded trade) after := map_eq_ok.mpr ⟨trade, bought, rfl⟩
  have run' : second _ = .ok (.traded trade') later := map_eq_ok.mpr ⟨trade', bought', rfl⟩
  obtain ⟨_, limited, paced⟩ := trade_paced reached .trade run
  exact ⟨reached, trade, after, trade', later, run, buys, limited buys, idle, run', paced between idle .trade run'⟩

end Engine

end IndexBasket
