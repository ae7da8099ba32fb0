import IndexBasket.Proofs.Commuting
import IndexBasket.Proofs.Engine.Footprint

namespace IndexBasket

namespace Engine

open IndexBasket.Action

/-- The engine as if it had recorded some events before all those that it holds. -/
def withEarlier (earlier : List Event) (engine : Engine) : Engine :=
  { engine with events := earlier ++ engine.events }

variable {earlier : List Event}

theorem withEarlier_withEarlier (first second : List Event) (engine : Engine) :
    (engine.withEarlier second).withEarlier first = engine.withEarlier (first ++ second) := by
  unfold withEarlier
  rw [List.append_assoc]

theorem record_withEarlier (engine : Engine) (event : Event) :
    (engine.withEarlier earlier).record event = (engine.record event).withEarlier earlier := by
  unfold record withEarlier
  rw [List.append_assoc]

theorem commutes_record {change : Engine → Engine} {event : Event}
    (apart : ∀ engine, change (engine.withEarlier earlier) = (change engine).withEarlier earlier) :
    Commutes (withEarlier earlier) (modify fun engine => (change engine).record event : Call PUnit) :=
  commutes_modify fun engine => (congrArg (record · event) (apart engine)).trans (record_withEarlier _ event)

theorem commutes_requireManagerCaller (context : CallContext) :
    Commutes (withEarlier earlier) (requireManagerCaller context) :=
  commutes_get_bind (fun _ => rfl) fun _ => commutes_ite (commutes_throw _) (commutes_pure _)

theorem commutes_requireValidBasket : Commutes (withEarlier earlier) requireValidBasket :=
  commutes_get_bind (fun _ => rfl) fun _ => commutes_ite (commutes_throw _) (commutes_pure _)

theorem commutes_requireManager (context : CallContext) : Commutes (withEarlier earlier) (requireManager context) :=
  commutes_bind (commutes_requireManagerCaller context) fun _ => commutes_requireValidBasket

theorem commutes_requireAllowedTrader (context : CallContext) :
    Commutes (withEarlier earlier) (requireAllowedTrader context) :=
  commutes_get_bind (fun _ => rfl) fun _ => commutes_ite (commutes_throw _) (commutes_pure _)

theorem commutes_requireTradable (component : Address) (now : Timestamp) :
    Commutes (withEarlier earlier) (requireTradable component now) :=
  commutes_get_bind (fun _ => rfl) fun _ => commutes_guard (commutes_ite (commutes_throw _) (commutes_pure _))

theorem commutes_guarded {α : Type} {context : CallContext} {component : Address} {rest : Call α}
    (commutes : Commutes (withEarlier earlier) rest) :
    Commutes (withEarlier earlier) (do
      requireAllowedTrader context
      requireExternallyOwned context
      requireValidBasket
      requireInRebalance component
      rest : Call α) := by
  refine commutes_bind (commutes_requireAllowedTrader context) fun _ => ?_
  refine commutes_bind (commutes_ite (commutes_throw _) (commutes_pure _)) fun _ => ?_
  refine commutes_bind commutes_requireValidBasket fun _ => commutes_bind ?_ fun _ => commutes
  exact commutes_get_bind (fun _ => rfl) fun _ => commutes_ite (commutes_throw _) (commutes_pure _)

theorem commutes_onBalances (update : Balances.Update) : Commutes (withEarlier earlier) (onBalances update) :=
  commutes_within (fun _ => rfl) fun _ _ => rfl

theorem commutes_onBasket (update : Basket.Update) : Commutes (withEarlier earlier) (onBasket update) :=
  commutes_within (fun _ => rfl) fun _ _ => rfl

theorem commutes_swap (exchange : Exchange) (order : SwapOrder) (bound : Amount) :
    Commutes (withEarlier earlier) (swap exchange order bound) :=
  commutes_within (fun _ => rfl) fun _ _ => rfl

theorem commutes_updatePosition (asset : Address) (before : Amount) :
    Commutes (withEarlier earlier) (updatePosition asset before) := by
  refine commutes_get_bind (fun _ => rfl) fun _ => commutes_bind (commutes_lift _) fun _ => ?_
  exact commutes_bind (commutes_onBasket _) fun _ => commutes_pure _

theorem commutes_settle (context : CallContext) (component : Address) (direction : TradeDirection)
    (exchange : Exchange) (fill : Fill) (before : PreTrade) :
    Commutes (withEarlier earlier) (settle context component direction exchange fill before) := by
  refine commutes_get_bind (fun _ => rfl) fun _ => commutes_bind (commutes_onBalances _) fun _ => ?_
  refine commutes_bind (commutes_onBalances _) fun _ => commutes_bind (commutes_lift _) fun fee => ?_
  refine commutes_when (commutes_onBalances _) fun _ => ?_
  refine commutes_bind (commutes_updatePosition _ _) fun _ => commutes_bind (commutes_updatePosition _ _) fun _ => ?_
  refine commutes_bind (commutes_modify fun _ => rfl) fun _ => ?_
  exact commutes_bind (commutes_record fun _ => rfl) fun _ => commutes_pure _

theorem commutes_trade (context : CallContext) (component : Address) :
    Commutes (withEarlier earlier) (trade context component) := by
  refine commutes_atomically (commutes_guarded (commutes_bind (commutes_requireTradable _ _) fun _ => ?_))
  refine commutes_get_bind (fun _ => rfl) fun _ => commutes_bind (commutes_lift _) fun plan => ?_
  refine commutes_bind (commutes_lift _) fun _ => commutes_bind (commutes_swap _ _ _) fun _ => ?_
  exact commutes_settle _ _ _ _ _ _

theorem nothingToSell_withEarlier (engine : Engine) (components : List Address) :
    (engine.withEarlier earlier).nothingToSell components = engine.nothingToSell components := by
  induction components with
  | nil => rfl
  | cons component rest ih =>
    rw [nothingToSell, nothingToSell, ih]
    rfl

theorem targetsMet_withEarlier (engine : Engine) (components : List Address) :
    (engine.withEarlier earlier).targetsMet components = engine.targetsMet components := by
  induction components with
  | nil => rfl
  | cons component rest ih =>
    rw [targetsMet, targetsMet, ih]
    rfl

theorem commutes_tradeRemainingReserve (context : CallContext) (component : Address) :
    Commutes (withEarlier earlier) (tradeRemainingReserve context component) := by
  refine commutes_atomically (commutes_guarded (commutes_get_bind (fun engine => ?_) fun _ => ?_))
  · rw [noTokensToSell, nothingToSell_withEarlier]
    rfl
  refine commutes_bind (commutes_lift _) fun _ => commutes_guard (commutes_guard ?_)
  refine commutes_bind (commutes_requireTradable _ _) fun _ => commutes_guard ?_
  refine commutes_bind (commutes_lift _) fun _ => commutes_guard (commutes_bind (commutes_lift _) fun _ => ?_)
  exact commutes_bind (commutes_swap _ _ _) fun _ => commutes_guard (commutes_settle _ _ _ _ _ _)

theorem commutes_raiseAssetTargets (context : CallContext) :
    Commutes (withEarlier earlier) (raiseAssetTargets context) := by
  refine commutes_atomically (commutes_bind (commutes_requireAllowedTrader context) fun _ => ?_)
  refine commutes_bind commutes_requireValidBasket fun _ => commutes_get_bind (fun engine => ?_) fun _ => ?_
  · rw [allTargetsMet, targetsMet_withEarlier]
    rfl
  refine commutes_bind (commutes_lift _) fun _ => commutes_guard (commutes_bind (commutes_lift _) fun _ => ?_)
  exact commutes_bind (commutes_record fun _ => rfl) fun _ => commutes_pure _

theorem commutes_activate (context : CallContext) : Commutes (withEarlier earlier) (activate context) := by
  have adopted : ∀ positions, Commutes (withEarlier earlier) (adoptPositions positions) := by
    intro positions
    induction positions with
    | nil => exact commutes_pure _
    | cons position rest ih =>
      exact commutes_guard (commutes_bind (commutes_modify fun _ => rfl) fun _ => ih)
  refine commutes_atomically (commutes_bind (commutes_requireManagerCaller context) fun _ => ?_)
  refine commutes_get_bind (fun _ => rfl) fun _ => commutes_guard (commutes_bind (adopted _) fun _ => ?_)
  exact commutes_onBasket _

theorem commutes_startRebalance (context : CallContext) (newComponents : List Address)
    (newTargets oldTargets : List Fixed) (multiplier : Fixed) :
    Commutes (withEarlier earlier) (startRebalance context newComponents newTargets oldTargets multiplier) := by
  have targeted : ∀ targets, Commutes (withEarlier earlier) (setTargets multiplier targets) := by
    intro targets
    induction targets with
    | nil => exact commutes_pure _
    | cons target rest ih => exact commutes_bind (commutes_record fun _ => rfl) fun _ => ih
  refine commutes_atomically (commutes_bind (commutes_requireManager context) fun _ => ?_)
  refine commutes_guard (commutes_guard (commutes_get_bind (fun _ => rfl) fun engine => ?_))
  refine commutes_guard (commutes_guard (commutes_guard ?_))
  dsimp only
  split
  · refine commutes_bind (commutes_throw _) fun _ => commutes_bind (targeted _) fun _ => ?_
    exact commutes_modify fun _ => rfl
  · exact commutes_bind (targeted _) fun _ => commutes_modify fun _ => rfl

theorem commutes_managed {context : CallContext} {act : Call Unit} (commutes : Commutes (withEarlier earlier) act) :
    Commutes (withEarlier earlier) (atomically do
      requireManager context
      act) :=
  commutes_atomically (commutes_bind (commutes_requireManager context) fun _ => commutes)

/-- Whoever makes a call, whenever and with whatever arguments: what the engine has
recorded before is not looked at and stays where it is. -/
theorem commutes_perform (context : CallContext) (command : Command) :
    Commutes (withEarlier earlier) (command.perform context) := by
  cases command with
  | activate => exact commutes_map _ (commutes_activate context)
  | startRebalance newComponents newTargets oldTargets multiplier =>
    exact commutes_map _ (commutes_startRebalance context newComponents newTargets oldTargets multiplier)
  | setTradeMaximums components maxima =>
    refine commutes_map _ (commutes_managed (commutes_bind (commutes_lift _) fun _ => ?_))
    exact commutes_forM (fun setting => by exact commutes_record fun _ => rfl) _
  | setExchanges components exchanges =>
    refine commutes_map _ (commutes_managed (commutes_bind (commutes_lift _) fun _ => ?_))
    refine commutes_forM (fun setting => ?_) _
    exact commutes_get_bind (fun _ => rfl) fun _ => commutes_guard (commutes_record fun _ => rfl)
  | setCoolOffPeriods components periods =>
    refine commutes_map _ (commutes_managed (commutes_bind (commutes_lift _) fun _ => ?_))
    exact commutes_forM (fun setting => by exact commutes_record fun _ => rfl) _
  | setRaiseTargetPercentage percentage =>
    exact commutes_map _ (commutes_managed (commutes_guard (commutes_record fun _ => rfl)))
  | updateTraderStatus traders statuses =>
    refine commutes_map _ (commutes_managed (commutes_guard (commutes_guard (commutes_guard ?_))))
    exact commutes_forM (fun entry => by exact commutes_record fun _ => rfl) _
  | updateAnyoneTrade status => exact commutes_map _ (commutes_managed (commutes_record fun _ => rfl))
  | trade component => exact commutes_map _ (commutes_trade context component)
  | tradeRemainingReserve component => exact commutes_map _ (commutes_tradeRemainingReserve context component)
  | raiseAssetTargets => exact commutes_map _ (commutes_raiseAssetTargets context)

/-! What the manager's calls tell, and what the calls that follow them tell. -/

/-- Events by which a rebalance is set up. -/
def SetsUp : Event → Prop
  | .tradeExecuted _ => False
  | .assetTargetsRaised _ => False
  | _ => True

/-- The engine tells of nothing but how a rebalance has been set up. -/
def Untraded (engine : Engine) : Prop := ∀ event ∈ engine.events, SetsUp event

variable {engine after : Engine} {context : CallContext} {command : Command}

theorem Untraded.record (untraded : engine.Untraded) {event : Event} (setsUp : SetsUp event) :
    (engine.record event).Untraded := by
  intro told member
  rcases List.mem_append.mp member with before | now
  · exact untraded told before
  · rwa [List.mem_singleton.mp now]

theorem Configures.untraded (step : Configures engine after) (untraded : engine.Untraded) : after.Untraded := by
  cases step with
  | opening => exact untraded
  | _ => exact untraded.record trivial

theorem Configured.untraded (configured : Configured engine after) (untraded : engine.Untraded) : after.Untraded := by
  induction configured with
  | refl => exact untraded
  | tail _ step ih => exact step.untraded ih

theorem moves_setsUp_untraded (context : CallContext) (setsUp : command.SetsUp) :
    Moves (Preserves Untraded) (command.perform context) := by
  by_cases activates : command = .activate
  · subst activates
    exact moves_map _ (moves_activate_of (fun _ _ => id) (fun _ _ => id) context)
  · exact fun start => (moves_configures context setsUp activates start).untraded

theorem Command.Trades.events {component : Address} {trade : Trade} (trades : command.Trades component)
    (run : command.perform context engine = .ok (.traded trade) after) :
    after.events = engine.events ++ [.tradeExecuted trade] ∧ trade.timestamp = context.timestamp := by
  obtain ⟨_, _, _, _, _, same, _, _, _, booked⟩ := trades.settles run
  cases same
  exact ⟨(trades.footprint run).events, settle_timestamp booked⟩

theorem raiseAssetTargets_events {raised : Fixed}
    (run : Engine.raiseAssetTargets context engine = .ok raised after) :
    after.events = engine.events ++ [.assetTargetsRaised raised] := by
  obtain ⟨_, _, _, rfl⟩ := raiseAssetTargets_eq_ok run
  rfl

end Engine

end IndexBasket
