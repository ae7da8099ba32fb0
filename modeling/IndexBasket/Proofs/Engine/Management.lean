import IndexBasket.Engine.Command
import IndexBasket.Proofs.Action
import Mathlib.Logic.Relation

namespace IndexBasket

namespace Engine

open IndexBasket.Action

/-- Two states between which nothing has been traded. -/
structure SameHoldings (before after : Engine) : Prop where
  registry : after.registry = before.registry
  reserve : after.reserve = before.reserve
  address : after.basket.address = before.basket.address
  ledger : after.basket.ledger = before.basket.ledger
  supply : after.basket.totalSupply = before.basket.totalSupply
  balances : after.balances = before.balances
  venues : after.venues = before.venues
  reserve_not_component : Preserves (fun engine => engine.reserve ∉ engine.rebalanceComponents) before after

instance : Std.Refl SameHoldings := ⟨fun _ => ⟨rfl, rfl, rfl, rfl, rfl, rfl, rfl, id⟩⟩

instance : IsTrans Engine SameHoldings where
  trans _ _ _ first second :=
    ⟨second.registry.trans first.registry, second.reserve.trans first.reserve,
      second.address.trans first.address, second.ledger.trans first.ledger, second.supply.trans first.supply,
      second.balances.trans first.balances, second.venues.trans first.venues,
      second.reserve_not_component ∘ first.reserve_not_component⟩

/-- Guards only look. -/
theorem moves_requireManagerCaller (context : CallContext) : Moves Eq (requireManagerCaller context) :=
  moves_bind moves_get fun _ => moves_ite (moves_throw _) (moves_pure _)

theorem moves_requireValidBasket : Moves Eq requireValidBasket :=
  moves_bind moves_get fun _ => moves_ite (moves_throw _) (moves_pure _)

theorem moves_requireManager (context : CallContext) : Moves Eq (requireManager context) :=
  moves_bind (moves_requireManagerCaller context) fun _ => moves_requireValidBasket

theorem moves_requireAllowedTrader (context : CallContext) : Moves Eq (requireAllowedTrader context) :=
  moves_bind moves_get fun _ => moves_ite (moves_throw _) (moves_pure _)

theorem moves_requireExternallyOwned (context : CallContext) : Moves Eq (requireExternallyOwned context) :=
  moves_ite (moves_throw _) (moves_pure _)

theorem moves_requireInRebalance (component : Address) : Moves Eq (requireInRebalance component) :=
  moves_bind moves_get fun _ => moves_ite (moves_throw _) (moves_pure _)

theorem moves_requireTradable (component : Address) (now : Timestamp) :
    Moves Eq (requireTradable component now) :=
  moves_bind moves_get fun _ => moves_guard (moves_ite (moves_throw _) (moves_pure _))

theorem initializeModule_eq_ok {module : Address} {basket after : Basket} {done : Unit}
    (run : Basket.initializeModule module basket = .ok done after) :
    after = { basket with modules := basket.modules.insert module .initialized } := by
  simp only [Basket.initializeModule, bind_eq_ok, get_eq_ok, guard_bind_eq_ok, modify_eq_ok] at run
  obtain ⟨_, _, ⟨rfl, rfl⟩, _, rfl⟩ := run
  rfl

/-- To put the engine to work is to adopt the positions of its basket, and to mark its
module there. -/
theorem activate_eq_ok {context : CallContext} {engine after : Engine} {done : Unit}
    (run : activate context engine = .ok done after) :
    ∃ adopted modules, adoptPositions engine.basket.ledger.positions engine = .ok () adopted ∧
      after = { adopted with basket := { adopted.basket with modules } } := by
  have run := atomically_eq_ok.mp run
  simp only [bind_eq_ok, guard_bind_eq_ok, get_eq_ok, onBasket, within_eq_ok] at run
  obtain ⟨_, _, called, _, _, ⟨rfl, rfl⟩, _, _, adopted, adoption, basket, initialized, rfl⟩ := run
  have same := (moves_requireManagerCaller context).of_ok called
  subst same
  rw [initializeModule_eq_ok initialized]
  exact ⟨adopted, _, adoption, rfl⟩

section Activation

variable {R : Engine → Engine → Prop} [Std.Refl R] [IsTrans Engine R]
  (adopts : ∀ engine (position : Position), R engine (engine.updateInfo position.component fun info =>
    { info with targetUnit := position.unit, lastTradeTimestamp := 0 }))

include adopts

theorem moves_adoptPositions (positions : List Position) : Moves R (adoptPositions positions) := by
  induction positions with
  | nil => exact moves_pure _
  | cons position rest ih =>
    exact moves_guard (moves_bind (moves_modify fun engine => adopts engine position) fun _ => ih)

/-- Putting the engine to work writes the records of its assets, and the modules of its
basket. -/
theorem moves_activate_of
    (starts : ∀ engine modules, R engine { engine with basket := { engine.basket with modules } })
    (context : CallContext) : Moves R (activate context) := by
  refine (failsInPlace_atomically _).moves fun run => ?_
  obtain ⟨adopted, modules, adoption, rfl⟩ := activate_eq_ok run
  exact IsTrans.trans _ _ _ ((moves_adoptPositions adopts _).of_ok adoption) (starts adopted modules)

end Activation

theorem moves_activate (context : CallContext) : Moves SameHoldings (activate context) :=
  moves_activate_of (fun _ _ => ⟨rfl, rfl, rfl, rfl, rfl, rfl, rfl, id⟩)
    (fun _ _ => ⟨rfl, rfl, rfl, rfl, rfl, rfl, rfl, id⟩) context

/-- The single writes of which the manager's calls are made, but for the one that puts the
engine to work: each changes one record and tells of it, except that the opening of a
rebalance tells nothing. -/
inductive Configures (engine : Engine) : Engine → Prop
  | target (asset : Address) (target multiplier : Fixed) (nonneg : 0 ≤ target.toInt) :
      Configures engine ((engine.updateInfo asset ({ · with targetUnit := target })).record
        (.targetUnitsUpdated asset target multiplier))
  | opening (components : List Address) (snapshot : Fixed) (positive : 0 < snapshot.toInt)
      (distinct : hasDuplicate components = false) (absent : engine.reserve ∉ components) :
      Configures engine { engine with rebalanceComponents := components, snapshot }
  | tradeMaximum (asset : Address) (maxSize : Amount) :
      Configures engine ((engine.updateInfo asset ({ · with maxSize })).record (.tradeMaximumUpdated asset maxSize))
  | exchange (asset : Address) (exchange : Exchange)
      (registered : exchange = .unset ∨ engine.venues.contains exchange = true) :
      Configures engine ((engine.updateInfo asset ({ · with exchange })).record (.assetExchangeUpdated asset exchange))
  | coolOffPeriod (asset : Address) (period : UInt64) :
      Configures engine ((engine.updateInfo asset ({ · with coolOffPeriod := period })).record
        (.coolOffPeriodUpdated asset period))
  | raisePercentage (percentage : Amount) (positive : percentage ≠ Amount.zero) :
      Configures engine ({ engine with
        settings := { engine.settings with raiseTargetPercentage := percentage } }.record
          (.raiseTargetPercentageUpdated percentage))
  | trader (trader : Address) (status : Bool) :
      Configures engine ({ engine with
        traders := if status then engine.traders.insert trader else engine.traders.erase trader }.record
          (.traderStatusUpdated trader status))
  | anyoneTrade (status : Bool) :
      Configures engine ({ engine with anyoneTrade := status }.record (.anyoneTradeUpdated status))

/-- The single writes of which calls are made that neither trade nor put the engine to
work: those of the manager, and the raise of all targets. -/
inductive Amends (engine : Engine) : Engine → Prop
  | configures {after : Engine} (step : Configures engine after) : Amends engine after
  | raised (snapshot : Fixed)
      (run : raisedSnapshot engine.snapshot engine.settings.raiseTargetPercentage = .ok snapshot) :
      Amends engine ({ engine with snapshot }.record (.assetTargetsRaised snapshot))

/-- One such write after another. -/
abbrev Configured : Engine → Engine → Prop := Relation.ReflTransGen Configures

abbrev Amended : Engine → Engine → Prop := Relation.ReflTransGen Amends

/-- A write of the manager that leaves the multiplier of the targets as it is. All do but
the opening of a rebalance. -/
structure Adjusts (before after : Engine) : Prop where
  configures : Configures before after
  snapshot : after.snapshot = before.snapshot

abbrev Adjusted : Engine → Engine → Prop := Relation.ReflTransGen Adjusts

theorem moves_modify_adjusts {change : Engine → Engine} (step : ∀ engine, Adjusts engine (change engine)) :
    Moves Adjusted (modify change : Call PUnit) :=
  moves_modify fun engine => .single (step engine)

theorem Adjusted.configured {before after : Engine} (adjusted : Adjusted before after) : Configured before after :=
  Relation.ReflTransGen.mono (fun _ _ => Adjusts.configures) _ _ adjusted

theorem Configured.amended {before after : Engine} (configured : Configured before after) : Amended before after :=
  Relation.ReflTransGen.mono (fun _ _ => Amends.configures) _ _ configured

theorem Amends.sameHoldings {before after : Engine} (amends : Amends before after) : SameHoldings before after := by
  rcases amends with @⟨_, step⟩ | _
  · cases step with
    | opening components snapshot positive distinct absent =>
      exact ⟨rfl, rfl, rfl, rfl, rfl, rfl, rfl, fun _ => absent⟩
    | _ => exact ⟨rfl, rfl, rfl, rfl, rfl, rfl, rfl, id⟩
  · exact ⟨rfl, rfl, rfl, rfl, rfl, rfl, rfl, id⟩

theorem Amended.sameHoldings {before after : Engine} (amended : Amended before after) : SameHoldings before after := by
  induction amended with
  | refl => exact Std.Refl.refl _
  | tail _ step ih => exact IsTrans.trans _ _ _ ih step.sameHoldings

theorem moves_setTargets (multiplier : Fixed) {targets : List (Address × Fixed)}
    (nonneg : ∀ target ∈ targets, 0 ≤ target.2.toInt) : Moves Configured (setTargets multiplier targets) := by
  induction targets with
  | nil => exact moves_pure _
  | cons target rest ih =>
    obtain ⟨first, later⟩ := List.forall_mem_cons.mp nonneg
    exact moves_bind (moves_modify fun _ => .single (.target target.1 target.2 multiplier first)) fun _ => ih later

theorem moves_startRebalance (context : CallContext) (newComponents : List Address)
    (newTargets oldTargets : List Fixed) (multiplier : Fixed) :
    Moves Configured (startRebalance context newComponents newTargets oldTargets multiplier) := by
  refine moves_atomically_of_ok fun run => ?_
  simp only [bind_eq_ok, guard_bind_eq_ok, get_eq_ok] at run
  obtain ⟨_, _, managed, _, positive, _, _, ⟨rfl, rfl⟩, _, distinct, absent, run⟩ := run
  have same := (moves_requireManager context).of_ok managed
  subst same
  cases offending : List.find? _ _ with
  | some target =>
    rw [offending] at run
    obtain ⟨_, _, stopped, _⟩ := bind_eq_ok.mp run
    exact absurd stopped throw_ne_ok
  | none =>
    rw [offending] at run
    simp only [bind_eq_ok, modify_eq_ok] at run
    obtain ⟨_, targeted, targets, rfl⟩ := run
    have nonneg := fun target member =>
      Int.not_lt.mp fun negative => List.find?_eq_none.mp offending target member (decide_eq_true negative)
    have moved := (moves_setTargets multiplier nonneg).of_ok targets
    refine moved.tail (.opening _ _ (Int.not_le.mp positive) (Bool.eq_false_iff.mpr distinct) fun member => ?_)
    rw [moved.amended.sameHoldings.reserve] at member
    exact absent (List.contains_iff_mem.mpr member)

theorem moves_setTradeMaximums (context : CallContext) (components : List Address) (maxima : List Amount) :
    Moves Adjusted (setTradeMaximums context components maxima) := by
  refine moves_atomically (moves_bind (moves_of_still (moves_requireManager context)) fun _ => ?_)
  refine moves_bind (moves_lift _) fun _ => moves_forM (fun setting => ?_) _
  exact moves_modify_adjusts fun _ => ⟨.tradeMaximum setting.1 setting.2, rfl⟩

theorem moves_setExchanges (context : CallContext) (components : List Address) (exchanges : List Exchange) :
    Moves Adjusted (setExchanges context components exchanges) := by
  refine moves_atomically (moves_bind (moves_of_still (moves_requireManager context)) fun _ => ?_)
  refine moves_bind (moves_lift _) fun _ => moves_forM (fun setting => ?_) _
  -- The exchange is looked up in the very state in which the route is set.
  refine FailsInPlace.moves ?_ fun run => ?_
  · exact failsInPlace_bind moves_get fun _ => failsInPlace_guard (total_modify _).failsInPlace
  · simp only [bind_eq_ok, get_eq_ok, guard_bind_eq_ok, modify_eq_ok] at run
    obtain ⟨_, _, ⟨rfl, rfl⟩, registered, rfl⟩ := run
    refine .single ⟨.exchange setting.1 setting.2 ?_, rfl⟩
    simpa [Classical.or_iff_not_imp_left] using registered

theorem moves_setCoolOffPeriods (context : CallContext) (components : List Address) (periods : List UInt64) :
    Moves Adjusted (setCoolOffPeriods context components periods) := by
  refine moves_atomically (moves_bind (moves_of_still (moves_requireManager context)) fun _ => ?_)
  refine moves_bind (moves_lift _) fun _ => moves_forM (fun setting => ?_) _
  exact moves_modify_adjusts fun _ => ⟨.coolOffPeriod setting.1 setting.2, rfl⟩

theorem moves_setRaiseTargetPercentage (context : CallContext) (percentage : Amount) :
    Moves Adjusted (setRaiseTargetPercentage context percentage) := by
  refine moves_atomically (moves_bind (moves_of_still (moves_requireManager context)) fun _ => ?_)
  exact moves_guarded fun positive => moves_modify_adjusts fun _ => ⟨.raisePercentage percentage positive, rfl⟩

theorem moves_updateTraderStatus (context : CallContext) (traders : List Address) (statuses : List Bool) :
    Moves Adjusted (updateTraderStatus context traders statuses) := by
  refine moves_atomically (moves_bind (moves_of_still (moves_requireManager context)) fun _ => ?_)
  refine moves_guard (moves_guard (moves_guard (moves_forM (fun entry => ?_) _)))
  exact moves_modify_adjusts fun _ => ⟨.trader entry.1 entry.2, rfl⟩

theorem moves_updateAnyoneTrade (context : CallContext) (status : Bool) :
    Moves Adjusted (updateAnyoneTrade context status) := by
  refine moves_atomically (moves_bind (moves_of_still (moves_requireManager context)) fun _ => ?_)
  exact moves_modify_adjusts fun _ => ⟨.anyoneTrade status, rfl⟩

/-- A raise that goes through: all targets are met, reserve is left, and nothing but the
multiplier and the event is new. -/
theorem raiseAssetTargets_eq_ok {context : CallContext} {engine after : Engine} {raised : Fixed}
    (run : raiseAssetTargets context engine = .ok raised after) :
    engine.allTargetsMet = .ok true ∧ Fixed.zero < engine.reserveUnit ∧
      raisedSnapshot engine.snapshot engine.settings.raiseTargetPercentage = .ok raised ∧
      after = { engine with snapshot := raised }.record (.assetTargetsRaised raised) := by
  have run := atomically_eq_ok.mp run
  simp only [bind_eq_ok, get_eq_ok, lift_eq_ok, guard_bind_eq_ok, modify_eq_ok, pure_eq_ok] at run
  obtain ⟨_, _, allowed, _, _, valid, _, _, ⟨rfl, rfl⟩, met, _, ⟨found, rfl⟩, ready, _, _, ⟨step, rfl⟩, _, _, rfl, rfl,
    rfl⟩ := run
  have same := (moves_requireAllowedTrader context).of_ok allowed
  subst same
  have same := moves_requireValidBasket.of_ok valid
  subst same
  simp only [Bool.not_eq_true', Bool.not_eq_false, Bool.and_eq_true, decide_eq_true_iff] at ready
  obtain ⟨rfl, left⟩ := ready
  exact ⟨found, left, step, rfl⟩

theorem moves_raiseAssetTargets (context : CallContext) : Moves Amended (raiseAssetTargets context) := by
  refine (failsInPlace_atomically _).moves fun run => ?_
  obtain ⟨_, _, step, rfl⟩ := raiseAssetTargets_eq_ok run
  exact .single (.raised _ step)

/-- A call that trades nothing. -/
def Command.Manages : Command → Prop
  | .trade _ => False
  | .tradeRemainingReserve _ => False
  | _ => True

/-- The calls that trade a component. -/
inductive Command.Trades (component : Address) : Command → Prop
  | trade : Trades component (.trade component)
  | tradeRemainingReserve : Trades component (.tradeRemainingReserve component)

theorem Command.exists_trades {command : Command} (trades : ¬command.Manages) :
    ∃ component, command.Trades component := by
  cases command with
  | trade component => exact ⟨component, .trade⟩
  | tradeRemainingReserve component => exact ⟨component, .tradeRemainingReserve⟩
  | _ => exact absurd trivial trades

/-- The manager's calls, by which a rebalance is set up. -/
def Command.SetsUp : Command → Prop
  | .trade _ => False
  | .tradeRemainingReserve _ => False
  | .raiseAssetTargets => False
  | _ => True

theorem Command.SetsUp.manages {command : Command} (setsUp : command.SetsUp) : command.Manages := by
  cases command with
  | trade | tradeRemainingReserve | raiseAssetTargets => exact setsUp.elim
  | _ => trivial

theorem Command.Manages.setsUp {command : Command} (manages : command.Manages)
    (raises : command ≠ .raiseAssetTargets) : command.SetsUp := by
  cases command with
  | trade | tradeRemainingReserve => exact manages.elim
  | raiseAssetTargets => exact absurd rfl raises
  | _ => trivial

/-- Whether a call opens a rebalance. -/
def Command.opens : Command → Bool
  | .startRebalance .. => true
  | _ => false

/-- The manager's calls beside the one that puts the engine to work and the one that opens
a rebalance. -/
theorem moves_adjusts (context : CallContext) {command : Command} (setsUp : command.SetsUp)
    (running : command ≠ .activate) (closed : command.opens = false) :
    Moves Adjusted (command.perform context) := by
  cases command with
  | activate => exact absurd rfl running
  | startRebalance => cases closed
  | setTradeMaximums components maxima => exact moves_map _ (moves_setTradeMaximums context components maxima)
  | setExchanges components exchanges => exact moves_map _ (moves_setExchanges context components exchanges)
  | setCoolOffPeriods components periods =>
    exact moves_map _ (moves_setCoolOffPeriods context components periods)
  | setRaiseTargetPercentage percentage =>
    exact moves_map _ (moves_setRaiseTargetPercentage context percentage)
  | updateTraderStatus traders statuses =>
    exact moves_map _ (moves_updateTraderStatus context traders statuses)
  | updateAnyoneTrade status => exact moves_map _ (moves_updateAnyoneTrade context status)
  | trade | tradeRemainingReserve | raiseAssetTargets => exact setsUp.elim

theorem moves_configures (context : CallContext) {command : Command} (setsUp : command.SetsUp)
    (running : command ≠ .activate) : Moves Configured (command.perform context) := by
  cases command with
  | startRebalance newComponents newTargets oldTargets multiplier =>
    exact moves_map _ (moves_startRebalance context newComponents newTargets oldTargets multiplier)
  | _ => exact fun start => (moves_adjusts context setsUp running rfl start).configured

/-- Whoever makes a call, whenever and with whatever arguments: unless it trades or puts
the engine to work, it only amends records. -/
theorem moves_amends (context : CallContext) {command : Command} (manages : command.Manages)
    (running : command ≠ .activate) : Moves Amended (command.perform context) := by
  by_cases raises : command = .raiseAssetTargets
  · subst raises
    exact moves_map _ (moves_raiseAssetTargets context)
  · exact fun start => (moves_configures context (manages.setsUp raises) running start).amended

/-- A call that does not trade changes no holding. -/
theorem moves_manages (context : CallContext) {command : Command} (manages : command.Manages) :
    Moves SameHoldings (command.perform context) := by
  by_cases activates : command = .activate
  · subst activates
    exact moves_map _ (moves_activate context)
  · exact fun start => (moves_amends context manages activates start).sameHoldings

/-- What keeping the holdings gives, and both kinds of trade keep to, holds for
every call. -/
theorem moves_perform_of {R : Engine → Engine → Prop}
    (still : ∀ {before after : Engine}, SameHoldings before after → R before after)
    (trades : ∀ context component, Moves R (Engine.trade context component))
    (tradesRemaining : ∀ context component, Moves R (Engine.tradeRemainingReserve context component))
    (context : CallContext) (command : Command) : Moves R (command.perform context) := by
  by_cases manages : command.Manages
  · exact fun start => still (moves_manages context manages start)
  · obtain ⟨component, traded⟩ := Command.exists_trades manages
    cases traded with
    | trade => exact moves_map _ (trades context component)
    | tradeRemainingReserve => exact moves_map _ (tradesRemaining context component)

end Engine

end IndexBasket
