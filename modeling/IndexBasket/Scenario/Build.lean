import IndexBasket.Config.Basic
import IndexBasket.Engine.Trading
import IndexBasket.Scenario.Basic

namespace IndexBasket

def PoolDraft.read (draft : PoolDraft) : Except RunError Pool := do
  let assetA ← Scenario.address draft.assetA
  let reserveA ← Scenario.amount draft.reserveA
  let assetB ← Scenario.address draft.assetB
  let reserveB ← Scenario.amount draft.reserveB
  return Pool.create assetA reserveA assetB reserveB draft.feeBps

def RateDraft.addTo (venue : FixedRateVenue) (draft : RateDraft) : Except RunError FixedRateVenue := do
  let assetIn ← Scenario.address draft.assetIn
  let assetOut ← Scenario.address draft.assetOut
  return venue.withRate assetIn assetOut (← Scenario.amount draft.rate)

/-- Adds pools one by one. A pair may be full before all of them are read. -/
def VenueDraft.addPools (router : SplitRouter) (pools : List PoolDraft) : Except RunError SplitRouter :=
  pools.foldlM (fun router draft => do
    let pool ← draft.read
    (Action.stateAfter (SplitRouter.addPool pool) router).mapError fun cause => .engine (.venue cause))
    router

def VenueDraft.read : VenueDraft → Except RunError Venue
  | pair pools => do
    return .pair ((← pools.mapM PoolDraft.read).foldl PairRouter.addPool {})
  | split pools => do
    return .split (← addPools {} pools)
  | fixedRate rates slippage => do
    let venue ← rates.foldlM RateDraft.addTo {}
    return .fixedRate { venue with fillMode := (slippage.map .slipped).getD .quoted }

namespace Scenario

/-- The registry of a run: one basket, one module and its fee. -/
def registry (scenario : Scenario) (config : Config) : Except LedgerError Registry :=
  let registry : Registry := { feeRecipient := config.feeRecipient }
  Action.stateAfter (Registry.setModuleFee config.settings.module Engine.tradeFeeIndex config.protocolFee)
    ((registry.withBasket scenario.basket).withModule config.settings.module)

/-- The basket with its positions, on which the engine's module waits. -/
def basketOn (scenario : Scenario) (config : Config) (registry : Registry) : Except LedgerError Basket := do
  let basket ← Basket.create scenario.basket scenario.manager scenario.positions scenario.totalSupply
  Action.stateAfter (Basket.addModule registry scenario.manager config.settings.module) basket

/-- Credits what the supply holds of each position, and then the excess. -/
def fund (scenario : Scenario) : Action RunError Balances Unit := do
  scenario.positions.forM fun (asset, unit) => do
    let notional ← demand (.scenario (.notionalOverflow asset))
      (unit.notionalFloor scenario.totalSupply)
    (Balances.credit scenario.basket asset notional).mapError fun cause => .engine (.ledger cause)
  scenario.excess.forM fun (asset, amount) =>
    (Balances.credit scenario.basket asset amount).mapError fun cause => .engine (.ledger cause)

def openVenues (scenario : Scenario) : Action RunError Venues Unit :=
  scenario.venues.forM fun (exchange, draft) => do
    let venue ← Action.ofExcept draft.read
    (Venues.register exchange venue).mapError fun cause => .engine (.venue cause)

/-- The settings of the assets, grouped by what they set. -/
structure AssetSettings where
  exchanges : List (Address × Exchange) := []
  maxima : List (Address × Amount) := []
  coolOffs : List (Address × UInt64) := []

def AssetSettings.add (settings : AssetSettings) (draft : AssetDraft) : Except RunError AssetSettings := do
  let asset ← address draft.asset
  let exchanges ← draft.exchange.toList.mapM exchange
  let maxima ← draft.maxSize.toList.mapM amount
  return {
    exchanges := settings.exchanges ++ exchanges.map (asset, ·)
    maxima := settings.maxima ++ maxima.map (asset, ·)
    coolOffs := settings.coolOffs ++ draft.coolOffPeriod.toList.map (asset, ·) }

/-- The targets of the components that the basket holds, in the basket's order.
Every one of them has a target, and nothing else has. -/
def heldTargets (targets : List (Address × Fixed)) : List Address → Except ScenarioFault (List Fixed)
  | [] =>
    match (targets.map Prod.fst).min? with
    | some extra => .error (.notHeld extra)
    | none => .ok []
  | component :: rest => do
    let target ← demand (.missingTarget component) (targets.lookup component)
    return target :: (← heldTargets (targets.filter (·.1 ≠ component)) rest)

/-- A call of the engine while it is set up. -/
def onEngine (call : Engine.Call Unit) : Action RunError Engine Unit :=
  Action.mapError .engine call

def applySettings (context : CallContext) (settings : AssetSettings) : Action RunError Engine Unit := do
  if !settings.exchanges.isEmpty then
    onEngine (Engine.setExchanges context (settings.exchanges.map Prod.fst) (settings.exchanges.map Prod.snd))
  if !settings.maxima.isEmpty then
    onEngine (Engine.setTradeMaximums context (settings.maxima.map Prod.fst) (settings.maxima.map Prod.snd))
  if !settings.coolOffs.isEmpty then
    onEngine (Engine.setCoolOffPeriods context (settings.coolOffs.map Prod.fst)
      (settings.coolOffs.map Prod.snd))

/-- The manager's calls that open the rebalance. -/
def setUp (scenario : Scenario) : Action RunError Engine Unit := do
  let context : CallContext :=
    { caller := scenario.manager, kind := .externallyOwned, timestamp := scenario.startTime }
  onEngine (Engine.activate context)
  let traders ← Action.ofExcept (scenario.traders.mapM address)
  if !traders.isEmpty then
    onEngine (Engine.updateTraderStatus context traders (traders.map fun _ => true))
  if scenario.anyoneTrade then
    onEngine (Engine.updateAnyoneTrade context true)
  applySettings context (← Action.ofExcept (scenario.assets.foldlM AssetSettings.add {}))
  let engine ← get
  let oldTargets ← Action.ofExcept ((heldTargets scenario.targets
    (engine.basket.ledger.components.filter (· ≠ engine.reserve))).mapError .scenario)
  let multiplier ← match scenario.multiplier with
    | some text => Action.ofExcept (unit text)
    | none => pure engine.basket.ledger.multiplier
  onEngine (Engine.startRebalance context (scenario.newComponents.map Prod.fst)
    (scenario.newComponents.map Prod.snd) oldTargets multiplier)

/-- Builds an engine: registry, basket, balances and venues, and then the
manager's calls. -/
def build (scenario : Scenario) (config : Config) : Except RunError Engine := do
  let registry ← (scenario.registry config).mapError fun cause => .engine (.ledger cause)
  let basket ← (scenario.basketOn config registry).mapError fun cause => .engine (.ledger cause)
  let balances ← Action.stateAfter scenario.fund Balances.empty
  let venues ← Action.stateAfter scenario.openVenues {}
  Action.stateAfter scenario.setUp (Engine.create registry config.settings basket balances venues)

end Scenario

end IndexBasket
