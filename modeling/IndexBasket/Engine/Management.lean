import IndexBasket.Engine.State

namespace IndexBasket

namespace Engine

def requireManagerCaller (context : CallContext) : Call Unit := do
  if context.caller ≠ (← get).basket.manager then throw .onlyManager

/-- The basket is registered, and the engine's module runs on it. -/
def requireValidBasket : Call Unit := do
  let engine ← get
  if !engine.registry.isValidBasket engine.basket.address
      || !engine.basket.isInitializedModule engine.settings.module then
    throw .invalidBasket

def requireManager (context : CallContext) : Call Unit := do
  requireManagerCaller context
  requireValidBasket

/-- Takes the units of default positions as targets. -/
def adoptPositions : List Position → Call Unit
  | [] => pure ()
  | position :: rest => do
    if position.state = .external then throw .externalPositionsNotAllowed
    modify (·.updateInfo position.component fun info =>
      { info with targetUnit := position.unit, lastTradeTimestamp := 0 })
    adoptPositions rest

/-- Puts the engine's module to work on a basket that waits for it. The current
units become the targets. -/
def activate (context : CallContext) : Call Unit := Action.atomically do
  requireManagerCaller context
  let engine ← get
  if !engine.registry.isValidBasket engine.basket.address
      || !engine.basket.isPendingModule engine.settings.module then
    throw .notPending
  adoptPositions engine.basket.ledger.positions
  onBasket (Basket.initializeModule engine.settings.module)

def setTargets (multiplier : Fixed) : List (Address × Fixed) → Call Unit
  | [] => pure ()
  | (component, target) :: rest => do
    modify fun engine => (engine.updateInfo component ({ · with targetUnit := target })).record
      (.targetUnitsUpdated component target multiplier)
    setTargets multiplier rest

/-- Opens a rebalance over the components of the basket and some new ones, with
targets at the given multiplier. The reserve asset has no target. -/
def startRebalance (context : CallContext) (newComponents : List Address)
    (newTargets oldTargets : List Fixed) (multiplier : Fixed) : Call Unit := Action.atomically do
  requireManager context
  if newComponents.length ≠ newTargets.length then throw .lengthMismatch
  if multiplier ≤ Fixed.zero then throw (.ledger .multiplierTooSmall)
  let engine ← get
  let current := engine.basket.ledger.components.filter (· ≠ engine.reserve)
  if current.length ≠ oldTargets.length then throw .missingOldTargets
  let components := current ++ newComponents
  if hasDuplicate components then throw .duplicateComponent
  if components.contains engine.reserve then throw .reserveAsComponent
  let targets := components.zip (oldTargets ++ newTargets)
  if let some (component, _) := targets.find? (·.2 < Fixed.zero) then throw (.negativeTarget component)
  setTargets multiplier targets
  modify ({ · with rebalanceComponents := components, snapshot := multiplier })

/-- Settings come as two lists of one length, not empty, each component once. -/
def requireSettings (components : List Address) (count : Nat) : Except EngineError Unit := do
  if components.length ≠ count then throw .lengthMismatch
  if components.isEmpty then throw .emptyArray
  if hasDuplicate components then throw .duplicateComponent

def setTradeMaximums (context : CallContext) (components : List Address) (maxima : List Amount) :
    Call Unit := Action.atomically do
  requireManager context
  requireSettings components maxima.length
  (components.zip maxima).forM fun (component, maxSize) =>
    modify fun engine => (engine.updateInfo component ({ · with maxSize })).record
      (.tradeMaximumUpdated component maxSize)

/-- Routes assets, only to exchanges that are registered. -/
def setExchanges (context : CallContext) (components : List Address) (exchanges : List Exchange) :
    Call Unit := Action.atomically do
  requireManager context
  requireSettings components exchanges.length
  (components.zip exchanges).forM fun (component, exchange) => do
    if exchange ≠ .unset && !(← get).venues.contains exchange then throw (.exchangeNotEnabled exchange)
    modify fun engine => (engine.updateInfo component ({ · with exchange })).record
      (.assetExchangeUpdated component exchange)

def setCoolOffPeriods (context : CallContext) (components : List Address) (periods : List UInt64) :
    Call Unit := Action.atomically do
  requireManager context
  requireSettings components periods.length
  (components.zip periods).forM fun (component, coolOffPeriod) =>
    modify fun engine => (engine.updateInfo component ({ · with coolOffPeriod })).record
      (.coolOffPeriodUpdated component coolOffPeriod)

def setRaiseTargetPercentage (context : CallContext) (percentage : Amount) : Call Unit :=
  Action.atomically do
    requireManager context
    if percentage = Amount.zero then throw .invalidRaiseTarget
    modify fun engine =>
      { engine with settings := { engine.settings with raiseTargetPercentage := percentage } }.record
        (.raiseTargetPercentageUpdated percentage)

def updateTraderStatus (context : CallContext) (traders : List Address) (statuses : List Bool) :
    Call Unit := Action.atomically do
  requireManager context
  if traders.length ≠ statuses.length then throw .lengthMismatch
  if traders.isEmpty then throw .emptyArray
  if hasDuplicate traders then throw .duplicateTrader
  (traders.zip statuses).forM fun (trader, status) =>
    modify fun engine =>
      { engine with
        traders := if status then engine.traders.insert trader else engine.traders.erase trader }.record
        (.traderStatusUpdated trader status)

def updateAnyoneTrade (context : CallContext) (status : Bool) : Call Unit := Action.atomically do
  requireManager context
  modify fun engine => { engine with anyoneTrade := status }.record (.anyoneTradeUpdated status)

end Engine

end IndexBasket
