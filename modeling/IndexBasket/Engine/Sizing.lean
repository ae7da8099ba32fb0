import IndexBasket.Engine.State

namespace IndexBasket

/-- A trade that would be made now, with the quote it is based on. -/
structure TradePlan where
  component : Address
  direction : TradeDirection
  quantity : Amount
  exchange : Exchange
  quote : Quote
deriving DecidableEq

namespace Engine

def notionalFloor (unit : Fixed) (supply : Amount) : Except EngineError Amount :=
  demand (.ledger .overflow) (unit.notionalFloor supply)

def notionalCeil (unit : Fixed) (supply : Amount) : Except EngineError Amount :=
  demand (.ledger .overflow) (unit.notionalCeil supply)

/-- The unit at which a supply holds an amount, rounded down. -/
def unitOfNotional (notional supply : Amount) : Except EngineError Fixed :=
  demand (.ledger .overflow) ((notional.preciseDiv supply).bind Amount.toFixed?)

/-- The target of a component at the live multiplier, rounded down. -/
def targetUnit (engine : Engine) (component : Address) : Except EngineError Fixed :=
  demand (.ledger .overflow)
    ((engine.info component).targetUnit.mulDivFloor engine.basket.ledger.multiplier engine.snapshot)

def targetUnits (engine : Engine) (components : List Address) : Except EngineError (List Fixed) :=
  components.mapM engine.targetUnit

def targetsMet (engine : Engine) : List Address → Except EngineError Bool
  | [] => .ok true
  | component :: rest => do
    if (← engine.targetUnit component) ≠ engine.defaultRealUnit component then return false
    engine.targetsMet rest

def allTargetsMet (engine : Engine) : Except EngineError Bool :=
  engine.targetsMet engine.rebalanceComponents

/-- Whether no component of the list that has a route stands above its target. -/
def nothingToSell (engine : Engine) : List Address → Except EngineError Bool
  | [] => .ok true
  | component :: rest => do
    if (engine.info component).exchange = .unset then engine.nothingToSell rest
    else
      if (← engine.targetUnit component) < engine.defaultRealUnit component then return false
      engine.nothingToSell rest

def noTokensToSell (engine : Engine) : Except EngineError Bool :=
  engine.nothingToSell engine.rebalanceComponents

/-- How much to buy. Rounding the target up can overshoot it when the supply is
below one whole token, and is given up where that lands farther away. -/
def buyQuantity (current target : Fixed) (supply held : Amount) : Except EngineError Amount := do
  let upward := (← notionalCeil target supply).monus held
  let reached ← demand (.ledger .overflow) (held.add? upward)
  let landed ← unitOfNotional reached supply
  if landed.subClamped target ≤ target.subClamped current then return upward
  else return (← notionalFloor target supply).monus held

/-- How much to sell without falling below the target. -/
def sellQuantity (target : Fixed) (supply held : Amount) : Except EngineError Amount := do
  return held.monus (← notionalCeil target supply)

def tradeSize (engine : Engine) (component : Address) :
    Except EngineError (TradeDirection × Amount) := do
  let supply := engine.basket.totalSupply
  if supply = Amount.zero then throw .zeroSupply
  let current := engine.defaultRealUnit component
  let target ← engine.targetUnit component
  if current = target then throw .targetAlreadyMet
  let held ← notionalFloor current supply
  let direction : TradeDirection := if current < target then .buy else .sell
  let delta ← match direction with
    | .buy => buyQuantity current target supply held
    | .sell => sellQuantity target supply held
  if delta = Amount.zero then throw .targetAlreadyMet
  return (direction, min delta (engine.info component).maxSize)

/-- The swap behind a trade: what is sold goes in exactly, and what is bought
comes out exactly. -/
def swapOrder (engine : Engine) (component : Address) (direction : TradeDirection) (amount : Amount) :
    SwapOrder :=
  match direction with
  | .sell => { assetIn := component, assetOut := engine.reserve, amount, kind := .exactInput }
  | .buy => { assetIn := engine.reserve, assetOut := component, amount, kind := .exactOutput }

def quote (engine : Engine) (exchange : Exchange) (order : SwapOrder) : Except EngineError Quote :=
  ((engine.venues.find exchange).bind (Venue.quote order)).mapError .venue

def planTrade (engine : Engine) (component : Address) : Except EngineError TradePlan := do
  let exchange := (engine.info component).exchange
  if exchange = .unset then throw .exchangeNotSet
  let (direction, quantity) ← engine.tradeSize component
  let quote ← engine.quote exchange (engine.swapOrder component direction quantity)
  return { component, direction, quantity, exchange, quote }

end Engine

end IndexBasket
