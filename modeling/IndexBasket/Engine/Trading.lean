import IndexBasket.Engine.Management
import IndexBasket.Engine.Sizing

namespace IndexBasket

namespace Engine

/-- The fee index under which the protocol's share of a trade is set. -/
def tradeFeeIndex : UInt64 := 0

def requireAllowedTrader (context : CallContext) : Call Unit := do
  let engine ← get
  if !(engine.anyoneTrade || engine.isTrader context.caller) then throw .notPermittedTrader

def requireExternallyOwned (context : CallContext) : Call Unit := do
  if context.kind ≠ .externallyOwned then throw .notExternallyOwned

def requireInRebalance (component : Address) : Call Unit := do
  if !(← get).rebalanceComponents.contains component then throw (.notInRebalance component)

def requireTradable (component : Address) (now : Timestamp) : Call Unit := do
  let info := (← get).info component
  if info.exchange = .unset then throw .exchangeNotSet
  if !info.coolOffElapsed now then throw .coolOffNotElapsed

structure PreTrade where
  component : Amount
  reserve : Amount

def preTrade (engine : Engine) (component : Address) : PreTrade :=
  ⟨engine.custody component, engine.custody engine.reserve⟩

/-- The least output or greatest input that the slippage limit leaves of a
quote. Nothing is spent that is not there. -/
def slippageBound (engine : Engine) (kind : SwapKind) (quote : Quote) (available : Amount) :
    Except EngineError Amount :=
  let bps := min (Amount.clamp engine.settings.maxSlippageBps.toNat) Amount.wholeBps
  demand (.ledger .overflow) <| match kind with
    | .exactInput => quote.amountOut.mulDivFloor (Amount.wholeBps.monus bps) Amount.wholeBps
    | .exactOutput =>
      (quote.amountIn.mulDivCeil (Amount.clamp (10000 + bps.toNat)) Amount.wholeBps).map (min · available)

/-- The unit that a balance is worth after a trade. What the basket held beyond
its tracked amount before the trade stays outside the unit; a balance that was
spent to the end leaves nothing to set apart. -/
def unitAfter (engine : Engine) (asset : Address) (before : Amount) : Except EngineError Fixed := do
  let supply := engine.basket.totalSupply
  let tracked ← notionalFloor (engine.defaultRealUnit asset) supply
  let excess ← demand (.untrackedShortfall asset) (before.sub? tracked)
  let balance := engine.custody asset
  if balance = Amount.zero then return Fixed.zero
  let attributable ← demand (.untrackedShortfall asset) (balance.sub? excess)
  unitOfNotional attributable supply

/-- Brings the unit of an asset up to date with its custody balance. -/
def updatePosition (asset : Address) (before : Amount) : Call Fixed := do
  let unit ← (← get).unitAfter asset before
  onBasket (Basket.onLedger (Ledger.setDefaultPosition asset unit))
  return unit

/-- Books a filled swap: custody, protocol fee, both units and the event. The
fee is a fraction of at most one, so it never exceeds what was bought. -/
def settle (context : CallContext) (component : Address) (direction : TradeDirection)
    (exchange : Exchange) (fill : Fill) (before : PreTrade) : Call Trade := do
  let engine ← get
  let holder := engine.basket.address
  let order := engine.swapOrder component direction fill.amountIn
  onBalances (Balances.debit holder order.assetIn fill.amountIn)
  onBalances (Balances.credit holder order.assetOut fill.amountOut)
  let protocolFee ← Action.ofExcept ((engine.registry.feeAmount engine.settings.module tradeFeeIndex
    fill.amountOut).mapError .ledger)
  if Amount.zero < protocolFee then
    onBalances (Balances.transfer order.assetOut holder engine.registry.feeRecipient protocolFee)
  let newComponentUnit ← updatePosition component before.component
  let newReserveUnit ← updatePosition engine.reserve before.reserve
  modify (·.updateInfo component ({ · with lastTradeTimestamp := context.timestamp }))
  let trade : Trade :=
    { component, counterAsset := engine.reserve, direction, exchange, amountSold := fill.amountIn
      amountBought := fill.amountOut.monus protocolFee, protocolFee, newComponentUnit, newReserveUnit
      timestamp := context.timestamp }
  modify (·.record (.tradeExecuted trade))
  return trade

/-- Trades a component toward its target. -/
def trade (context : CallContext) (component : Address) : Call Trade := Action.atomically do
  requireAllowedTrader context
  requireExternallyOwned context
  requireValidBasket
  requireInRebalance component
  requireTradable component context.timestamp
  let engine ← get
  let plan ← engine.planTrade component
  let before := engine.preTrade component
  let order := engine.swapOrder component plan.direction plan.quantity
  let bound ← engine.slippageBound order.kind plan.quote before.reserve
  let fill ← swap plan.exchange order bound
  settle context component plan.direction plan.exchange fill before

/-- Spends the whole reserve balance on a component, once nothing is left to sell. -/
def tradeRemainingReserve (context : CallContext) (component : Address) : Call Trade :=
  Action.atomically do
    requireAllowedTrader context
    requireExternallyOwned context
    requireValidBasket
    requireInRebalance component
    let engine ← get
    if !(← engine.noTokensToSell) then throw .mustSellAllSellableTokensFirst
    if component = engine.reserve then throw .reserveAsComponent
    requireTradable component context.timestamp
    let info := engine.info component
    let before := engine.preTrade component
    if before.reserve = Amount.zero then throw .noReserveRemaining
    let order : SwapOrder :=
      { assetIn := engine.reserve, assetOut := component, amount := before.reserve, kind := .exactInput }
    let quote ← engine.quote info.exchange order
    if info.maxSize < quote.amountOut then throw .tradeSizeExceedsLimit
    let bound ← engine.slippageBound .exactInput quote before.reserve
    let fill ← swap info.exchange order bound
    if info.maxSize < fill.amountOut then throw .tradeSizeExceedsLimit
    settle context component .buy info.exchange fill before

/-- The snapshot multiplier that raises every target by a percentage: the old
one divided by one plus the percentage, rounded down. -/
def raisedSnapshot (snapshot : Fixed) (percentage : Amount) : Except EngineError Fixed := do
  let increase ← demand .invalidRaiseTarget percentage.toFixed?
  let step ← demand .invalidRaiseTarget (Fixed.one.add? increase)
  demand (.ledger .multiplierTooSmall) ((snapshot.preciseDiv step).filter (Fixed.zero < ·))

/-- Raises all targets once they are met and reserve is left. -/
def raiseAssetTargets (context : CallContext) : Call Fixed := Action.atomically do
  requireAllowedTrader context
  requireValidBasket
  let engine ← get
  let met ← engine.allTargetsMet
  if !(met && Fixed.zero < engine.reserveUnit) then throw .targetsNotMetOrNoReserveRemaining
  let raised ← raisedSnapshot engine.snapshot engine.settings.raiseTargetPercentage
  modify fun engine => { engine with snapshot := raised }.record (.assetTargetsRaised raised)
  return raised

end Engine

end IndexBasket
