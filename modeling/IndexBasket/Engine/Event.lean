import IndexBasket.Address
import IndexBasket.Exchange
import IndexBasket.Number.Fixed

namespace IndexBasket

abbrev Timestamp := UInt64

inductive TradeDirection
  | buy
  | sell
deriving DecidableEq

def TradeDirection.name : TradeDirection → String
  | buy => "BUY"
  | sell => "SELL"

structure Trade where
  component : Address
  counterAsset : Address
  direction : TradeDirection
  exchange : Exchange
  amountSold : Amount
  amountBought : Amount
  protocolFee : Amount
  newComponentUnit : Fixed
  newReserveUnit : Fixed
  timestamp : Timestamp
deriving DecidableEq

/-- What the engine tells about a call that it has committed. -/
inductive Event
  | targetUnitsUpdated (component : Address) (targetUnit multiplier : Fixed)
  | tradeMaximumUpdated (component : Address) (maxSize : Amount)
  | assetExchangeUpdated (component : Address) (exchange : Exchange)
  | coolOffPeriodUpdated (component : Address) (period : UInt64)
  | traderStatusUpdated (trader : Address) (status : Bool)
  | anyoneTradeUpdated (status : Bool)
  | raiseTargetPercentageUpdated (percentage : Amount)
  | tradeExecuted (trade : Trade)
  | assetTargetsRaised (multiplier : Fixed)
deriving DecidableEq

def Event.name : Event → String
  | targetUnitsUpdated .. => "target_units_updated"
  | tradeMaximumUpdated .. => "trade_maximum_updated"
  | assetExchangeUpdated .. => "asset_exchange_updated"
  | coolOffPeriodUpdated .. => "cool_off_period_updated"
  | traderStatusUpdated .. => "trader_status_updated"
  | anyoneTradeUpdated .. => "anyone_trade_updated"
  | raiseTargetPercentageUpdated .. => "raise_target_percentage_updated"
  | tradeExecuted .. => "trade_executed"
  | assetTargetsRaised .. => "asset_targets_raised"

end IndexBasket
