import IndexBasket.Engine.Trading

namespace IndexBasket

namespace Engine

/-- A call as data. Who makes it and when stands in its context. -/
inductive Command
  | activate
  | startRebalance (newComponents : List Address) (newTargets oldTargets : List Fixed)
      (multiplier : Fixed)
  | setTradeMaximums (components : List Address) (maxima : List Amount)
  | setExchanges (components : List Address) (exchanges : List Exchange)
  | setCoolOffPeriods (components : List Address) (periods : List UInt64)
  | setRaiseTargetPercentage (percentage : Amount)
  | updateTraderStatus (traders : List Address) (statuses : List Bool)
  | updateAnyoneTrade (status : Bool)
  | trade (component : Address)
  | tradeRemainingReserve (component : Address)
  | raiseAssetTargets
deriving DecidableEq

inductive Reply
  | done
  | traded (trade : Trade)
  | raised (snapshot : Fixed)
deriving DecidableEq

/-- Makes the call that a command stands for. -/
def Command.perform (context : CallContext) : Command → Call Reply
  | .activate => (fun _ => .done) <$> Engine.activate context
  | .startRebalance newComponents newTargets oldTargets multiplier =>
    (fun _ => .done) <$> Engine.startRebalance context newComponents newTargets oldTargets multiplier
  | .setTradeMaximums components maxima =>
    (fun _ => .done) <$> Engine.setTradeMaximums context components maxima
  | .setExchanges components exchanges =>
    (fun _ => .done) <$> Engine.setExchanges context components exchanges
  | .setCoolOffPeriods components periods =>
    (fun _ => .done) <$> Engine.setCoolOffPeriods context components periods
  | .setRaiseTargetPercentage percentage =>
    (fun _ => .done) <$> Engine.setRaiseTargetPercentage context percentage
  | .updateTraderStatus traders statuses =>
    (fun _ => .done) <$> Engine.updateTraderStatus context traders statuses
  | .updateAnyoneTrade status => (fun _ => .done) <$> Engine.updateAnyoneTrade context status
  | .trade component => .traded <$> Engine.trade context component
  | .tradeRemainingReserve component => .traded <$> Engine.tradeRemainingReserve context component
  | .raiseAssetTargets => .raised <$> Engine.raiseAssetTargets context

end Engine

end IndexBasket
