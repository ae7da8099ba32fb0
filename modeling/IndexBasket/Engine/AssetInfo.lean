import IndexBasket.Engine.Event

namespace IndexBasket

/-- What the manager has set for an asset, and when it was last traded. -/
structure AssetInfo where
  targetUnit : Fixed := Fixed.zero
  maxSize : Amount := Amount.zero
  exchange : Exchange := .unset
  coolOffPeriod : UInt64 := 0
  lastTradeTimestamp : Timestamp := 0
deriving DecidableEq

namespace AssetInfo

/-- The first moment at which the asset may be traded again, at the latest the
end of time. -/
def nextTradeTime (info : AssetInfo) : Timestamp :=
  UInt64.ofNatClamp (info.lastTradeTimestamp.toNat + info.coolOffPeriod.toNat)

def coolOffElapsed (info : AssetInfo) (now : Timestamp) : Bool :=
  info.nextTradeTime ≤ now

end AssetInfo

end IndexBasket
