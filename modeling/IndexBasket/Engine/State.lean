import IndexBasket.Balances
import IndexBasket.Basket
import IndexBasket.Engine.AssetInfo
import IndexBasket.Engine.Error
import IndexBasket.Venue.Registered

namespace IndexBasket

inductive CallerKind
  | externallyOwned
  | contract
deriving DecidableEq

structure CallContext where
  caller : Address
  kind : CallerKind
  timestamp : Timestamp
deriving DecidableEq

structure EngineSettings where
  module : Address
  reserveAsset : Address
  raiseTargetPercentage : Amount := Amount.ofNat 2_500_000_000_000_000
  maxSlippageBps : UInt32 := 100
deriving DecidableEq

/-- Everything that a rebalance can touch: the basket, the custody balances, the
venues and the rebalance's own records. Targets are units at the snapshot
multiplier. -/
structure Engine where
  registry : Registry
  settings : EngineSettings
  basket : Basket
  balances : Balances
  venues : Venues
  infos : AddressMap AssetInfo := ∅
  rebalanceComponents : List Address := []
  snapshot : Fixed := Fixed.one
  anyoneTrade : Bool := false
  traders : AddressSet := ∅
  events : List Event := []
deriving DecidableEq

namespace Engine

abbrev Call (α : Type) := Action EngineError Engine α

def create (registry : Registry) (settings : EngineSettings) (basket : Basket) (balances : Balances)
    (venues : Venues) : Engine :=
  { registry, settings, basket, balances, venues }

def info (engine : Engine) (asset : Address) : AssetInfo :=
  engine.infos.getD asset {}

def reserve (engine : Engine) : Address := engine.settings.reserveAsset

def defaultRealUnit (engine : Engine) (asset : Address) : Fixed :=
  engine.basket.defaultRealUnit asset

def reserveUnit (engine : Engine) : Fixed := engine.defaultRealUnit engine.reserve

/-- What the basket itself owns of an asset. -/
def custody (engine : Engine) (asset : Address) : Amount :=
  engine.balances.balanceOf engine.basket.address asset

def isTrader (engine : Engine) (trader : Address) : Bool :=
  engine.traders.contains trader

def updateInfo (engine : Engine) (asset : Address) (change : AssetInfo → AssetInfo) : Engine :=
  { engine with infos := engine.infos.insert asset (change (engine.info asset)) }

def record (engine : Engine) (event : Event) : Engine :=
  { engine with events := engine.events ++ [event] }

def onBasket (update : Basket.Update) : Call Unit :=
  Action.within (·.basket) (fun basket engine => { engine with basket }) .ledger update

def onBalances (update : Balances.Update) : Call Unit :=
  Action.within (·.balances) (fun balances engine => { engine with balances }) .ledger update

def swap (exchange : Exchange) (order : SwapOrder) (bound : Amount) : Call Fill :=
  Action.within (·.venues) (fun venues engine => { engine with venues }) .venue
    (Venues.execute exchange order bound)

def takeEvents : Call (List Event) := do
  let engine ← get
  set { engine with events := [] }
  return engine.events

end Engine

end IndexBasket
