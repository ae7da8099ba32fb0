import IndexBasket.Action
import IndexBasket.Number.Decimal
import IndexBasket.Run.Error
import IndexBasket.Scenario.Draft

namespace IndexBasket

/-- A scenario whose basket, positions, balances, exchanges and targets have
been checked. What the venues, the asset settings, the traders and the
multiplier say is read when an engine is built. -/
structure Scenario where
  basket : Address
  manager : Address
  totalSupply : Amount
  startTime : Timestamp
  positions : List (Address × Fixed)
  excess : List (Address × Amount)
  venues : List (Exchange × VenueDraft)
  assets : List AssetDraft
  traders : List String
  anyoneTrade : Bool
  targets : List (Address × Fixed)
  newComponents : List (Address × Fixed)
  multiplier : Option String
deriving DecidableEq

namespace Scenario

def address (text : String) : Except RunError Address :=
  demand (.scenario (.invalidAddress text)) (Address.ofString? text)

def unit (text : String) : Except RunError Fixed :=
  demand (.scenario (.invalidDecimal text)) (Fixed.parse? 18 text)

def amount (text : String) : Except RunError Amount := do
  demand (.scenario (.negative text)) (← unit text).toAmount?

def exchange (text : String) : Except RunError Exchange :=
  (Exchange.ofText text).mapError fun cause => .engine (.venue cause)

/-- Every asset that the rebalance names, in the order of the targets. -/
def rebalanceAssets (scenario : Scenario) : List Address :=
  (scenario.targets ++ scenario.newComponents).map Prod.fst

end Scenario

namespace ScenarioDraft

open Scenario

/-- Positions are distinct and positive. The list holds the assets before. -/
def checkPositions (seen : List Address) :
    List QuantityDraft → Except RunError (List (Address × Fixed))
  | [] => .ok []
  | position :: rest => do
    let asset ← address position.asset
    if seen.contains asset then throw (.scenario (.duplicatePosition position.asset))
    let unit ← unit position.quantity
    if unit ≤ Fixed.zero then throw (.scenario (.unitNotPositive position.asset))
    return (asset, unit) :: (← checkPositions (asset :: seen) rest)

def checkBalance (balance : QuantityDraft) : Except RunError (Address × Amount) := do
  let asset ← address balance.asset
  return (asset, ← amount balance.quantity)

/-- Exchanges are named and distinct. The list holds the exchanges before. -/
def checkVenues (seen : List Exchange) :
    List (String × VenueDraft) → Except RunError (List (Exchange × VenueDraft))
  | [] => .ok []
  | (text, venue) :: rest => do
    let id ← exchange text
    if id = .unset || seen.contains id then throw (.scenario (.invalidVenue text))
    return (id, venue) :: (← checkVenues (id :: seen) rest)

/-- Targets are distinct. The list holds the assets before. -/
def checkTargets (seen : List Address) :
    List QuantityDraft → Except RunError (List (Address × Fixed))
  | [] => .ok []
  | target :: rest => do
    let asset ← address target.asset
    if seen.contains asset then throw (.scenario (.duplicateTarget target.asset))
    let unit ← unit target.quantity
    return (asset, unit) :: (← checkTargets (asset :: seen) rest)

/-- Checks a scenario part by part. A new component may not be among the targets. -/
def check (draft : ScenarioDraft) : Except RunError Scenario := do
  let basket ← address draft.basket
  let manager ← address draft.manager
  let totalSupply ← amount draft.totalSupply
  if totalSupply = Amount.zero then throw (.scenario .zeroSupply)
  if draft.positions.isEmpty then throw (.scenario .noPositions)
  let positions ← checkPositions [] draft.positions
  let excess ← draft.excess.mapM checkBalance
  let venues ← checkVenues [] draft.venues
  let targets ← checkTargets [] draft.targets
  let newComponents ← checkTargets (targets.map Prod.fst).reverse draft.newComponents
  return { basket, manager, totalSupply, startTime := draft.startTime, positions, excess, venues
           assets := draft.assets, traders := draft.traders, anyoneTrade := draft.anyoneTrade
           targets, newComponents, multiplier := draft.multiplier }

end ScenarioDraft

def Scenario.ofText (source : String) : Except RunError Scenario := do
  let draft ← demand .scenarioParse ((Json.parse? source).bind ScenarioDraft.ofJson?)
  draft.check

end IndexBasket
