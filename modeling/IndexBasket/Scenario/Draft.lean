import IndexBasket.Engine.Event
import IndexBasket.Json.Held

namespace IndexBasket

structure PoolDraft where
  assetA : String
  reserveA : String
  assetB : String
  reserveB : String
  feeBps : UInt32
deriving DecidableEq

/-- A rate as it is written: how much of one asset another one buys. -/
structure RateDraft where
  assetIn : String
  assetOut : String
  rate : String
deriving DecidableEq

inductive VenueDraft
  | pair (pools : List PoolDraft)
  | split (pools : List PoolDraft)
  | fixedRate (rates : List RateDraft) (slippageBps : Option UInt32)
deriving DecidableEq

structure AssetDraft where
  asset : String
  exchange : Option String
  maxSize : Option String
  coolOffPeriod : Option UInt64
deriving DecidableEq

structure QuantityDraft where
  asset : String
  quantity : String
deriving DecidableEq

/-- A scenario as it is written, before anything is checked. -/
structure ScenarioDraft where
  basket : String
  manager : String
  totalSupply : String
  startTime : Timestamp
  positions : List QuantityDraft
  excess : List QuantityDraft
  venues : List (String × VenueDraft)
  assets : List AssetDraft
  traders : List String
  anyoneTrade : Bool
  targets : List QuantityDraft
  newComponents : List QuantityDraft
  multiplier : Option String
deriving DecidableEq

def PoolDraft.ofJson? (value : Json) : Option PoolDraft := do
  let [assetA, reserveA, assetB, reserveB, fee] ←
    value.fields? ["asset_a", "reserve_a", "asset_b", "reserve_b", "fee_bps"] | none
  let assetA ← Json.required Json.text? assetA
  let reserveA ← Json.required Json.text? reserveA
  let assetB ← Json.required Json.text? assetB
  let reserveB ← Json.required Json.text? reserveB
  let fee ← Json.defaulted 30 (Json.natural? (UInt32.size - 1)) fee
  return { assetA, reserveA, assetB, reserveB, feeBps := UInt32.ofNat fee }

def RateDraft.ofJson? (value : Json) : Option RateDraft := do
  let [assetIn, assetOut, rate] ← value.fields? ["asset_in", "asset_out", "rate"] | none
  let assetIn ← Json.required Json.text? assetIn
  let assetOut ← Json.required Json.text? assetOut
  let rate ← Json.required Json.text? rate
  return { assetIn, assetOut, rate }

namespace VenueDraft

/-- Splits a venue into its type and the rest. The type stands under a name of
its own or first in an array. -/
def typed? : Json → Option (String × Json)
  | .array (kind :: fields) => do
    return (← kind.text?, .array fields)
  | .object fields => do
    let entries ← (Json.object fields).entries?
    let kind ← (← Json.lookupOnce entries "type").bind Json.text?
    return (kind, .object (fields.filter fun field => Json.unescape? field.1 ≠ some "type"))
  | _ => none

def poolsOf? (value : Json) : Option (String × List PoolDraft) := do
  let [exchange, pools] ← value.fields? ["exchange", "pools"] | none
  let exchange ← Json.required Json.text? exchange
  let pools ← Json.required (Json.list? PoolDraft.ofJson?) pools
  return (exchange, pools)

def ratesOf? (value : Json) : Option (String × VenueDraft) := do
  let [exchange, rates, slippage] ← value.fields? ["exchange", "rates", "slippage_bps"] | none
  let exchange ← Json.required Json.text? exchange
  let rates ← Json.required (Json.list? RateDraft.ofJson?) rates
  let slippage ← Json.defaulted none (Json.option? (Json.natural? (UInt32.size - 1))) slippage
  return (exchange, fixedRate rates (slippage.map UInt32.ofNat))

/-- Room for brackets in a venue: a scenario nests at most 127 deep, and a
venue stands in two brackets. -/
def room : Nat := 125

/-- Reads a venue and the name of its exchange. Its type decides how the rest is
read, so all of it is held until the type is known. -/
def ofJson? (value : Json) : Option (String × VenueDraft) := do
  if !value.canHold room then none
  let (kind, rest) ← typed? value
  match kind with
  | "amm" => return ← (poolsOf? rest).map fun (exchange, pools) => (exchange, pair pools)
  | "split" => return ← (poolsOf? rest).map fun (exchange, pools) => (exchange, split pools)
  | "mock" => ratesOf? rest
  | _ => none

end VenueDraft

def AssetDraft.ofJson? (value : Json) : Option AssetDraft := do
  let [asset, exchange, maxSize, coolOff] ←
    value.fields? ["asset", "exchange", "max_size", "cool_off_period"] | none
  let asset ← Json.required Json.text? asset
  let exchange ← Json.defaulted none (Json.option? Json.text?) exchange
  let maxSize ← Json.defaulted none (Json.option? Json.text?) maxSize
  let coolOff ← Json.defaulted none (Json.option? (Json.natural? (UInt64.size - 1))) coolOff
  return { asset, exchange, maxSize, coolOffPeriod := coolOff.map UInt64.ofNat }

/-- Reads an asset and a quantity, which has a name of its own in every list. -/
def QuantityDraft.ofJson? (name : String) (value : Json) : Option QuantityDraft := do
  let [asset, quantity] ← value.fields? ["asset", name] | none
  let asset ← Json.required Json.text? asset
  let quantity ← Json.required Json.text? quantity
  return { asset, quantity }

namespace ScenarioDraft

def rebalance? (value : Json) :
    Option (List QuantityDraft × List QuantityDraft × Option String) := do
  let [targets, newComponents, multiplier] ←
    value.fields? ["targets", "new_components", "position_multiplier"] | none
  let targets ← Json.required (Json.list? (QuantityDraft.ofJson? "target")) targets
  let newComponents ← Json.defaulted [] (Json.list? (QuantityDraft.ofJson? "target")) newComponents
  let multiplier ← Json.defaulted none (Json.option? Json.text?) multiplier
  return (targets, newComponents, multiplier)

def ofJson? (value : Json) : Option ScenarioDraft := do
  let [basket, manager, totalSupply, startTime, positions, excess, venues, assets, traders,
      anyoneTrade, rebalance] ← value.fields?
    ["basket", "manager", "total_supply", "start_time", "positions", "excess", "venues", "assets",
     "traders", "anyone_trade", "rebalance"] | none
  let basket ← Json.required Json.text? basket
  let manager ← Json.required Json.text? manager
  let totalSupply ← Json.required Json.text? totalSupply
  let startTime ← Json.defaulted 0 (Json.natural? (UInt64.size - 1)) startTime
  let positions ← Json.required (Json.list? (QuantityDraft.ofJson? "unit")) positions
  let excess ← Json.defaulted [] (Json.list? (QuantityDraft.ofJson? "amount")) excess
  let venues ← Json.required (Json.list? VenueDraft.ofJson?) venues
  let assets ← Json.defaulted [] (Json.list? AssetDraft.ofJson?) assets
  let traders ← Json.defaulted [] (Json.list? Json.text?) traders
  let anyoneTrade ← Json.defaulted false Json.bool? anyoneTrade
  let (targets, newComponents, multiplier) ← Json.required rebalance? rebalance
  return { basket, manager, totalSupply, startTime := UInt64.ofNat startTime, positions, excess
           venues, assets, traders, anyoneTrade, targets, newComponents, multiplier }

end ScenarioDraft

end IndexBasket
