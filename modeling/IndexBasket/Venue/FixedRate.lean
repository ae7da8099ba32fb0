import IndexBasket.Action
import IndexBasket.Number.Division
import IndexBasket.Venue.Swap

namespace IndexBasket

/-- How a fixed-rate venue fills an order: as quoted, worse by some basis
points, or not at all. -/
inductive FillMode
  | quoted
  | slipped (bps : UInt32)
  | reject
deriving DecidableEq

structure RecordedSwap where
  order : SwapOrder
  bound : Amount
deriving DecidableEq

/-- A venue with fixed rates, without reserves, which keeps a record of every
swap it was asked for. -/
structure FixedRateVenue where
  fillMode : FillMode := .quoted
  rates : PairMap Amount := ∅
  swaps : List RecordedSwap := []
deriving DecidableEq

namespace FixedRateVenue

def withRate (venue : FixedRateVenue) (assetIn assetOut : Address) (rate : Amount) : FixedRateVenue :=
  { venue with rates := venue.rates.insert ⟨assetIn, assetOut⟩ rate }

/-- The rate of a direction. A direction without one takes the inverse of the
other, rounded down, while that is positive. -/
def rate (venue : FixedRateVenue) (assetIn assetOut : Address) : Except VenueError Amount :=
  match venue.rates[AssetPair.mk assetIn assetOut]? with
  | some rate => .ok rate
  | none =>
    let inverse := (venue.rates[AssetPair.mk assetOut assetIn]?.filter (Amount.zero < ·)).bind
      fun rate => Amount.one.mulDivFloor Amount.one rate
    demand (.unknownPair assetIn assetOut) (inverse.filter (Amount.zero < ·))

def quote (venue : FixedRateVenue) (order : SwapOrder) : Except VenueError Quote := do
  if order.amount = Amount.zero then throw .zeroAmount
  let rate ← venue.rate order.assetIn order.assetOut
  match order.kind with
  | .exactInput =>
    let out ← demand .overflow (order.amount.preciseMul rate)
    return ⟨order.amount, out⟩
  | .exactOutput =>
    let input ← demand .overflow (order.amount.mulDivCeil Amount.one rate)
    return ⟨input, order.amount⟩

/-- A quote with its open side made worse by some basis points. -/
def slip (kind : SwapKind) (bps : UInt32) (quote : Quote) : Except VenueError Quote :=
  match kind with
  | .exactInput => do
    let kept := Amount.wholeBps.monus (Amount.clamp bps.toNat)
    let out ← demand .overflow (quote.amountOut.mulDivFloor kept Amount.wholeBps)
    return { quote with amountOut := out }
  | .exactOutput => do
    let charged := Amount.clamp (10000 + bps.toNat)
    let input ← demand .overflow (quote.amountIn.mulDivCeil charged Amount.wholeBps)
    return { quote with amountIn := input }

/-- Records the swap, also one that is refused afterwards. -/
def execute (order : SwapOrder) (bound : Amount) : Action VenueError FixedRateVenue Fill := do
  modify fun venue => { venue with swaps := venue.swaps ++ [⟨order, bound⟩] }
  let venue ← get
  let quoted ← venue.quote order
  let fill ← match venue.fillMode with
    | .reject => throw (.rejected "mock: swap rejected")
    | .quoted => pure quoted
    | .slipped bps => Action.ofExcept (slip order.kind bps quoted)
  checkBound order.kind fill bound
  return fill

end FixedRateVenue

end IndexBasket
