import IndexBasket.Action
import IndexBasket.Number.Division
import IndexBasket.Venue.Swap

namespace IndexBasket

/-- A constant-product pool. A swap leaves the product of the reserves at least
as large as it was, and the fee is taken from the input. -/
structure Pool where
  assetA : Address
  assetB : Address
  reserveA : Amount
  reserveB : Amount
  feeBps : Nat
  fee_le : feeBps ≤ 10000
deriving DecidableEq

namespace Pool

/-- A fee beyond the whole is taken for the whole. -/
def create (assetA : Address) (reserveA : Amount) (assetB : Address) (reserveB : Amount)
    (feeBps : UInt32) : Pool :=
  ⟨assetA, assetB, reserveA, reserveB, min feeBps.toNat 10000, by omega⟩

def trades (pool : Pool) (assetIn assetOut : Address) : Bool :=
  (pool.assetA = assetIn && pool.assetB = assetOut) || (pool.assetB = assetIn && pool.assetA = assetOut)

def reserve? (pool : Pool) (asset : Address) : Option Amount :=
  if pool.assetA = asset then some pool.reserveA
  else if pool.assetB = asset then some pool.reserveB
  else none

/-- The reserves of the incoming and the outgoing asset, both positive. -/
def reservesFor (pool : Pool) (assetIn assetOut : Address) : Except VenueError (Amount × Amount) := do
  if !pool.trades assetIn assetOut then throw (.unknownPair assetIn assetOut)
  let reserves :=
    if pool.assetA = assetIn then (pool.reserveA, pool.reserveB) else (pool.reserveB, pool.reserveA)
  if reserves.1 = Amount.zero ∨ reserves.2 = Amount.zero then throw .insufficientLiquidity
  return reserves

/-- The share of an input that is left after the fee, in basis points. -/
def keptBps (pool : Pool) : Amount :=
  ⟨10000 - pool.feeBps, by omega⟩

/-- What the pool pays for an input, rounded down. -/
def amountOut (pool : Pool) (assetIn assetOut : Address) (amountIn : Amount) :
    Except VenueError Amount := do
  if amountIn = Amount.zero then throw .zeroAmount
  let (reserveIn, reserveOut) ← pool.reservesFor assetIn assetOut
  let withFee ← demand .overflow (amountIn.mul? pool.keptBps)
  let scaledIn ← demand .overflow (reserveIn.mul? Amount.wholeBps)
  let denominator ← demand .overflow (scaledIn.add? withFee)
  demand .overflow (withFee.mulDivFloor reserveOut denominator)

/-- What the pool charges for an output: one more than the quotient rounded down. -/
def amountIn (pool : Pool) (assetIn assetOut : Address) (amountOut : Amount) :
    Except VenueError Amount := do
  if amountOut = Amount.zero then throw .zeroAmount
  let (reserveIn, reserveOut) ← pool.reservesFor assetIn assetOut
  if reserveOut ≤ amountOut then throw .insufficientLiquidity
  let scaledOut ← demand .overflow (amountOut.mul? Amount.wholeBps)
  let denominator ← demand .overflow ((reserveOut.monus amountOut).mul? pool.keptBps)
  if denominator = Amount.zero then throw .insufficientLiquidity
  let quotient ← demand .overflow (reserveIn.mulDivFloor scaledOut denominator)
  demand .overflow (quotient.add? Amount.baseUnit)

/-- Both sides of a swap with this pool alone. -/
def price (pool : Pool) (order : SwapOrder) : Except VenueError Quote :=
  match order.kind with
  | .exactInput => do
    let out ← pool.amountOut order.assetIn order.assetOut order.amount
    return ⟨order.amount, out⟩
  | .exactOutput => do
    let input ← pool.amountIn order.assetIn order.assetOut order.amount
    return ⟨input, order.amount⟩

/-- The pool after it has taken an input and paid an output. -/
def exchange (pool : Pool) (assetIn assetOut : Address) (swap : Quote) : Except VenueError Pool := do
  let (reserveIn, reserveOut) ← pool.reservesFor assetIn assetOut
  let newIn ← demand .overflow (reserveIn.add? swap.amountIn)
  let newOut ← demand .insufficientLiquidity (reserveOut.sub? swap.amountOut)
  if pool.assetA = assetIn then return { pool with reserveA := newIn, reserveB := newOut }
  else return { pool with reserveB := newIn, reserveA := newOut }

end Pool

end IndexBasket
