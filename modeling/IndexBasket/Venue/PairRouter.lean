import IndexBasket.Venue.Pool

namespace IndexBasket

/-- A venue with one pool for each unordered pair of assets. -/
structure PairRouter where
  pools : PairMap Pool := ∅
deriving DecidableEq

namespace PairRouter

/-- Sets the pool of its pair, also where there was one. -/
def addPool (router : PairRouter) (pool : Pool) : PairRouter :=
  { pools := router.pools.insert (.unordered pool.assetA pool.assetB) pool }

def pool? (router : PairRouter) (a b : Address) : Option Pool :=
  router.pools[AssetPair.unordered a b]?

def poolFor (router : PairRouter) (order : SwapOrder) : Except VenueError Pool :=
  demand (.unknownPair order.assetIn order.assetOut) (router.pool? order.assetIn order.assetOut)

def quote (router : PairRouter) (order : SwapOrder) : Except VenueError Quote := do
  (← router.poolFor order).price order

def execute (order : SwapOrder) (bound : Amount) : Action VenueError PairRouter Fill := do
  let router ← get
  let pool ← router.poolFor order
  let quote ← pool.price order
  checkBound order.kind quote bound
  let filled ← pool.exchange order.assetIn order.assetOut quote
  set (⟨router.pools.insert (.unordered order.assetIn order.assetOut) filled⟩ : PairRouter)
  return quote

end PairRouter

end IndexBasket
