import IndexBasket.Venue.Pool

namespace IndexBasket

/-- What one pool contributes to a split order. -/
structure SplitLeg where
  pool : Nat
  swap : Quote
deriving DecidableEq

/-- A split order: its legs by ascending pool, and the sums of their sides. -/
structure SplitQuote where
  legs : List SplitLeg := []
  totalIn : Amount := Amount.zero
  totalOut : Amount := Amount.zero
deriving DecidableEq

def SplitQuote.quote (split : SplitQuote) : Quote := ⟨split.totalIn, split.totalOut⟩

/-- A venue that divides an order across up to three pools of a pair. -/
structure SplitRouter where
  pools : PairMap (List Pool) := ∅
deriving DecidableEq

namespace SplitRouter

def maxPoolsPerPair : Nat := 3

def poolsFor (router : SplitRouter) (a b : Address) : List Pool :=
  router.pools.getD (.unordered a b) []

def addPool (pool : Pool) : Action VenueError SplitRouter Unit := do
  let pools := (← get).poolsFor pool.assetA pool.assetB
  if maxPoolsPerPair ≤ pools.length then
    throw (.rejected s!"pair {pool.assetA}/{pool.assetB} already has {maxPoolsPerPair} pools")
  modify fun router =>
    { pools := router.pools.insert (.unordered pool.assetA pool.assetB) (pools ++ [pool]) }

/-- Cuts an amount into at most 64 equal slices. The first one also takes what
is left over, so the slices add up to the amount. -/
def sliceSizes (amount : Nat) : List Nat :=
  match min 64 amount with
  | 0 => []
  | count + 1 =>
    (amount / (count + 1) + amount % (count + 1)) :: List.replicate count (amount / (count + 1))

/-- Whether a pool's offer beats the best one so far. Of equal offers the earlier stays. -/
def isBetter (kind : SwapKind) (offer best : Quote) : Bool :=
  match kind with
  | .exactInput => best.amountOut < offer.amountOut
  | .exactOutput => offer.amountIn < best.amountIn

/-- The first pool with the best price for a slice. Pools that cannot price it are passed over. -/
def bestOffer (pools : List Pool) (order : SwapOrder) : Option SplitLeg :=
  pools.zipIdx.foldl (fun best (pool, index) =>
    match pool.price order, best with
    | .error _, _ => best
    | .ok offer, none => some ⟨index, offer⟩
    | .ok offer, some leg => if isBetter order.kind offer leg.swap then some ⟨index, offer⟩ else best) none

/-- Sends each slice to the pool with the best marginal price and returns what
every pool has been given. Pools are moved along as the slices fill them. Slices
and shares never exceed the amount, so as amounts they are not cut. -/
def assign (order : SwapOrder) : List Nat → List Pool → List Nat → Except VenueError (List Nat)
  | [], _, shares => .ok shares
  | size :: rest, pools, shares => do
    let leg ← demand .insufficientLiquidity (bestOffer pools { order with amount := Amount.clamp size })
    let pool ← demand .insufficientLiquidity pools[leg.pool]?
    let filled ← pool.exchange order.assetIn order.assetOut leg.swap
    assign order rest (pools.set leg.pool filled) (shares.modify leg.pool (· + size))

def allocate (pools : List Pool) (order : SwapOrder) : Except VenueError (List Nat) :=
  assign order (sliceSizes order.amount.toNat) pools (pools.map fun _ => 0)

def addLeg (order : SwapOrder) (split : SplitQuote) (pool : Pool) (index share : Nat) :
    Except VenueError SplitQuote := do
  if share = 0 then return split
  let swap ← pool.price { order with amount := Amount.clamp share }
  let totalIn ← demand .overflow (split.totalIn.add? swap.amountIn)
  let totalOut ← demand .overflow (split.totalOut.add? swap.amountOut)
  return { legs := split.legs ++ [⟨index, swap⟩], totalIn, totalOut }

def quoteSplit (router : SplitRouter) (order : SwapOrder) : Except VenueError SplitQuote := do
  if order.amount = Amount.zero then throw .zeroAmount
  let pools := router.poolsFor order.assetIn order.assetOut
  if pools.isEmpty then throw (.unknownPair order.assetIn order.assetOut)
  let shares ← allocate pools order
  (pools.zip shares).zipIdx.foldlM (fun split ((pool, share), index) => addLeg order split pool index share) {}

def quote (router : SplitRouter) (order : SwapOrder) : Except VenueError Quote := do
  return (← router.quoteSplit order).quote

/-- The pools after all legs, none of which fails to find its pool. -/
def exchangeLegs (order : SwapOrder) (legs : List SplitLeg) (pools : List Pool) :
    Except VenueError (List Pool) :=
  legs.foldlM (fun pools leg => do
    let pool ← demand (.unknownPair order.assetIn order.assetOut) pools[leg.pool]?
    return pools.set leg.pool (← pool.exchange order.assetIn order.assetOut leg.swap)) pools

def execute (order : SwapOrder) (bound : Amount) : Action VenueError SplitRouter Fill := do
  let router ← get
  let plan ← router.quoteSplit order
  checkBound order.kind plan.quote bound
  let filled ← exchangeLegs order plan.legs (router.poolsFor order.assetIn order.assetOut)
  set (⟨router.pools.insert (.unordered order.assetIn order.assetOut) filled⟩ : SplitRouter)
  return plan.quote

end SplitRouter

end IndexBasket
