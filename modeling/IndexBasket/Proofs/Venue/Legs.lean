import IndexBasket.Proofs.Venue.Price

namespace IndexBasket

namespace SplitRouter

variable {order : SwapOrder} {router : SplitRouter} {split : SplitQuote}

/-- The given side of a split order is given by its legs together. -/
theorem Totalled.fixedSide (totalled : Totalled split) (order : SwapOrder) :
    (order.fixedSide split.quote).toNat = (split.legs.map fun leg => (order.fixedSide leg.swap).toNat).sum := by
  unfold SwapOrder.fixedSide
  cases order.kind with
  | exactInput => exact totalled.totalIn
  | exactOutput => exact totalled.totalOut

/-- The legs of a split order divide its amount and nothing else among the pools of the
pair, at most one leg for each pool and in the order of the pools. Every leg is a swap
with its pool alone as the pool stands, and the totals are the sums over the legs. -/
theorem quoteSplit_legs (run : router.quoteSplit order = .ok split) :
    (split.legs.map fun leg => (order.fixedSide leg.swap).toNat).sum = order.amount.toNat ∧
      split.totalIn.toNat = (split.legs.map (·.swap.amountIn.toNat)).sum ∧
      split.totalOut.toNat = (split.legs.map (·.swap.amountOut.toNat)).sum ∧
      (split.legs.map (·.pool)).Pairwise (· < ·) ∧
      ∀ leg ∈ split.legs, leg.pool < (router.poolsFor order.assetIn order.assetOut).length ∧
        0 < (order.fixedSide leg.swap).toNat ∧
        ∃ pool, (router.poolsFor order.assetIn order.assetOut)[leg.pool]? = some pool ∧
          pool.price { order with amount := order.fixedSide leg.swap } = .ok leg.swap := by
  obtain ⟨totalled, given⟩ := quoteSplit_totals run
  obtain ⟨ascending, priced⟩ := quoteSplit_priced run
  refine ⟨by rw [← totalled.fixedSide order, given], totalled.totalIn, totalled.totalOut, ascending, ?_⟩
  intro leg member
  obtain ⟨pool, amount, found, price⟩ := priced leg member
  obtain ⟨within, _⟩ := List.getElem?_eq_some_iff.mp found
  have given : order.fixedSide leg.swap = amount := pool.price_fixedSide price
  rw [given]
  exact ⟨within, pool.price_pos price, pool, found, price⟩

/-- A purchase that is no multiple of the slices, from two pools of three. -/
theorem quoteSplit_legs_purchase :
    let dai : Address := ⟨"dai", by decide, by decide⟩
    let weth : Address := ⟨"weth", by decide, by decide⟩
    let order : SwapOrder := ⟨dai, weth, Amount.ofNat 1001, .exactOutput⟩
    let router : SplitRouter := ⟨(∅ : PairMap (List Pool)).insert (.unordered dai weth)
      [Pool.create dai (Amount.ofNat 9000) weth (Amount.ofNat 9000) 30,
        Pool.create dai (Amount.ofNat 9000) weth (Amount.ofNat 10) 30,
        Pool.create weth (Amount.ofNat 5000) dai (Amount.ofNat 5000) 100]⟩
    ∃ split, router.quoteSplit order = .ok split ∧ split.legs.map (·.pool) = [0, 2] ∧
      (split.legs.map (·.swap.amountOut.toNat)).sum = 1001 ∧
      split.totalIn.toNat = (split.legs.map (·.swap.amountIn.toNat)).sum := by
  intro dai weth order router
  have planned : (fun split => split.legs.map (·.pool)) <$> router.quoteSplit order = .ok [0, 2] := by decide +kernel
  obtain ⟨split, run, pools⟩ := Except.map_eq_ok.mp planned
  obtain ⟨given, totalIn, _⟩ := quoteSplit_legs run
  exact ⟨split, run, pools, given, totalIn⟩

end SplitRouter

end IndexBasket
