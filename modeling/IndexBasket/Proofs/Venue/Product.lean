import IndexBasket.Proofs.Number.Division
import IndexBasket.Proofs.Venue.Reserves
import Mathlib.Data.List.Forall2
import Mathlib.Data.List.Nodup

namespace IndexBasket

open IndexBasket.Action

section Pricing

variable {reserveIn reserveOut input output kept whole : Nat}

/-- What a pool pays, rounded down, weighs no more against what it had than the
input weighs against what it has left. The fee only makes the payment smaller. -/
theorem paid_within_product (fee : kept ≤ whole) (filled : 0 < reserveIn) (wholePositive : 0 < whole)
    (stocked : 0 < reserveOut) (paid : output = input * kept * reserveOut / (reserveIn * whole + input * kept)) :
    output < reserveOut ∧ reserveIn * output ≤ input * (reserveOut - output) := by
  have scaled : 0 < reserveIn * whole := Nat.mul_pos filled wholePositive
  have rounded : output * (reserveIn * whole + input * kept) ≤ input * kept * reserveOut := by
    rw [paid]
    exact Nat.div_mul_le_self _ _
  have below : output < reserveOut := by
    rw [paid, Nat.div_lt_iff_lt_mul (by omega), Nat.mul_comm reserveOut]
    exact Nat.mul_lt_mul_of_pos_right (by omega) stocked
  refine ⟨below, ?_⟩
  obtain ⟨left, rfl⟩ := Nat.exists_eq_add_of_le below.le
  rw [Nat.add_sub_cancel_left]
  have cancelled : output * (reserveIn * whole) ≤ input * kept * left := by
    rw [Nat.mul_add, Nat.mul_add, Nat.mul_comm output (input * kept)] at rounded
    omega
  refine Nat.le_of_mul_le_mul_right ?_ wholePositive
  calc reserveIn * output * whole = output * (reserveIn * whole) := by
        rw [Nat.mul_comm reserveIn output, Nat.mul_assoc]
    _ ≤ input * kept * left := cancelled
    _ ≤ input * whole * left := Nat.mul_le_mul_right _ (Nat.mul_le_mul_left _ fee)
    _ = input * left * whole := Nat.mul_right_comm ..

/-- What a pool charges is more than the exact price, so the same holds. -/
theorem charged_within_product (fee : kept ≤ whole) (below : output < reserveOut) (keeps : 0 < kept)
    (charged : input = reserveIn * (output * whole) / ((reserveOut - output) * kept) + 1) :
    reserveIn * output ≤ input * (reserveOut - output) := by
  have divisor : 0 < (reserveOut - output) * kept := Nat.mul_pos (by omega) keeps
  have exceeded : reserveIn * (output * whole) < input * ((reserveOut - output) * kept) := by
    rw [charged, Nat.mul_comm (_ + 1)]
    exact Nat.lt_mul_div_succ _ divisor
  refine Nat.le_of_mul_le_mul_right ?_ (keeps.trans_le fee)
  calc reserveIn * output * whole = reserveIn * (output * whole) := Nat.mul_assoc ..
    _ ≤ input * ((reserveOut - output) * kept) := exceeded.le
    _ ≤ input * ((reserveOut - output) * whole) :=
      Nat.mul_le_mul_left _ (Nat.mul_le_mul_left _ fee)
    _ = input * (reserveOut - output) * whole := (Nat.mul_assoc ..).symm

end Pricing

namespace Pool

variable {pool filled : Pool} {assetIn assetOut : Address} {order : SwapOrder} {swap : Quote}

theorem keptBps_le (pool : Pool) : pool.keptBps.toNat ≤ 10000 := Nat.sub_le ..

theorem amountOut_eq_ok {input output : Amount} (run : pool.amountOut assetIn assetOut input = .ok output) :
    ∃ reserveIn reserveOut, pool.reservesFor assetIn assetOut = .ok (reserveIn, reserveOut) ∧
      output.toNat = input.toNat * pool.keptBps.toNat * reserveOut.toNat /
        (reserveIn.toNat * 10000 + input.toNat * pool.keptBps.toNat) := by
  simp only [amountOut, Except.guard_bind_eq_ok, Except.bind_eq_ok, demand_eq_ok, Amount.mul?, Amount.add?,
    Amount.ofNat?_eq_some, Amount.mulDivFloor_eq_some] at run
  obtain ⟨_, ⟨reserveIn, reserveOut⟩, found, withFee, fee, scaledIn, scaled, denominator, sum, _, value⟩ := run
  refine ⟨reserveIn, reserveOut, found, ?_⟩
  rw [value, ← sum, ← fee, ← scaled]
  rfl

theorem amountIn_eq_ok {input output : Amount} (run : pool.amountIn assetIn assetOut output = .ok input) :
    ∃ reserveIn reserveOut, pool.reservesFor assetIn assetOut = .ok (reserveIn, reserveOut) ∧
      output.toNat < reserveOut.toNat ∧ 0 < pool.keptBps.toNat ∧
      input.toNat = reserveIn.toNat * (output.toNat * 10000) /
        ((reserveOut.toNat - output.toNat) * pool.keptBps.toNat) + 1 := by
  simp only [amountIn, Except.guard_bind_eq_ok, Except.bind_eq_ok, demand_eq_ok, Amount.mul?, Amount.add?,
    Amount.ofNat?_eq_some, Amount.mulDivFloor_eq_some] at run
  obtain ⟨_, ⟨reserveIn, reserveOut⟩, found, stocked, scaledOut, scaled, denominator, product, _, quotient,
    ⟨positive, value⟩, sum⟩ := run
  change (reserveOut.toNat - output.toNat) * pool.keptBps.toNat = denominator.toNat at product
  rw [← product] at positive value
  refine ⟨reserveIn, reserveOut, found, Nat.not_le.mp stocked, Nat.pos_of_mul_pos_left positive, ?_⟩
  rw [← sum, value, ← scaled]
  rfl

/-- Whichever side of a swap is given, a price leaves the product of the reserves
at least where it was. -/
theorem price_eq_ok (run : pool.price order = .ok swap) :
    ∃ reserveIn reserveOut, pool.reservesFor order.assetIn order.assetOut = .ok (reserveIn, reserveOut) ∧
      swap.amountOut.toNat < reserveOut.toNat ∧
      reserveIn.toNat * swap.amountOut.toNat ≤
        swap.amountIn.toNat * (reserveOut.toNat - swap.amountOut.toNat) := by
  unfold price at run
  cases kind : order.kind with
  | exactInput =>
    simp only [kind, Except.bind_eq_ok] at run
    obtain ⟨output, paid, done⟩ := run
    cases done
    obtain ⟨reserveIn, reserveOut, found, value⟩ := amountOut_eq_ok paid
    obtain ⟨_, _, filled, stocked⟩ := reservesFor_eq_ok found
    exact ⟨reserveIn, reserveOut, found,
      paid_within_product pool.keptBps_le filled (by decide) stocked value⟩
  | exactOutput =>
    simp only [kind, Except.bind_eq_ok] at run
    obtain ⟨input, charged, done⟩ := run
    cases done
    obtain ⟨reserveIn, reserveOut, found, below, keeps, value⟩ := amountIn_eq_ok charged
    exact ⟨reserveIn, reserveOut, found, below,
      charged_within_product pool.keptBps_le below keeps value⟩

def product (pool : Pool) : Nat := pool.reserveA.toNat * pool.reserveB.toNat

/-- What swaps do to a pool. They do nothing to one with an empty side, since it
prices nothing. -/
structure Evolves (before after : Pool) : Prop where
  assetA : after.assetA = before.assetA
  assetB : after.assetB = before.assetB
  feeBps : after.feeBps = before.feeBps
  product : before.product ≤ after.product
  idle : before.product = 0 → after = before

instance : Std.Refl Evolves := ⟨fun _ => ⟨rfl, rfl, rfl, Nat.le_refl _, fun _ => rfl⟩⟩

instance : IsTrans Pool Evolves where
  trans before middle after first second := by
    refine ⟨second.assetA.trans first.assetA, second.assetB.trans first.assetB,
      second.feeBps.trans first.feeBps, first.product.trans second.product, fun empty => ?_⟩
    have same := first.idle empty
    subst same
    exact second.idle empty

theorem evolves_exchange (priced : pool.price order = .ok swap)
    (run : pool.exchange order.assetIn order.assetOut swap = .ok filled) : pool.Evolves filled := by
  obtain ⟨reserveIn, reserveOut, found, below, within⟩ := price_eq_ok priced
  obtain ⟨_, _, newIn, newOut, found', sumIn, sumOut, rfl⟩ := exchange_eq_ok run
  cases found.symm.trans found'
  obtain ⟨_, reserves, filled, stocked⟩ := reservesFor_eq_ok found
  have grown : reserveIn.toNat * reserveOut.toNat ≤ newIn.toNat * newOut.toNat := by
    rw [show reserveOut.toNat - swap.amountOut.toNat = newOut.toNat by omega] at within
    rw [sumIn, sumOut, Nat.mul_add, Nat.add_mul]
    omega
  have positive : 0 < reserveIn.toNat * reserveOut.toNat := Nat.mul_pos filled stocked
  split at reserves <;> cases reserves
  · rename_i forward
    rw [if_pos forward]
    exact ⟨rfl, rfl, rfl, grown, fun empty => absurd empty positive.ne'⟩
  · rename_i backward
    rw [Nat.mul_comm] at grown positive
    rw [if_neg backward]
    refine ⟨rfl, rfl, rfl, ?_, fun empty => absurd empty positive.ne'⟩
    rw [Nat.mul_comm newIn.toNat] at grown
    exact grown

/-- What no sequence of swaps can take from a pool: its product, a reserve to the
end, or some of one asset without leaving more of the other. -/
structure Sustained (before after : Pool) : Prop where
  assetA : after.assetA = before.assetA
  assetB : after.assetB = before.assetB
  product : before.reserveA.toNat * before.reserveB.toNat ≤ after.reserveA.toNat * after.reserveB.toNat
  stocked : 0 < before.reserveA.toNat → 0 < before.reserveB.toNat →
    0 < after.reserveA.toNat ∧ 0 < after.reserveB.toNat
  takenA : after.reserveA < before.reserveA → before.reserveB < after.reserveB
  takenB : after.reserveB < before.reserveB → before.reserveA < after.reserveA

/-- Of two products the one with a smaller factor on one side and no larger one on
the other is smaller. -/
theorem lt_of_product_le {lessA moreA lessB moreB : Nat} (positive : 0 < moreB) (less : lessA < moreA)
    (product : moreA * moreB ≤ lessA * lessB) : moreB < lessB := by
  by_contra notMore
  have small := Nat.mul_le_mul_left lessA (Nat.not_lt.mp notMore)
  have smaller := Nat.mul_lt_mul_of_pos_right less positive
  omega

theorem Evolves.sustained {before after : Pool} (evolves : before.Evolves after) : before.Sustained after := by
  have grown := evolves.product
  by_cases empty : before.product = 0
  · rw [evolves.idle empty]
    exact ⟨rfl, rfl, Nat.le_refl _, And.intro, fun less => absurd less (Nat.lt_irrefl _),
      fun less => absurd less (Nat.lt_irrefl _)⟩
  · have positive := Nat.pos_of_ne_zero empty
    unfold Pool.product at grown positive
    have stocked := positive.trans_le grown
    refine ⟨evolves.assetA, evolves.assetB, grown,
      fun _ _ => ⟨Nat.pos_of_mul_pos_right stocked, Nat.pos_of_mul_pos_left stocked⟩, fun less => ?_, fun less => ?_⟩
    · exact lt_of_product_le (Nat.pos_of_mul_pos_left positive) less grown
    · rw [Nat.mul_comm, Nat.mul_comm after.reserveA.toNat] at grown
      exact lt_of_product_le (Nat.pos_of_mul_pos_right positive) less grown

end Pool

theorem forall₂_trans {α : Type} {R : α → α → Prop} [IsTrans α R] {first second third : List α}
    (left : List.Forall₂ R first second) (right : List.Forall₂ R second third) :
    List.Forall₂ R first third := by
  induction left generalizing third with
  | nil =>
    cases right
    exact .nil
  | cons step _ ih =>
    cases right with
    | cons step' rest => exact .cons (IsTrans.trans _ _ _ step step') (ih rest)

theorem forall₂_set {α : Type} {R : α → α → Prop} [Std.Refl R] {items : List α} {index : Nat} {old new : α}
    (found : items[index]? = some old) (step : R old new) : List.Forall₂ R items (items.set index new) := by
  induction items generalizing index with
  | nil => simp at found
  | cons item rest ih =>
    cases index with
    | zero =>
      simp only [List.getElem?_cons_zero, Option.some.injEq] at found
      subst found
      exact .cons step (List.forall₂_refl rest)
    | succ index => exact .cons (Std.Refl.refl item) (ih found)

/-- Every pool of every pair has only been traded with. -/
def PoolsEvolve (before after : AssetPair → List Pool) : Prop :=
  ∀ pair, List.Forall₂ Pool.Evolves (before pair) (after pair)

instance : Std.Refl PoolsEvolve := ⟨fun before pair => List.forall₂_refl (before pair)⟩

instance : IsTrans (AssetPair → List Pool) PoolsEvolve :=
  ⟨fun _ _ _ first second pair => forall₂_trans (first pair) (second pair)⟩

variable {order : SwapOrder} {bound : Amount}

namespace PairRouter

/-- The pool of a pair, if there is one. -/
def poolsOf (router : PairRouter) (pair : AssetPair) : List Pool := router.pools[pair]?.toList

theorem failsInPlace_execute (order : SwapOrder) (bound : Amount) : FailsInPlace (execute order bound) := by
  refine failsInPlace_bind moves_get fun router => failsInPlace_bind (moves_lift _) fun pool => ?_
  refine failsInPlace_bind (moves_lift _) fun quote => failsInPlace_bind (moves_lift _) fun _ => ?_
  exact failsInPlace_bind (moves_lift _) fun filled => failsInPlace_set_pure _ _

theorem moves_execute (order : SwapOrder) (bound : Amount) :
    Moves (Order.Preimage poolsOf PoolsEvolve) (execute order bound) := by
  refine (failsInPlace_execute order bound).moves fun {router after fill} run pair => ?_
  obtain ⟨pool, filled, found, priced, _, exchanged, rfl⟩ := execute_eq_ok.mp run
  rw [pool?] at found
  unfold poolsOf
  rw [Std.ExtTreeMap.getElem?_insert]
  split
  · rename_i same
    rw [← Std.LawfulEqCmp.eq_of_compare same, found]
    exact .cons (pool.evolves_exchange priced exchanged) .nil
  · exact List.forall₂_refl _

end PairRouter

namespace SplitRouter

def poolsOf (router : SplitRouter) (pair : AssetPair) : List Pool := router.pools.getD pair []

/-- The legs that are added name their pools by ascending index, and each has been
priced by its own pool. -/
theorem addLegs_priced {items : List ((Pool × Nat) × Nat)} {split after : SplitQuote}
    (run : items.foldlM (fun split ((pool, share), index) => addLeg order split pool index share) split = .ok after) :
    ∃ legs, after.legs = split.legs ++ legs ∧ (legs.map (·.pool)).Sublist (items.map (·.2)) ∧
      ∀ leg ∈ legs, ∃ pool share, ((pool, share), leg.pool) ∈ items ∧
        pool.price { order with amount := Amount.clamp share } = .ok leg.swap := by
  induction items generalizing split with
  | nil =>
    cases run
    exact ⟨[], by simp, .slnil, nofun⟩
  | cons item rest ih =>
    obtain ⟨⟨pool, share⟩, index⟩ := item
    rw [List.foldlM_cons, Except.bind_eq_ok] at run
    obtain ⟨middle, first, run⟩ := run
    obtain ⟨legs, added, ascending, priced⟩ := ih run
    have later : ∀ leg ∈ legs, ∃ pool' share', ((pool', share'), leg.pool) ∈ ((pool, share), index) :: rest ∧
        pool'.price { order with amount := Amount.clamp share' } = .ok leg.swap := by
      intro leg member
      obtain ⟨pool', share', listed, price⟩ := priced leg member
      exact ⟨pool', share', List.mem_cons_of_mem _ listed, price⟩
    rcases addLeg_eq_ok first with ⟨_, rfl⟩ | ⟨swap, price, grown, _, _⟩
    · exact ⟨legs, added, ascending.cons _, later⟩
    · refine ⟨⟨index, swap⟩ :: legs, by rw [added, grown, List.append_assoc]; rfl, ascending.cons_cons _, ?_⟩
      intro leg member
      rcases List.mem_cons.mp member with rfl | member
      · exact ⟨pool, share, List.mem_cons_self .., price⟩
      · exact later leg member

/-- The legs go through the pools in their order, so that no pool has two of them, and
each is what its pool asks for its share alone. -/
theorem quoteSplit_priced {router : SplitRouter} {split : SplitQuote}
    (run : router.quoteSplit order = .ok split) :
    (split.legs.map (·.pool)).Pairwise (· < ·) ∧
      ∀ leg ∈ split.legs, ∃ pool amount,
        (router.poolsFor order.assetIn order.assetOut)[leg.pool]? = some pool ∧
          pool.price { order with amount } = .ok leg.swap := by
  simp only [quoteSplit, Except.guard_bind_eq_ok, Except.bind_eq_ok] at run
  obtain ⟨_, _, shares, _, run⟩ := run
  obtain ⟨legs, added, ascending, priced⟩ := addLegs_priced run
  rw [List.nil_append] at added
  rw [added]
  refine ⟨List.Pairwise.sublist ascending ?_, fun leg member => ?_⟩
  · rw [List.zipIdx_map_snd]
    exact List.pairwise_lt_range'
  · obtain ⟨pool, share, listed, price⟩ := priced leg member
    have found := List.mem_zipIdx_iff_getElem?.mp listed
    exact ⟨pool, _, (List.getElem?_zip_eq_some.mp found).1, price⟩

/-- Replaying the legs finds every pool as it was priced: the legs before have
touched other pools. -/
theorem evolves_exchangeLegs {legs : List SplitLeg} {pools filled : List Pool}
    (run : exchangeLegs order legs pools = .ok filled) (distinct : (legs.map (·.pool)).Nodup)
    (priced : ∀ leg ∈ legs, ∃ pool amount, pools[leg.pool]? = some pool ∧
      pool.price { order with amount } = .ok leg.swap) :
    List.Forall₂ Pool.Evolves pools filled := by
  induction legs generalizing pools with
  | nil =>
    cases run
    exact List.forall₂_refl _
  | cons leg rest ih =>
    simp only [exchangeLegs, List.foldlM_cons, Except.bind_eq_ok, demand_eq_ok] at run
    obtain ⟨_, ⟨pool, found, exchanged, moved, done⟩, run⟩ := run
    cases done
    obtain ⟨fresh, distinct⟩ := List.nodup_cons.mp distinct
    obtain ⟨_, amount, found', price⟩ := priced leg (List.mem_cons_self ..)
    cases found.symm.trans found'
    refine forall₂_trans (forall₂_set found (pool.evolves_exchange price moved)) (ih run distinct ?_)
    intro other member
    have elsewhere : leg.pool ≠ other.pool := by
      intro same
      exact fresh (List.mem_map.mpr ⟨other, member, same.symm⟩)
    rw [List.getElem?_set_ne elsewhere]
    exact priced other (List.mem_cons_of_mem _ member)

theorem failsInPlace_execute (order : SwapOrder) (bound : Amount) : FailsInPlace (execute order bound) := by
  refine failsInPlace_bind moves_get fun router => failsInPlace_bind (moves_lift _) fun plan => ?_
  refine failsInPlace_bind (moves_lift _) fun _ => failsInPlace_bind (moves_lift _) fun filled => ?_
  exact failsInPlace_set_pure _ _

theorem moves_execute (order : SwapOrder) (bound : Amount) :
    Moves (Order.Preimage poolsOf PoolsEvolve) (execute order bound) := by
  refine (failsInPlace_execute order bound).moves fun {router after fill} run pair => ?_
  obtain ⟨split, filled, planned, _, _, exchanged, rfl⟩ := execute_eq_ok.mp run
  obtain ⟨ascending, priced⟩ := quoteSplit_priced planned
  unfold poolsOf
  rw [Std.ExtTreeMap.getD_insert]
  split
  · rename_i same
    rw [← Std.LawfulEqCmp.eq_of_compare same]
    exact evolves_exchangeLegs exchanged (ascending.imp Nat.ne_of_lt) priced
  · exact List.forall₂_refl _

end SplitRouter

/-- Whatever is swapped with a router, however often, in whatever direction and
with whatever outcome, no pool loses product, none is emptied, and none gives away
some of one asset without having gained of the other. -/
theorem swaps_sustain_pools (swaps : List (SwapOrder × Amount)) (pair : AssetPair) :
    (∀ router : PairRouter, List.Forall₂ Pool.Sustained (router.poolsOf pair)
      ((finalAll (fun (order, bound) => PairRouter.execute order bound) swaps router).poolsOf pair)) ∧
    ∀ router : SplitRouter, List.Forall₂ Pool.Sustained (router.poolsOf pair)
      ((finalAll (fun (order, bound) => SplitRouter.execute order bound) swaps router).poolsOf pair) := by
  refine ⟨fun router => ?_, fun router => ?_⟩
  · have evolved : Order.Preimage PairRouter.poolsOf PoolsEvolve router
        (finalAll (fun (order, bound) => PairRouter.execute order bound) swaps router) :=
      moved_finalAll (fun (order, bound) => PairRouter.moves_execute order bound) swaps router
    exact (evolved pair).imp fun _ _ evolves => evolves.sustained
  · have evolved : Order.Preimage SplitRouter.poolsOf PoolsEvolve router
        (finalAll (fun (order, bound) => SplitRouter.execute order bound) swaps router) :=
      moved_finalAll (fun (order, bound) => SplitRouter.moves_execute order bound) swaps router
    exact (evolved pair).imp fun _ _ evolves => evolves.sustained

end IndexBasket
