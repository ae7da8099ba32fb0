import IndexBasket.Proofs.Action
import IndexBasket.Venue.Registered
import Mathlib.Algebra.BigOperators.Group.List.Basic
import Mathlib.Algebra.GroupWithZero.Nat

namespace IndexBasket

/-- The side of a swap that the order has given. -/
def SwapOrder.fixedSide (order : SwapOrder) (swap : Quote) : Amount :=
  match order.kind with
  | .exactInput => swap.amountIn
  | .exactOutput => swap.amountOut

/-- A quote computes one side and copies the other from the order. -/
theorem SwapOrder.fixedSide_quoted {order : SwapOrder} {out input : Except VenueError Amount} {swap : Quote}
    (run : (match order.kind with
      | .exactInput => do
        let amountOut ← out
        return ⟨order.amount, amountOut⟩
      | .exactOutput => do
        let amountIn ← input
        return ⟨amountIn, order.amount⟩) = Except.ok swap) :
    order.fixedSide swap = order.amount := by
  unfold fixedSide
  cases kind : order.kind with
  | exactInput =>
    rw [kind] at run
    obtain ⟨amountOut, _, done⟩ := Except.bind_eq_ok.mp run
    cases done
    rfl
  | exactOutput =>
    rw [kind] at run
    obtain ⟨amountIn, _, done⟩ := Except.bind_eq_ok.mp run
    cases done
    rfl

theorem Pool.price_fixedSide {pool : Pool} {order : SwapOrder} {swap : Quote}
    (run : pool.price order = .ok swap) : order.fixedSide swap = order.amount :=
  SwapOrder.fixedSide_quoted run

/-- The open side of a swap is within its bound: not less than the least output, or
not more than the greatest input. -/
def SwapKind.Accepts (kind : SwapKind) (bound : Amount) (swap : Quote) : Prop :=
  match kind with
  | .exactInput => bound ≤ swap.amountOut
  | .exactOutput => swap.amountIn ≤ bound

instance (kind : SwapKind) (bound : Amount) (swap : Quote) : Decidable (kind.Accepts bound swap) :=
  match kind with
  | .exactInput => inferInstanceAs (Decidable (bound ≤ swap.amountOut))
  | .exactOutput => inferInstanceAs (Decidable (swap.amountIn ≤ bound))

theorem checkBound_eq_ok {kind : SwapKind} {swap : Quote} {bound : Amount} {done : Unit} :
    checkBound kind swap bound = .ok done ↔ kind.Accepts bound swap := by
  cases kind with
  | exactInput => simp [checkBound, SwapKind.Accepts, Amount.lt_def, Amount.le_def]
  | exactOutput => simp [checkBound, SwapKind.Accepts, Amount.lt_def, Amount.le_def]

/-- A swap with a pool of its own pair goes through at the price of the pool, if that
is within the bound and the pool can take it. -/
theorem PairRouter.execute_eq_ok {router after : PairRouter} {order : SwapOrder} {bound : Amount} {fill : Fill} :
    execute order bound router = .ok fill after ↔
      ∃ pool filled, router.pool? order.assetIn order.assetOut = some pool ∧ pool.price order = .ok fill ∧
        order.kind.Accepts bound fill ∧ pool.exchange order.assetIn order.assetOut fill = .ok filled ∧
        after = ⟨router.pools.insert (.unordered order.assetIn order.assetOut) filled⟩ := by
  simp only [execute, poolFor, Action.bind_eq_ok, Action.lift_eq_ok, Action.get_eq_ok, Action.set_eq_ok,
    Action.pure_eq_ok, IndexBasket.demand_eq_ok, checkBound_eq_ok]
  constructor
  · rintro ⟨_, _, ⟨rfl, rfl⟩, pool, _, ⟨found, rfl⟩, _, _, ⟨priced, rfl⟩, _, _, ⟨within, rfl⟩, filled, _,
      ⟨exchanged, rfl⟩, _, _, rfl, rfl, rfl⟩
    exact ⟨pool, filled, found, priced, within, exchanged, rfl⟩
  · rintro ⟨pool, filled, found, priced, within, exchanged, rfl⟩
    exact ⟨_, _, ⟨rfl, rfl⟩, pool, _, ⟨found, rfl⟩, _, _, ⟨priced, rfl⟩, ⟨⟩, _, ⟨within, rfl⟩, filled, _,
      ⟨exchanged, rfl⟩, ⟨⟩, _, rfl, rfl, rfl⟩

theorem PairRouter.execute_fixedSide {router after : PairRouter} {order : SwapOrder} {bound : Amount}
    {fill : Fill} (run : execute order bound router = .ok fill after) : order.fixedSide fill = order.amount := by
  obtain ⟨pool, _, _, priced, _⟩ := execute_eq_ok.mp run
  exact pool.price_fixedSide priced

namespace FixedRateVenue

theorem quote_fixedSide {venue : FixedRateVenue} {order : SwapOrder} {swap : Quote}
    (run : venue.quote order = .ok swap) : order.fixedSide swap = order.amount := by
  simp only [quote, Except.guard_bind_eq_ok, Except.bind_eq_ok] at run
  obtain ⟨_, rate, _, run⟩ := run
  exact SwapOrder.fixedSide_quoted run

/-- Slippage is on the open side. -/
theorem slip_fixedSide {order : SwapOrder} {bps : UInt32} {quoted slipped : Quote}
    (run : slip order.kind bps quoted = .ok slipped) : order.fixedSide slipped = order.fixedSide quoted := by
  unfold slip at run
  unfold SwapOrder.fixedSide
  cases kind : order.kind with
  | exactInput =>
    rw [kind] at run
    obtain ⟨out, _, done⟩ := Except.bind_eq_ok.mp run
    cases done
    rfl
  | exactOutput =>
    rw [kind] at run
    obtain ⟨input, _, done⟩ := Except.bind_eq_ok.mp run
    cases done
    rfl

/-- What a venue with fixed rates makes of a quote. -/
def filled (venue : FixedRateVenue) (kind : SwapKind) (quoted : Quote) : Except VenueError Fill :=
  match venue.fillMode with
  | .reject => .error (.rejected "mock: swap rejected")
  | .quoted => .ok quoted
  | .slipped bps => slip kind bps quoted

/-- The bound decides whether a swap goes through, and beside that it is only
recorded. -/
theorem execute_eq_ok {venue after : FixedRateVenue} {order : SwapOrder} {bound : Amount} {fill : Fill} :
    execute order bound venue = .ok fill after ↔
      ∃ quoted, venue.quote order = .ok quoted ∧ venue.filled order.kind quoted = .ok fill ∧
        checkBound order.kind fill bound = .ok () ∧
        after = { venue with swaps := venue.swaps ++ [⟨order, bound⟩] } := by
  simp only [execute, Action.bind_eq_ok, Action.modify_eq_ok, Action.get_eq_ok, Action.lift_eq_ok, filled]
  constructor
  · rintro ⟨_, _, rfl, _, _, ⟨rfl, rfl⟩, quoted, _, ⟨priced, rfl⟩, run⟩
    refine ⟨quoted, priced, ?_⟩
    dsimp only at run ⊢
    cases mode : venue.fillMode with
    | quoted =>
      simp only [mode, Action.bind_eq_ok, Action.pure_eq_ok, Action.lift_eq_ok] at run ⊢
      obtain ⟨_, _, ⟨rfl, rfl⟩, _, _, ⟨within, rfl⟩, rfl, rfl⟩ := run
      exact ⟨rfl, within, rfl⟩
    | slipped bps =>
      simp only [mode, Action.bind_eq_ok, Action.pure_eq_ok, Action.ofExcept_eq_ok, Action.lift_eq_ok] at run ⊢
      obtain ⟨_, _, ⟨worse, rfl⟩, _, _, ⟨within, rfl⟩, rfl, rfl⟩ := run
      exact ⟨worse, within, rfl⟩
    | reject =>
      simp only [mode] at run
      obtain ⟨_, _, stopped, _⟩ := Action.bind_eq_ok.mp run
      exact absurd stopped Action.throw_ne_ok
  · rintro ⟨quoted, priced, filled, within, rfl⟩
    refine ⟨⟨⟩, _, rfl, _, _, ⟨rfl, rfl⟩, quoted, _, ⟨priced, rfl⟩, ?_⟩
    dsimp only
    cases mode : venue.fillMode with
    | quoted =>
      simp only [mode, Action.bind_eq_ok, Action.pure_eq_ok, Action.lift_eq_ok] at filled ⊢
      cases filled
      exact ⟨_, _, ⟨rfl, rfl⟩, _, _, ⟨within, rfl⟩, rfl, rfl⟩
    | slipped bps =>
      simp only [mode, Action.bind_eq_ok, Action.pure_eq_ok, Action.ofExcept_eq_ok, Action.lift_eq_ok] at filled ⊢
      exact ⟨_, _, ⟨filled, rfl⟩, _, _, ⟨within, rfl⟩, rfl, rfl⟩
    | reject =>
      rw [mode] at filled
      cases filled

theorem execute_fixedSide {venue after : FixedRateVenue} {order : SwapOrder} {bound : Amount} {fill : Fill}
    (run : execute order bound venue = .ok fill after) : order.fixedSide fill = order.amount := by
  obtain ⟨quoted, priced, filled, _⟩ := execute_eq_ok.mp run
  have fixed := quote_fixedSide priced
  unfold FixedRateVenue.filled at filled
  split at filled
  · cases filled
  · cases filled
    exact fixed
  · rw [slip_fixedSide filled, fixed]

end FixedRateVenue

/-- Replacing one item changes a sum by what the item counts for. -/
theorem sum_map_set {α : Type} (f : α → Nat) {items : List α} {index : Nat} {old : α} (new : α)
    (found : items[index]? = some old) :
    ((items.set index new).map f).sum + f old = (items.map f).sum + f new := by
  induction items generalizing index with
  | nil => simp at found
  | cons item rest ih =>
    cases index with
    | zero =>
      simp only [List.getElem?_cons_zero, Option.some.injEq] at found
      subst found
      simp only [List.set_cons_zero, List.map_cons, List.sum_cons]
      omega
    | succ index =>
      simp only [List.getElem?_cons_succ] at found
      have tail := ih found
      simp only [List.set_cons_succ, List.map_cons, List.sum_cons]
      omega

namespace SplitRouter

theorem sum_sliceSizes (amount : Nat) : (sliceSizes amount).sum = amount := by
  unfold sliceSizes
  split
  · simp only [List.sum_nil]
    omega
  · rename_i count _
    have division := Nat.div_add_mod amount (count + 1)
    rw [List.sum_cons, List.sum_replicate_nat]
    rw [Nat.succ_mul] at division
    omega

/-- The pool of the best offer is in the list, so its share can take the slice. -/
theorem assign_eq_ok {order : SwapOrder} {size : Nat} {sizes : List Nat} {pools : List Pool}
    {shares final : List Nat} (run : assign order (size :: sizes) pools shares = .ok final) :
    ∃ index pool filled, pools[index]? = some pool ∧
      assign order sizes (pools.set index filled) (shares.modify index (· + size)) = .ok final := by
  simp only [assign, Except.bind_eq_ok, demand_eq_ok] at run
  obtain ⟨leg, _, pool, found, filled, _, rest⟩ := run
  exact ⟨leg.pool, pool, filled, found, rest⟩

/-- Every slice is given to one of the pools. -/
theorem sum_assign {order : SwapOrder} {sizes : List Nat} {pools : List Pool} {shares final : List Nat}
    (run : assign order sizes pools shares = .ok final) (aligned : shares.length = pools.length) :
    final.length = pools.length ∧ final.sum = shares.sum + sizes.sum := by
  induction sizes generalizing pools shares with
  | nil =>
    simp only [assign, Except.ok.injEq] at run
    subst run
    exact ⟨aligned, by simp⟩
  | cons size sizes ih =>
    obtain ⟨index, pool, filled, found, rest⟩ := assign_eq_ok run
    obtain ⟨length, sum⟩ := ih rest (by rw [List.length_modify, List.length_set, aligned])
    obtain ⟨within, _⟩ := List.getElem?_eq_some_iff.mp found
    have share := List.getElem?_eq_getElem (aligned ▸ within : index < shares.length)
    have grown := sum_map_set id (shares[index] + size) share
    simp only [List.map_id, id_eq] at grown
    refine ⟨by rw [length, List.length_set], ?_⟩
    rw [sum, List.modify_eq_set_getElem?, share, List.sum_cons]
    simp only [Option.map_eq_map, Option.map_some, Option.getD_some]
    omega

/-- The totals of a split order are the sums over its legs. -/
structure Totalled (split : SplitQuote) : Prop where
  totalIn : split.totalIn.toNat = (split.legs.map (·.swap.amountIn.toNat)).sum
  totalOut : split.totalOut.toNat = (split.legs.map (·.swap.amountOut.toNat)).sum

theorem clamp_toNat {n : Nat} (fits : n < 2 ^ 128) : (Amount.clamp n).toNat = n := by
  simp only [Amount.clamp]
  omega

theorem addLeg_eq_ok {order : SwapOrder} {split after : SplitQuote} {pool : Pool} {index share : Nat}
    (run : addLeg order split pool index share = .ok after) :
    (share = 0 ∧ after = split) ∨
      ∃ swap, pool.price { order with amount := Amount.clamp share } = .ok swap ∧
        after.legs = split.legs ++ [⟨index, swap⟩] ∧
        after.totalIn.toNat = split.totalIn.toNat + swap.amountIn.toNat ∧
        after.totalOut.toNat = split.totalOut.toNat + swap.amountOut.toNat := by
  unfold addLeg at run
  split at run
  · rename_i nothing
    cases run
    exact Or.inl ⟨nothing, rfl⟩
  · simp only [Except.bind_eq_ok, demand_eq_ok, Amount.add?, Amount.ofNat?_eq_some] at run
    obtain ⟨swap, priced, totalIn, sumIn, totalOut, sumOut, done⟩ := run
    cases done
    exact Or.inr ⟨swap, priced, rfl, sumIn.symm, sumOut.symm⟩

/-- A leg adds its share to the side that is given, and its swap to both totals. -/
theorem addLeg_totals {order : SwapOrder} {split after : SplitQuote} {pool : Pool} {index share : Nat}
    (run : addLeg order split pool index share = .ok after) (fits : share < 2 ^ 128)
    (totalled : Totalled split) :
    Totalled after ∧
      (order.fixedSide after.quote).toNat = (order.fixedSide split.quote).toNat + share := by
  rcases addLeg_eq_ok run with ⟨rfl, rfl⟩ | ⟨swap, priced, legs, sumIn, sumOut⟩
  · exact ⟨totalled, rfl⟩
  · have fixed := congrArg Amount.toNat (pool.price_fixedSide priced)
    rw [clamp_toNat fits] at fixed
    refine ⟨⟨?_, ?_⟩, ?_⟩
    · rw [sumIn, legs, totalled.totalIn]
      simp
    · rw [sumOut, legs, totalled.totalOut]
      simp
    · unfold SwapOrder.fixedSide SplitQuote.quote at *
      cases kind : order.kind with
      | exactInput =>
        simp only [kind] at fixed ⊢
        omega
      | exactOutput =>
        simp only [kind] at fixed ⊢
        omega

theorem addLegs_totals {order : SwapOrder} {items : List ((Pool × Nat) × Nat)} {split after : SplitQuote}
    (run : items.foldlM (fun split ((pool, share), index) => addLeg order split pool index share) split = .ok after)
    (fits : (items.map (·.1.2)).sum < 2 ^ 128) (totalled : Totalled split) :
    Totalled after ∧ (order.fixedSide after.quote).toNat =
      (order.fixedSide split.quote).toNat + (items.map (·.1.2)).sum := by
  induction items generalizing split with
  | nil =>
    cases run
    exact ⟨totalled, rfl⟩
  | cons item rest ih =>
    obtain ⟨⟨pool, share⟩, index⟩ := item
    simp only [List.map_cons, List.sum_cons] at fits ⊢
    rw [List.foldlM_cons, Except.bind_eq_ok] at run
    obtain ⟨middle, first, run⟩ := run
    obtain ⟨middleTotalled, added⟩ := addLeg_totals first (by omega) totalled
    obtain ⟨afterTotalled, sum⟩ := ih run (by omega) middleTotalled
    exact ⟨afterTotalled, by omega⟩

/-- A split order covers the amount that is asked for, neither more nor less. -/
theorem quoteSplit_totals {router : SplitRouter} {order : SwapOrder} {split : SplitQuote}
    (run : router.quoteSplit order = .ok split) :
    Totalled split ∧ order.fixedSide split.quote = order.amount := by
  simp only [quoteSplit, Except.guard_bind_eq_ok, Except.bind_eq_ok] at run
  obtain ⟨_, _, shares, allocated, run⟩ := run
  obtain ⟨aligned, sum⟩ := sum_assign allocated (List.length_map ..)
  rw [sum_sliceSizes] at sum
  have none : ((router.poolsFor order.assetIn order.assetOut).map fun _ => 0).sum = 0 := by simp
  have given : (((router.poolsFor order.assetIn order.assetOut).zip shares).zipIdx.map (·.1.2)).sum =
      order.amount.toNat := by
    have dropped : ((router.poolsFor order.assetIn order.assetOut).zip shares).zipIdx.map (·.1.2) = shares := by
      rw [← Function.comp_def Prod.snd Prod.fst, ← List.map_map, List.zipIdx_map_fst,
        List.map_snd_zip (Nat.le_of_eq aligned)]
    rw [dropped]
    omega
  have size := order.amount.lt_size
  obtain ⟨totalled, fixed⟩ := addLegs_totals run (by omega) ⟨rfl, rfl⟩
  refine ⟨totalled, Amount.ext ?_⟩
  rw [fixed, given]
  cases kind : order.kind <;> simp [SwapOrder.fixedSide, SplitQuote.quote, kind, Amount.zero, Amount.ofNat]

theorem quote_eq_ok {router : SplitRouter} {order : SwapOrder} {quoted : Quote} :
    router.quote order = .ok quoted ↔ ∃ split, router.quoteSplit order = .ok split ∧ split.quote = quoted := by
  simp only [quote, Except.bind_eq_ok, pure, Except.pure, Except.ok.injEq]

/-- A split order goes through as it has been priced, if its totals are within the
bound and every leg finds a pool that can take it. -/
theorem execute_eq_ok {router after : SplitRouter} {order : SwapOrder} {bound : Amount} {fill : Fill} :
    execute order bound router = .ok fill after ↔
      ∃ split filled, router.quoteSplit order = .ok split ∧ split.quote = fill ∧ order.kind.Accepts bound fill ∧
        exchangeLegs order split.legs (router.poolsFor order.assetIn order.assetOut) = .ok filled ∧
        after = ⟨router.pools.insert (.unordered order.assetIn order.assetOut) filled⟩ := by
  simp only [execute, Action.bind_eq_ok, Action.lift_eq_ok, Action.get_eq_ok, Action.set_eq_ok,
    Action.pure_eq_ok, checkBound_eq_ok]
  constructor
  · rintro ⟨_, _, ⟨rfl, rfl⟩, split, _, ⟨planned, rfl⟩, _, _, ⟨within, rfl⟩, filled, _, ⟨exchanged, rfl⟩, _, _,
      rfl, rfl, rfl⟩
    exact ⟨split, filled, planned, rfl, within, exchanged, rfl⟩
  · rintro ⟨split, filled, planned, rfl, within, exchanged, rfl⟩
    exact ⟨_, _, ⟨rfl, rfl⟩, split, _, ⟨planned, rfl⟩, ⟨⟩, _, ⟨within, rfl⟩, filled, _, ⟨exchanged, rfl⟩, ⟨⟩, _,
      rfl, rfl, rfl⟩

theorem execute_fixedSide {router after : SplitRouter} {order : SwapOrder} {bound : Amount} {fill : Fill}
    (run : execute order bound router = .ok fill after) : order.fixedSide fill = order.amount := by
  obtain ⟨split, _, planned, rfl, _⟩ := execute_eq_ok.mp run
  exact (quoteSplit_totals planned).2

end SplitRouter

theorem Venue.execute_eq_ok {venue after : Venue} {order : SwapOrder} {bound : Amount} {fill : Fill}
    (run : execute order bound venue = .ok fill after) :
    (∃ router filled, venue = pair router ∧ after = pair filled ∧
      PairRouter.execute order bound router = .ok fill filled) ∨
    (∃ router filled, venue = split router ∧ after = split filled ∧
      SplitRouter.execute order bound router = .ok fill filled) ∨
    ∃ mock filled, venue = fixedRate mock ∧ after = fixedRate filled ∧
      FixedRateVenue.execute order bound mock = .ok fill filled := by
  cases venue with
  | pair router =>
    simp only [execute, Action.within_eq_ok] at run
    obtain ⟨filled, swapped, rfl⟩ := run
    exact Or.inl ⟨router, filled, rfl, rfl, swapped⟩
  | split router =>
    simp only [execute, Action.within_eq_ok] at run
    obtain ⟨filled, swapped, rfl⟩ := run
    exact Or.inr (Or.inl ⟨router, filled, rfl, rfl, swapped⟩)
  | fixedRate mock =>
    simp only [execute, Action.within_eq_ok] at run
    obtain ⟨filled, swapped, rfl⟩ := run
    exact Or.inr (Or.inr ⟨mock, filled, rfl, rfl, swapped⟩)

theorem Venue.execute_fixedSide {venue after : Venue} {order : SwapOrder} {bound : Amount} {fill : Fill}
    (run : execute order bound venue = .ok fill after) : order.fixedSide fill = order.amount := by
  rcases execute_eq_ok run with ⟨_, _, _, _, swapped⟩ | ⟨_, _, _, _, swapped⟩ | ⟨_, _, _, _, swapped⟩
  · exact PairRouter.execute_fixedSide swapped
  · exact SplitRouter.execute_fixedSide swapped
  · exact FixedRateVenue.execute_fixedSide swapped

/-- A swap runs on the venue that is registered, and puts it back as it is then. -/
theorem Venues.execute_eq_ok {venues after : Venues} {exchange : Exchange} {order : SwapOrder}
    {bound : Amount} {fill : Fill} :
    execute exchange order bound venues = .ok fill after ↔
      ∃ venue filled, venues.byExchange[exchange]? = some venue ∧
        Venue.execute order bound venue = .ok fill filled ∧
        after = ⟨venues.byExchange.insert exchange filled⟩ := by
  simp only [execute, find, Action.bind_eq_ok, Action.get_eq_ok, Action.lift_eq_ok, demand_eq_ok,
    Action.within_eq_ok]
  constructor
  · rintro ⟨_, _, ⟨rfl, rfl⟩, venue, _, ⟨found, rfl⟩, filled, swapped, rfl⟩
    exact ⟨venue, filled, found, swapped, rfl⟩
  · rintro ⟨venue, filled, found, swapped, rfl⟩
    exact ⟨_, _, ⟨rfl, rfl⟩, venue, _, ⟨found, rfl⟩, filled, swapped, rfl⟩

/-- Whatever the venue, the side that the order has given is filled exactly. -/
theorem Venues.execute_fixedSide {venues after : Venues} {exchange : Exchange} {order : SwapOrder}
    {bound : Amount} {fill : Fill} (run : execute exchange order bound venues = .ok fill after) :
    order.fixedSide fill = order.amount := by
  obtain ⟨venue, filled, _, swapped, _⟩ := execute_eq_ok.mp run
  exact Venue.execute_fixedSide swapped

end IndexBasket
