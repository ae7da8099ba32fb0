import IndexBasket.Proofs.Balances
import IndexBasket.Proofs.Venue.Fill

namespace IndexBasket

/-- What the entries of a table count for together. -/
def tableSum {κ β : Type} [Ord κ] [Std.TransOrd κ] [DecidableEq κ] (count : β → Nat)
    (table : Std.ExtTreeMap κ β) : Nat :=
  ∑ key ∈ table.keys.toFinset, (table[key]?.map count).getD 0

theorem tableSum_insert {κ β : Type} [Ord κ] [Std.TransOrd κ] [Std.LawfulEqOrd κ] [DecidableEq κ]
    (count : β → Nat) (table : Std.ExtTreeMap κ β) (key : κ) (entry : β) :
    tableSum count (table.insert key entry) + (table[key]?.map count).getD 0 =
      tableSum count table + count entry := by
  have absent : ∀ {table : Std.ExtTreeMap κ β} {x : κ}, x ∉ table.keys.toFinset →
      (table[x]?.map count).getD 0 = 0 := by
    intro table x outside
    have missing : table[x]? = none := by simpa using outside
    rw [missing, Option.map_none, Option.getD_none]
  have sums := sum_update (f := fun x => (table[x]?.map count).getD 0)
    (g := fun x => ((table.insert key entry)[x]?.map count).getD 0)
    (s := table.keys.toFinset) (t := (table.insert key entry).keys.toFinset) key
    (fun x outside => absent outside) (fun x outside => absent outside) fun x different => by
      rw [Std.ExtTreeMap.getElem?_insert,
        if_neg fun same => different (Std.LawfulEqCmp.compare_eq_iff_eq.mp same).symm]
  simpa only [tableSum, Std.ExtTreeMap.getElem?_insert_self, Option.map_some, Option.getD_some] using sums

namespace Pool

/-- What a pool holds of an asset, on either side. -/
def reserveOf (pool : Pool) (asset : Address) : Nat :=
  (if pool.assetA = asset then pool.reserveA.toNat else 0) +
    if pool.assetB = asset then pool.reserveB.toNat else 0

variable {pool filled : Pool} {assetIn assetOut : Address} {swap : Quote}

theorem reservesFor_eq_ok {reserves : Amount × Amount} (run : pool.reservesFor assetIn assetOut = .ok reserves) :
    (pool.assetA = assetIn ∧ pool.assetB = assetOut ∨ pool.assetB = assetIn ∧ pool.assetA = assetOut) ∧
      reserves = (if pool.assetA = assetIn then (pool.reserveA, pool.reserveB) else (pool.reserveB, pool.reserveA)) ∧
      0 < reserves.1.toNat ∧ 0 < reserves.2.toNat := by
  simp only [reservesFor, Except.guard_bind_eq_ok] at run
  obtain ⟨trades, stocked, done⟩ := run
  cases done
  obtain ⟨first, second⟩ := not_or.mp stocked
  refine ⟨?_, rfl, Nat.pos_of_ne_zero fun none => first (Amount.ext none),
    Nat.pos_of_ne_zero fun none => second (Amount.ext none)⟩
  simp only [Pool.trades, Bool.not_eq_true', Bool.not_eq_false, Bool.or_eq_true, Bool.and_eq_true,
    decide_eq_true_eq] at trades
  exact trades

/-- An exchange adds its input to one reserve and takes its output from the other. -/
theorem exchange_eq_ok (run : pool.exchange assetIn assetOut swap = .ok filled) :
    ∃ reserveIn reserveOut newIn newOut : Amount,
      pool.reservesFor assetIn assetOut = .ok (reserveIn, reserveOut) ∧
      newIn.toNat = reserveIn.toNat + swap.amountIn.toNat ∧
      reserveOut.toNat = newOut.toNat + swap.amountOut.toNat ∧
      filled = if pool.assetA = assetIn then { pool with reserveA := newIn, reserveB := newOut }
        else { pool with reserveB := newIn, reserveA := newOut } := by
  simp only [exchange, Except.bind_eq_ok, demand_eq_ok, Amount.add?, Amount.ofNat?_eq_some,
    Amount.sub?_eq_some] at run
  obtain ⟨⟨reserveIn, reserveOut⟩, found, newIn, sumIn, newOut, sumOut, run⟩ := run
  refine ⟨reserveIn, reserveOut, newIn, newOut, found, sumIn.symm, sumOut, ?_⟩
  split at run <;> cases run
  · rename_i forward
    rw [if_pos forward]
  · rename_i backward
    rw [if_neg backward]

theorem reserveOf_exchange (distinct : assetIn ≠ assetOut)
    (run : pool.exchange assetIn assetOut swap = .ok filled) (asset : Address) :
    (filled.reserveOf asset + if assetOut = asset then swap.amountOut.toNat else 0) =
      pool.reserveOf asset + if assetIn = asset then swap.amountIn.toNat else 0 := by
  obtain ⟨reserveIn, reserveOut, newIn, newOut, found, sumIn, sumOut, rfl⟩ := exchange_eq_ok run
  obtain ⟨trades, reserves, _⟩ := reservesFor_eq_ok found
  unfold reserveOf
  by_cases forward : pool.assetA = assetIn
  · rw [if_pos forward] at reserves ⊢
    cases reserves
    have other : pool.assetB = assetOut := by
      rcases trades with both | both
      · exact both.2
      · exact absurd (forward.symm.trans both.2) distinct
    subst forward other
    dsimp only
    split <;> split <;> omega
  · rw [if_neg forward] at reserves ⊢
    cases reserves
    obtain ⟨rfl, rfl⟩ := trades.resolve_left fun both => forward both.1
    dsimp only
    split <;> split <;> omega

end Pool

/-- What all pools of a router hold of an asset. -/
def PairRouter.reserves (router : PairRouter) (asset : Address) : Nat :=
  tableSum (·.reserveOf asset) router.pools

def SplitRouter.reserves (router : SplitRouter) (asset : Address) : Nat :=
  tableSum (fun pools : List Pool => (pools.map (·.reserveOf asset)).sum) router.pools

/-- A venue with fixed rates holds nothing. -/
def Venue.reserves (asset : Address) : Venue → Nat
  | pair router => router.reserves asset
  | split router => router.reserves asset
  | fixedRate _ => 0

/-- What all pools of all registered venues hold of an asset. -/
def Venues.reserves (venues : Venues) (asset : Address) : Nat :=
  tableSum (Venue.reserves asset) venues.byExchange

/-- Whether a venue pays out of pools of its own. -/
def Venue.Pooled : Venue → Prop
  | pair _ => True
  | split _ => True
  | fixedRate _ => False

def Venues.Pooled (venues : Venues) : Prop :=
  ∀ (exchange : Exchange) (venue : Venue), venues.byExchange[exchange]? = some venue → venue.Pooled

variable {order : SwapOrder} {bound : Amount} {fill : Fill}

theorem PairRouter.reserves_execute {router after : PairRouter} (distinct : order.assetIn ≠ order.assetOut)
    (run : execute order bound router = .ok fill after) (asset : Address) :
    (after.reserves asset + if order.assetOut = asset then fill.amountOut.toNat else 0) =
      router.reserves asset + if order.assetIn = asset then fill.amountIn.toNat else 0 := by
  obtain ⟨pool, filled, found, _, _, exchanged, rfl⟩ := execute_eq_ok.mp run
  rw [pool?] at found
  have moved := pool.reserveOf_exchange distinct exchanged asset
  have inserted := tableSum_insert (·.reserveOf asset) router.pools
    (.unordered order.assetIn order.assetOut) filled
  rw [found, Option.map_some, Option.getD_some] at inserted
  unfold reserves
  dsimp only
  omega

namespace SplitRouter

/-- Every leg moves its own swap, so together they move the sums over the legs. -/
theorem reserveOf_exchangeLegs (distinct : order.assetIn ≠ order.assetOut) (asset : Address)
    {legs : List SplitLeg} {pools filled : List Pool} (run : exchangeLegs order legs pools = .ok filled) :
    ((filled.map (·.reserveOf asset)).sum +
        if order.assetOut = asset then (legs.map (·.swap.amountOut.toNat)).sum else 0) =
      (pools.map (·.reserveOf asset)).sum +
        if order.assetIn = asset then (legs.map (·.swap.amountIn.toNat)).sum else 0 := by
  induction legs generalizing pools with
  | nil =>
    cases run
    simp
  | cons leg rest ih =>
    simp only [exchangeLegs, List.foldlM_cons, Except.bind_eq_ok, demand_eq_ok] at run
    obtain ⟨_, ⟨pool, found, exchanged, moved, done⟩, run⟩ := run
    cases done
    have first := pool.reserveOf_exchange distinct moved asset
    have placed := sum_map_set (·.reserveOf asset) exchanged found
    have later := ih run
    simp only [List.map_cons, List.sum_cons]
    split <;> split <;> simp_all only [if_true, if_false] <;> omega

theorem reserves_execute {router after : SplitRouter} (distinct : order.assetIn ≠ order.assetOut)
    (run : execute order bound router = .ok fill after) (asset : Address) :
    (after.reserves asset + if order.assetOut = asset then fill.amountOut.toNat else 0) =
      router.reserves asset + if order.assetIn = asset then fill.amountIn.toNat else 0 := by
  obtain ⟨split, filled, planned, rfl, _, exchanged, rfl⟩ := execute_eq_ok.mp run
  have totalled := (quoteSplit_totals planned).1
  have moved := reserveOf_exchangeLegs distinct asset exchanged
  have inserted := tableSum_insert (fun pools : List Pool => (pools.map (·.reserveOf asset)).sum) router.pools
    (.unordered order.assetIn order.assetOut) filled
  have before : (router.pools[AssetPair.unordered order.assetIn order.assetOut]?.map fun pools =>
      (pools.map (·.reserveOf asset)).sum).getD 0 =
      ((router.poolsFor order.assetIn order.assetOut).map (·.reserveOf asset)).sum := by
    rw [poolsFor, Std.ExtTreeMap.getD_eq_getD_getElem?]
    cases router.pools[AssetPair.unordered order.assetIn order.assetOut]? <;> rfl
  rw [← totalled.totalIn, ← totalled.totalOut] at moved
  unfold reserves SplitQuote.quote
  dsimp only
  omega

end SplitRouter

theorem Venue.reserves_execute {venue after : Venue} (pooled : venue.Pooled)
    (distinct : order.assetIn ≠ order.assetOut) (run : execute order bound venue = .ok fill after)
    (asset : Address) :
    (after.reserves asset + if order.assetOut = asset then fill.amountOut.toNat else 0) =
      venue.reserves asset + if order.assetIn = asset then fill.amountIn.toNat else 0 := by
  rcases execute_eq_ok run with ⟨_, _, rfl, rfl, swapped⟩ | ⟨_, _, rfl, rfl, swapped⟩ | ⟨_, _, rfl, rfl, _⟩
  · exact PairRouter.reserves_execute distinct swapped asset
  · exact SplitRouter.reserves_execute distinct swapped asset
  · exact pooled.elim

/-- A swap on venues with pools moves exactly its fill: the input into the
pools and the output out of them. -/
theorem Venues.reserves_execute {venues after : Venues} {exchange : Exchange} (pooled : venues.Pooled)
    (distinct : order.assetIn ≠ order.assetOut)
    (run : execute exchange order bound venues = .ok fill after) (asset : Address) :
    (after.reserves asset + if order.assetOut = asset then fill.amountOut.toNat else 0) =
      venues.reserves asset + if order.assetIn = asset then fill.amountIn.toNat else 0 := by
  obtain ⟨venue, filled, found, swapped, rfl⟩ := execute_eq_ok.mp run
  have moved := Venue.reserves_execute (pooled exchange venue found) distinct swapped asset
  have inserted := tableSum_insert (Venue.reserves asset) venues.byExchange exchange filled
  rw [found, Option.map_some, Option.getD_some] at inserted
  unfold reserves
  dsimp only
  omega

end IndexBasket
