import IndexBasket.Proofs.Venue.Contract

namespace IndexBasket

open IndexBasket.Action

namespace Pool

/-- The reserve of an asset has no room for an input. -/
def Overflows (pool : Pool) (asset : Address) (input : Amount) : Prop :=
  ∃ reserve, pool.reserve? asset = some reserve ∧ 2 ^ 128 ≤ reserve.toNat + input.toNat

variable {pool : Pool} {assetIn assetOut : Address} {order : SwapOrder} {swap : Quote}

theorem reserve?_of_reservesFor {reserves : Amount × Amount}
    (found : pool.reservesFor assetIn assetOut = .ok reserves) : pool.reserve? assetIn = some reserves.1 := by
  obtain ⟨trades, same, _⟩ := reservesFor_eq_ok found
  unfold reserve?
  split at same
  · rename_i forward
    rw [if_pos forward, same]
  · rename_i backward
    rw [if_neg backward, if_pos (trades.resolve_left fun both => backward both.1).1, same]

theorem overflows_iff {reserves : Amount × Amount} {input : Amount}
    (found : pool.reservesFor assetIn assetOut = .ok reserves) :
    pool.Overflows assetIn input ↔ reserves.1.add? input = none := by
  unfold Overflows Amount.add?
  rw [reserve?_of_reservesFor found, Amount.ofNat?_eq_none]
  simp only [Option.some.injEq, exists_eq_left']
  exact Iff.rfl

/-- What a pool has priced it can also exchange, unless it has no room for the input:
the output is less than its reserve. -/
theorem exchange_priced (priced : pool.price order = .ok swap) :
    pool.Overflows order.assetIn swap.amountIn ∧
        pool.exchange order.assetIn order.assetOut swap = .error .overflow ∨
      ¬pool.Overflows order.assetIn swap.amountIn ∧
        ∃ filled, pool.exchange order.assetIn order.assetOut swap = .ok filled := by
  obtain ⟨reserveIn, reserveOut, found, below, _⟩ := price_eq_ok priced
  rw [overflows_iff found]
  dsimp only
  unfold exchange
  cases sum : reserveIn.add? swap.amountIn with
  | none =>
    refine Or.inl ⟨rfl, Except.bind_eq_error.mpr (Or.inr ⟨_, found, ?_⟩)⟩
    exact Except.bind_eq_error.mpr (Or.inl (demand_eq_error.mpr ⟨sum, rfl⟩))
  | some newIn =>
    have left : reserveOut.toNat - swap.amountOut.toNat < 2 ^ 128 := by
      have fits := reserveOut.lt_size
      omega
    have taken : reserveOut.sub? swap.amountOut = some ⟨_, left⟩ :=
      Amount.sub?_eq_some.mpr (Nat.sub_add_cancel below.le).symm
    refine Or.inr ⟨nofun, ?_⟩
    simp only [Except.bind_eq_ok, demand_eq_ok]
    by_cases forward : pool.assetA = order.assetIn
    · exact ⟨_, _, found, newIn, sum, _, taken, if_pos forward⟩
    · exact ⟨_, _, found, newIn, sum, _, taken, if_neg forward⟩

end Pool

namespace SplitRouter

variable {order : SwapOrder} {legs : List SplitLeg} {pools : List Pool}

/-- The pool of a leg has no room for its input. -/
def Overfull (order : SwapOrder) (pools : List Pool) (leg : SplitLeg) : Prop :=
  ∃ pool, pools[leg.pool]? = some pool ∧ pool.Overflows order.assetIn leg.swap.amountIn

theorem exchangeLegs_cons {leg : SplitLeg} {pool : Pool} (rest : List SplitLeg)
    (found : pools[leg.pool]? = some pool) :
    exchangeLegs order (leg :: rest) pools =
      pool.exchange order.assetIn order.assetOut leg.swap >>= fun filled =>
        exchangeLegs order rest (pools.set leg.pool filled) := by
  simp only [exchangeLegs, List.foldlM_cons, found, demand, pure_bind, bind_assoc]

/-- Legs on different pools do not get in the way of each other, so each finds its
pool as it was priced, and only one without room can stop the order. -/
theorem exchangeLegs_priced (distinct : (legs.map (·.pool)).Nodup)
    (priced : ∀ leg ∈ legs, ∃ pool amount, pools[leg.pool]? = some pool ∧
      pool.price { order with amount } = .ok leg.swap) :
    (∃ leg ∈ legs, Overfull order pools leg) ∧ exchangeLegs order legs pools = .error .overflow ∨
      (∀ leg ∈ legs, ¬Overfull order pools leg) ∧ ∃ filled, exchangeLegs order legs pools = .ok filled := by
  induction legs generalizing pools with
  | nil => exact Or.inr ⟨nofun, pools, rfl⟩
  | cons leg rest ih =>
    obtain ⟨fresh, distinct⟩ := List.nodup_cons.mp distinct
    obtain ⟨pool, amount, found, price⟩ := priced leg (List.mem_cons_self ..)
    have overfull_iff : Overfull order pools leg ↔ pool.Overflows order.assetIn leg.swap.amountIn := by
      unfold Overfull
      rw [found]
      simp only [Option.some.injEq, exists_eq_left']
    rw [exchangeLegs_cons rest found]
    rcases pool.exchange_priced price with ⟨full, stopped⟩ | ⟨room, filled, moved⟩
    · refine Or.inl ⟨⟨leg, List.mem_cons_self .., overfull_iff.mpr full⟩, ?_⟩
      exact Except.bind_eq_error.mpr (Or.inl stopped)
    · -- What this leg has filled is no pool of a later one.
      have elsewhere : ∀ other ∈ rest, (pools.set leg.pool filled)[other.pool]? = pools[other.pool]? := by
        intro other member
        refine List.getElem?_set_ne fun same => fresh ?_
        exact List.mem_map.mpr ⟨other, member, same.symm⟩
      have overfull_rest : ∀ other ∈ rest,
          (Overfull order (pools.set leg.pool filled) other ↔ Overfull order pools other) := by
        intro other member
        unfold Overfull
        rw [elsewhere other member]
      have laterPriced : ∀ other ∈ rest, ∃ pool amount, (pools.set leg.pool filled)[other.pool]? = some pool ∧
          pool.price { order with amount } = .ok other.swap := by
        intro other member
        rw [elsewhere other member]
        exact priced other (List.mem_cons_of_mem _ member)
      rcases ih distinct laterPriced with ⟨⟨other, member, full⟩, stopped⟩ | ⟨rooms, final, moved'⟩
      · refine Or.inl ⟨⟨other, List.mem_cons_of_mem _ member, (overfull_rest other member).mp full⟩, ?_⟩
        exact Except.bind_eq_error.mpr (Or.inr ⟨filled, moved, stopped⟩)
      · refine Or.inr ⟨fun other member => ?_, final, Except.bind_eq_ok.mpr ⟨filled, moved, moved'⟩⟩
        rcases List.mem_cons.mp member with rfl | member
        · exact fun full => room (overfull_iff.mp full)
        · exact fun full => rooms other member ((overfull_rest other member).mpr full)

end SplitRouter

namespace Venue

/-- The pools that a swap goes through at its price, each with what it takes in. -/
def Uses (order : SwapOrder) (pool : Pool) (input : Amount) : Venue → Prop
  | pair router =>
    router.pool? order.assetIn order.assetOut = some pool ∧ ∃ output, pool.price order = .ok ⟨input, output⟩
  | split router =>
    ∃ plan leg, router.quoteSplit order = .ok plan ∧ leg ∈ plan.legs ∧
      (router.poolsFor order.assetIn order.assetOut)[leg.pool]? = some pool ∧ leg.swap.amountIn = input
  | fixedRate _ => False

/-- One of the pools that a swap goes through has no room for what it takes in. -/
def Overfull (order : SwapOrder) (venue : Venue) : Prop :=
  ∃ pool input, venue.Uses order pool input ∧ pool.Overflows order.assetIn input

variable {order : SwapOrder} {bound : Amount} {quoted : Quote}

theorem overfull_pair {router : PairRouter} {pool : Pool}
    (found : router.pool? order.assetIn order.assetOut = some pool) (priced : pool.price order = .ok quoted) :
    (pair router).Overfull order ↔ pool.Overflows order.assetIn quoted.amountIn := by
  unfold Overfull Uses
  constructor
  · rintro ⟨_, _, ⟨found', _, priced'⟩, full⟩
    cases found.symm.trans found'
    cases priced.symm.trans priced'
    exact full
  · intro full
    exact ⟨pool, _, ⟨found, _, priced⟩, full⟩

theorem overfull_split {router : SplitRouter} {plan : SplitQuote} (planned : router.quoteSplit order = .ok plan) :
    (split router).Overfull order ↔
      ∃ leg ∈ plan.legs, SplitRouter.Overfull order (router.poolsFor order.assetIn order.assetOut) leg := by
  unfold Overfull Uses SplitRouter.Overfull
  constructor
  · rintro ⟨pool, _, ⟨_, leg, planned', member, found, rfl⟩, full⟩
    cases planned.symm.trans planned'
    exact ⟨leg, member, pool, found, full⟩
  · rintro ⟨leg, member, pool, found, full⟩
    exact ⟨pool, _, ⟨plan, leg, planned, member, found, rfl⟩, full⟩

/-- A quote within the bound is filled as it stands, unless a pool overflows. -/
theorem execute_of_quote {venue : Venue} (pooled : venue.Pooled) (priced : Venue.quote order venue = .ok quoted)
    (within : order.kind.Accepts bound quoted) :
    venue.Overfull order ∧ execute order bound venue = .error .overflow venue ∨
      ¬venue.Overfull order ∧ ∃ after, execute order bound venue = .ok quoted after := by
  have checked : checkBound order.kind quoted bound = .ok () := checkBound_eq_ok.mpr within
  cases venue with
  | pair router =>
    obtain ⟨pool, reached, price⟩ := Except.bind_eq_ok.mp priced
    have found := demand_eq_ok.mp reached
    rw [overfull_pair found price]
    rcases pool.exchange_priced price with ⟨full, stopped⟩ | ⟨room, filled, moved⟩
    · have refused : PairRouter.execute order bound router = .error .overflow router := by
        rw [PairRouter.execute, get_bind, lift_bind_ok reached, lift_bind_ok price,
          lift_bind_ok checked, lift_bind_error stopped]
      refine Or.inl ⟨full, ?_⟩
      simp only [execute, within_eq_error]
      exact ⟨_, router, refused, rfl, rfl⟩
    · have swapped := PairRouter.execute_eq_ok.mpr ⟨pool, filled, found, price, within, moved, rfl⟩
      refine Or.inr ⟨room, ?_⟩
      simp only [execute, within_eq_ok]
      exact ⟨_, _, swapped, rfl⟩
  | split router =>
    obtain ⟨plan, planned, rfl⟩ := SplitRouter.quote_eq_ok.mp priced
    rw [overfull_split planned]
    obtain ⟨ascending, legsPriced⟩ := SplitRouter.quoteSplit_priced planned
    have distinct := ascending.imp Nat.ne_of_lt
    rcases SplitRouter.exchangeLegs_priced distinct legsPriced with ⟨full, stopped⟩ | ⟨rooms, filled, moved⟩
    · have refused : SplitRouter.execute order bound router = .error .overflow router := by
        rw [SplitRouter.execute, get_bind, lift_bind_ok planned, lift_bind_ok checked, lift_bind_error stopped]
      refine Or.inl ⟨full, ?_⟩
      simp only [execute, within_eq_error]
      exact ⟨_, router, refused, rfl, rfl⟩
    · have swapped := SplitRouter.execute_eq_ok.mpr ⟨plan, filled, planned, rfl, within, moved, rfl⟩
      have room : ¬∃ leg ∈ plan.legs, SplitRouter.Overfull order (router.poolsFor order.assetIn order.assetOut) leg := by
        rintro ⟨leg, member, full⟩
        exact rooms leg member full
      refine Or.inr ⟨room, ?_⟩
      simp only [execute, within_eq_ok]
      exact ⟨_, _, swapped, rfl⟩
  | fixedRate mock => exact pooled.elim

theorem quote_of_execute {venue after : Venue} (pooled : venue.Pooled)
    (run : execute order bound venue = .ok quoted after) : Venue.quote order venue = .ok quoted := by
  rcases execute_eq_ok run with ⟨_, _, rfl, rfl, swapped⟩ | ⟨_, _, rfl, rfl, swapped⟩ | ⟨_, _, rfl, rfl, _⟩
  · obtain ⟨pool, _, found, price, _⟩ := PairRouter.execute_eq_ok.mp swapped
    exact Except.bind_eq_ok.mpr ⟨pool, demand_eq_ok.mpr found, price⟩
  · obtain ⟨plan, _, planned, total, _⟩ := SplitRouter.execute_eq_ok.mp swapped
    exact SplitRouter.quote_eq_ok.mpr ⟨plan, planned, total⟩
  · exact pooled.elim

/-- On a venue with pools a swap is filled exactly as it has just been quoted. It goes
through if and only if the quote is within its bound and every pool it uses has room for
its input; without that room it fails with an overflow and nothing else. -/
theorem execute_quoted {venue : Venue} (pooled : venue.Pooled) (order : SwapOrder) (bound : Amount)
    (quoted : Quote) :
    ((∃ after, execute order bound venue = .ok quoted after) ↔
      Venue.quote order venue = .ok quoted ∧ order.kind.Accepts bound quoted ∧ ¬venue.Overfull order) ∧
    (Venue.quote order venue = .ok quoted → order.kind.Accepts bound quoted → venue.Overfull order →
      execute order bound venue = .error .overflow venue) := by
  refine ⟨⟨?_, ?_⟩, ?_⟩
  · rintro ⟨after, run⟩
    have priced := quote_of_execute pooled run
    have within := execute_accepts run
    rcases execute_of_quote pooled priced within with ⟨_, stopped⟩ | ⟨room, _⟩
    · cases stopped.symm.trans run
    · exact ⟨priced, within, room⟩
  · rintro ⟨priced, within, room⟩
    rcases execute_of_quote pooled priced within with ⟨full, _⟩ | ⟨_, filled⟩
    · exact absurd full room
    · exact filled
  · intro priced within full
    rcases execute_of_quote pooled priced within with ⟨_, stopped⟩ | ⟨room, _⟩
    · exact stopped
    · exact absurd full room

/-- A sale that two pools share, and a purchase at a price for which the pool has no
room left. -/
theorem execute_quoted_purchase :
    let dai : Address := ⟨"dai", by decide, by decide⟩
    let weth : Address := ⟨"weth", by decide, by decide⟩
    let sale : SwapOrder := ⟨dai, weth, Amount.ofNat 1000, .exactInput⟩
    let shared := split ⟨(∅ : PairMap (List Pool)).insert (.unordered dai weth)
      [Pool.create dai (Amount.ofNat 9000) weth (Amount.ofNat 9000) 30,
        Pool.create weth (Amount.ofNat 5000) dai (Amount.ofNat 5000) 100]⟩
    let purchase : SwapOrder := ⟨weth, dai, Amount.ofNat 600_000, .exactOutput⟩
    let pool := Pool.create dai (Amount.ofNat 1_000_000) weth (Amount.ofNat (2 ^ 127)) 0
    let filledUp := pair (({} : PairRouter).addPool pool)
    (∃ quoted after, execute sale (Amount.ofNat 900) shared = .ok quoted after ∧
      Venue.quote sale shared = .ok quoted ∧ ¬shared.Overfull sale) ∧
    ∃ quoted, Venue.quote purchase filledUp = .ok quoted ∧ quoted.amountIn = Amount.ofNat (3 * 2 ^ 126 + 1) ∧
      filledUp.Overfull purchase ∧
      execute purchase (Amount.ofNat (2 ^ 128 - 1)) filledUp = .error .overflow filledUp := by
  intro dai weth sale shared purchase pool filledUp
  constructor
  · have swapped : (execute sale (Amount.ofNat 900)).succeeds (fun _ _ => true) shared = true := by decide +kernel
    obtain ⟨quoted, after, run, _⟩ := succeeds_iff.mp swapped
    obtain ⟨priced, _, room⟩ := (execute_quoted (show shared.Pooled from trivial) sale _ quoted).1.mp ⟨after, run⟩
    exact ⟨quoted, after, run, priced, room⟩
  · have priced : Venue.quote purchase filledUp = .ok ⟨Amount.ofNat (3 * 2 ^ 126 + 1), Amount.ofNat 600_000⟩ := by
      decide +kernel
    have price : pool.price purchase = .ok ⟨Amount.ofNat (3 * 2 ^ 126 + 1), Amount.ofNat 600_000⟩ := by decide +kernel
    have full : filledUp.Overfull purchase :=
      (overfull_pair (by decide +kernel) price).mpr ⟨Amount.ofNat (2 ^ 127), by decide +kernel, by decide +kernel⟩
    refine ⟨_, priced, rfl, full, ?_⟩
    exact (execute_quoted (show filledUp.Pooled from trivial) purchase _ _).2 priced (by decide +kernel) full

end Venue

end IndexBasket
