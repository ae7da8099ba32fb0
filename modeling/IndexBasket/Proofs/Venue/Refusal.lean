import IndexBasket.Proofs.Venue.QuotedFill

namespace IndexBasket

open IndexBasket.Action

/-- Why a swap has no price, or a pool does not take it at its price. -/
inductive VenueError.Unpriced : VenueError → Prop
  | unknownPair (assetIn assetOut : Address) : Unpriced (.unknownPair assetIn assetOut)
  | insufficientLiquidity : Unpriced .insufficientLiquidity
  | zeroAmount : Unpriced .zeroAmount
  | overflow : Unpriced .overflow

open VenueError (Unpriced)

namespace Pool

variable (pool : Pool) (assetIn assetOut : Address)

theorem failsWith_reservesFor : FailsWith Unpriced (pool.reservesFor assetIn assetOut) :=
  failsWith_guard (.unknownPair ..) (failsWith_guard .insufficientLiquidity (failsWith_ok _))

theorem failsWith_amountOut (input : Amount) : FailsWith Unpriced (pool.amountOut assetIn assetOut input) := by
  refine failsWith_guard .zeroAmount (failsWith_bind (pool.failsWith_reservesFor _ _) fun _ => ?_)
  refine failsWith_bind (failsWith_demand .overflow _) fun _ => ?_
  refine failsWith_bind (failsWith_demand .overflow _) fun _ => ?_
  exact failsWith_bind (failsWith_demand .overflow _) fun _ => failsWith_demand .overflow _

theorem failsWith_amountIn (output : Amount) : FailsWith Unpriced (pool.amountIn assetIn assetOut output) := by
  refine failsWith_guard .zeroAmount (failsWith_bind (pool.failsWith_reservesFor _ _) fun _ => ?_)
  refine failsWith_guard .insufficientLiquidity (failsWith_bind (failsWith_demand .overflow _) fun _ => ?_)
  refine failsWith_bind (failsWith_demand .overflow _) fun _ => failsWith_guard .insufficientLiquidity ?_
  exact failsWith_bind (failsWith_demand .overflow _) fun _ => failsWith_demand .overflow _

theorem failsWith_price (order : SwapOrder) : FailsWith Unpriced (pool.price order) := by
  unfold price
  cases order.kind with
  | exactInput => exact failsWith_bind (pool.failsWith_amountOut _ _ _) fun _ => failsWith_ok _
  | exactOutput => exact failsWith_bind (pool.failsWith_amountIn _ _ _) fun _ => failsWith_ok _

theorem failsWith_exchange (swap : Quote) : FailsWith Unpriced (pool.exchange assetIn assetOut swap) := by
  refine failsWith_bind (pool.failsWith_reservesFor _ _) fun _ => ?_
  refine failsWith_bind (failsWith_demand .overflow _) fun _ => ?_
  refine failsWith_bind (failsWith_demand .insufficientLiquidity _) fun _ => ?_
  split <;> exact failsWith_ok _

end Pool

theorem PairRouter.failsWith_poolFor (router : PairRouter) (order : SwapOrder) :
    FailsWith Unpriced (router.poolFor order) :=
  failsWith_demand (.unknownPair ..) _

namespace SplitRouter

variable (order : SwapOrder)

theorem failsWith_assign (sizes : List Nat) (pools : List Pool) (shares : List Nat) :
    FailsWith Unpriced (assign order sizes pools shares) := by
  induction sizes generalizing pools shares with
  | nil => exact failsWith_ok _
  | cons size rest ih =>
    refine failsWith_bind (failsWith_demand .insufficientLiquidity _) fun leg => ?_
    refine failsWith_bind (failsWith_demand .insufficientLiquidity _) fun pool => ?_
    exact failsWith_bind (pool.failsWith_exchange _ _ _) fun _ => ih _ _

theorem failsWith_addLeg (split : SplitQuote) (pool : Pool) (index share : Nat) :
    FailsWith Unpriced (addLeg order split pool index share) := by
  unfold addLeg
  split
  · exact failsWith_ok _
  · refine failsWith_bind (pool.failsWith_price _) fun _ => ?_
    refine failsWith_bind (failsWith_demand .overflow _) fun _ => ?_
    exact failsWith_bind (failsWith_demand .overflow _) fun _ => failsWith_ok _

theorem failsWith_quoteSplit (router : SplitRouter) : FailsWith Unpriced (router.quoteSplit order) := by
  refine failsWith_guard .zeroAmount (failsWith_guard (.unknownPair ..) ?_)
  refine failsWith_bind (failsWith_assign order _ _ _) fun _ => failsWith_foldlM (fun split item => ?_) _ _
  exact failsWith_addLeg order split item.1.1 item.2 item.1.2

theorem failsWith_exchangeLegs (legs : List SplitLeg) (pools : List Pool) :
    FailsWith Unpriced (exchangeLegs order legs pools) := by
  refine failsWith_foldlM (fun pools leg => ?_) _ _
  refine failsWith_bind (failsWith_demand (.unknownPair ..) _) fun pool => ?_
  exact failsWith_bind (pool.failsWith_exchange _ _ _) fun _ => failsWith_ok _

end SplitRouter

namespace FixedRateVenue

theorem failsWith_quote (venue : FixedRateVenue) (order : SwapOrder) : FailsWith Unpriced (venue.quote order) := by
  refine failsWith_guard .zeroAmount (failsWith_bind ?_ fun _ => ?_)
  · unfold rate
    split
    · exact failsWith_ok _
    · exact failsWith_demand (.unknownPair ..) _
  · split <;> exact failsWith_bind (failsWith_demand .overflow _) fun _ => failsWith_ok _

theorem failsWith_slip (kind : SwapKind) (bps : UInt32) (quoted : Quote) :
    FailsWith Unpriced (slip kind bps quoted) := by
  unfold slip
  split <;> exact failsWith_bind (failsWith_demand .overflow _) fun _ => failsWith_ok _

end FixedRateVenue

theorem Venue.failsWith_quote (venue : Venue) (order : SwapOrder) : FailsWith Unpriced (Venue.quote order venue) := by
  cases venue with
  | pair router => exact failsWith_bind (router.failsWith_poolFor order) fun pool => pool.failsWith_price order
  | split router => exact failsWith_bind (SplitRouter.failsWith_quoteSplit order router) fun _ => failsWith_ok _
  | fixedRate mock => exact mock.failsWith_quote order

/-- A router refuses what it cannot price, what is beyond the bound at its price, and
what its pools do not take. -/
theorem PairRouter.execute_eq_error {router after : PairRouter} {order : SwapOrder} {bound : Amount}
    {failure : VenueError} (stopped : execute order bound router = .error failure after) :
    Unpriced failure ∨
      ∃ fill, router.quote order = .ok fill ∧ checkBound order.kind fill bound = .error failure := by
  simp only [execute, get_bind, bind_eq_error, lift_eq_error, lift_eq_ok] at stopped
  obtain ⟨unknown, _⟩ | ⟨pool, _, ⟨found, rfl⟩, stopped⟩ := stopped
  · exact Or.inl (router.failsWith_poolFor order unknown)
  obtain ⟨unpriced, _⟩ | ⟨fill, _, ⟨priced, rfl⟩, stopped⟩ := stopped
  · exact Or.inl (pool.failsWith_price order unpriced)
  obtain ⟨beyond, _⟩ | ⟨_, _, _, stopped⟩ := stopped
  · exact Or.inr ⟨fill, Except.bind_eq_ok.mpr ⟨pool, found, priced⟩, beyond⟩
  obtain ⟨untaken, _⟩ | ⟨_, _, _, stored⟩ := stopped
  · exact Or.inl (pool.failsWith_exchange _ _ _ untaken)
  obtain stored | ⟨_, _, _, done⟩ := stored
  · exact absurd stored set_ne_error
  · exact absurd done pure_ne_error

theorem SplitRouter.execute_eq_error {router after : SplitRouter} {order : SwapOrder} {bound : Amount}
    {failure : VenueError} (stopped : execute order bound router = .error failure after) :
    Unpriced failure ∨
      ∃ fill, router.quote order = .ok fill ∧ checkBound order.kind fill bound = .error failure := by
  simp only [execute, get_bind, bind_eq_error, lift_eq_error, lift_eq_ok] at stopped
  obtain ⟨unpriced, _⟩ | ⟨plan, _, ⟨planned, rfl⟩, stopped⟩ := stopped
  · exact Or.inl (failsWith_quoteSplit order router unpriced)
  obtain ⟨beyond, _⟩ | ⟨_, _, _, stopped⟩ := stopped
  · exact Or.inr ⟨plan.quote, quote_eq_ok.mpr ⟨plan, planned, rfl⟩, beyond⟩
  obtain ⟨untaken, _⟩ | ⟨_, _, _, stored⟩ := stopped
  · exact Or.inl (failsWith_exchangeLegs order _ _ untaken)
  obtain stored | ⟨_, _, _, done⟩ := stored
  · exact absurd stored set_ne_error
  · exact absurd done pure_ne_error

theorem FixedRateVenue.execute_eq_error {venue after : FixedRateVenue} {order : SwapOrder} {bound : Amount}
    {failure : VenueError} (stopped : execute order bound venue = .error failure after) :
    Unpriced failure ∨ (∃ reason, failure = .rejected reason) ∨
      ∃ fill, checkBound order.kind fill bound = .error failure := by
  simp only [execute, modify_bind, get_bind] at stopped
  rcases bind_eq_error.mp stopped with unpriced | ⟨quoted, _, priced, stopped⟩
  · exact Or.inl (failsWith_quote _ order (lift_eq_error.mp unpriced).1)
  cases mode : venue.fillMode with
  | quoted =>
    simp only [mode, pure_bind, bind_eq_error, lift_eq_error] at stopped
    obtain ⟨beyond, _⟩ | ⟨_, _, _, done⟩ := stopped
    · exact Or.inr (Or.inr ⟨quoted, beyond⟩)
    · exact absurd done pure_ne_error
  | slipped bps =>
    simp only [mode, bind_eq_error] at stopped
    obtain unpriced | ⟨fill, _, _, beyond | ⟨_, _, _, done⟩⟩ := stopped
    · exact Or.inl (failsWith_slip _ _ _ (lift_eq_error.mp unpriced).1)
    · exact Or.inr (Or.inr ⟨fill, (lift_eq_error.mp beyond).1⟩)
    · exact absurd done pure_ne_error
  | reject =>
    simp only [mode, bind_eq_error, throw_eq_error] at stopped
    obtain ⟨rfl, _⟩ | ⟨_, _, done, _⟩ := stopped
    · exact Or.inr (Or.inl ⟨_, rfl⟩)
    · exact absurd done throw_ne_ok

/-- A refused swap has no price, or the venue refuses every swap, or its fill is
beyond the bound. A venue with pools fills at the price that it quotes. -/
theorem Venue.execute_eq_error {venue after : Venue} {order : SwapOrder} {bound : Amount} {failure : VenueError}
    (stopped : execute order bound venue = .error failure after) :
    Unpriced failure ∨ (∃ reason, failure = .rejected reason) ∨
      ∃ fill, checkBound order.kind fill bound = .error failure ∧
        (venue.Pooled → Venue.quote order venue = .ok fill) := by
  cases venue with
  | pair router =>
    simp only [execute, within_eq_error] at stopped
    obtain ⟨_, _, refused, rfl, _⟩ := stopped
    obtain unpriced | ⟨fill, priced, beyond⟩ := PairRouter.execute_eq_error refused
    · exact Or.inl unpriced
    · exact Or.inr (Or.inr ⟨fill, beyond, fun _ => priced⟩)
  | split router =>
    simp only [execute, within_eq_error] at stopped
    obtain ⟨_, _, refused, rfl, _⟩ := stopped
    obtain unpriced | ⟨fill, priced, beyond⟩ := SplitRouter.execute_eq_error refused
    · exact Or.inl unpriced
    · exact Or.inr (Or.inr ⟨fill, beyond, fun _ => priced⟩)
  | fixedRate mock =>
    simp only [execute, within_eq_error] at stopped
    obtain ⟨_, _, refused, rfl, _⟩ := stopped
    obtain unpriced | rejected | ⟨fill, beyond⟩ := FixedRateVenue.execute_eq_error refused
    · exact Or.inl unpriced
    · exact Or.inr (Or.inl rejected)
    · exact Or.inr (Or.inr ⟨fill, beyond, False.elim⟩)

end IndexBasket
