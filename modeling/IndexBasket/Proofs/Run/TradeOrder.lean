import IndexBasket.Proofs.Engine.WellPosed
import IndexBasket.Proofs.Venue.Price
import IndexBasket.Run.Keeper

namespace IndexBasket

/-- Why there is no price for nothing. -/
inductive VenueError.OfNothing : VenueError → Prop
  | zeroAmount : OfNothing .zeroAmount
  | unknownPair (assetIn assetOut : Address) : OfNothing (.unknownPair assetIn assetOut)

theorem Pool.price_nothing (pool : Pool) {order : SwapOrder} (nothing : order.amount = Amount.zero) :
    pool.price order = .error .zeroAmount := by
  unfold price
  cases order.kind with
  | exactInput =>
    have unpaid : pool.amountOut order.assetIn order.assetOut order.amount = .error .zeroAmount := if_pos nothing
    exact Except.bind_eq_error.mpr (Or.inl unpaid)
  | exactOutput =>
    have uncharged : pool.amountIn order.assetIn order.assetOut order.amount = .error .zeroAmount := if_pos nothing
    exact Except.bind_eq_error.mpr (Or.inl uncharged)

/-- No venue has a price for nothing. A router with one pool for each pair looks for the
pool first, the others for the amount. -/
theorem Venue.quote_nothing (venue : Venue) {order : SwapOrder} (nothing : order.amount = Amount.zero) :
    ∃ failure, VenueError.OfNothing failure ∧ Venue.quote order venue = .error failure := by
  cases venue with
  | pair router =>
    cases found : router.pool? order.assetIn order.assetOut with
    | none =>
      have unknown : router.poolFor order = .error (.unknownPair order.assetIn order.assetOut) :=
        demand_eq_error.mpr ⟨found, rfl⟩
      exact ⟨_, .unknownPair _ _, Except.bind_eq_error.mpr (Or.inl unknown)⟩
    | some pool =>
      have known : router.poolFor order = .ok pool := demand_eq_ok.mpr found
      exact ⟨_, .zeroAmount, Except.bind_eq_error.mpr (Or.inr ⟨pool, known, pool.price_nothing nothing⟩)⟩
  | split router =>
    have unpriced : router.quoteSplit order = .error .zeroAmount := if_pos nothing
    exact ⟨_, .zeroAmount, Except.bind_eq_error.mpr (Or.inl unpriced)⟩
  | fixedRate mock => exact ⟨_, .zeroAmount, if_pos nothing⟩

namespace Engine

open IndexBasket.Action

variable {engine : Engine} {component : Address} {direction : TradeDirection} {quantity : Amount}

theorem swapOrder_amount (engine : Engine) (component : Address) (direction : TradeDirection) (amount : Amount) :
    (engine.swapOrder component direction amount).amount = amount := by
  cases direction with
  | sell => rfl
  | buy => rfl

/-- A trade as it is sized: on the side that the target is on, and of nothing only where
the limit of the component allows nothing. -/
structure Sized (engine : Engine) (component : Address) (direction : TradeDirection) (quantity : Amount) : Prop where
  limited : quantity.toNat ≤ (engine.info component).maxSize.toNat
  positive : 0 < quantity.toNat ↔ 0 < (engine.info component).maxSize.toNat
  side : ∃ target, engine.targetUnit component = .ok target ∧
    (direction = .buy ↔ engine.defaultRealUnit component < target) ∧
    (direction = .sell ↔ target < engine.defaultRealUnit component)

/-- The amount that is off target is tested before it is cut down to the limit, so that
what is left of it is nothing if the limit is. -/
theorem sized_of_tradeSize (size : engine.tradeSize component = .ok (direction, quantity)) :
    engine.Sized component direction quantity := by
  obtain ⟨target, held, delta, _, scaled, _, some, least, sides⟩ := tradeSize_eq_ok.mp size
  have positive : 0 < quantity.toNat ↔ 0 < (engine.info component).maxSize.toNat := by
    rw [least, Amount.toNat_min]
    omega
  refine ⟨tradeSize_le_maxSize size, positive, target, scaled, ?_⟩
  simp only [Fixed.lt_def]
  rcases sides with ⟨rfl, below, _⟩ | ⟨rfl, above, _⟩
  · exact ⟨iff_of_true rfl below, iff_of_false nofun below.asymm⟩
  · exact ⟨iff_of_false nofun above.asymm, iff_of_true rfl above⟩

/-! The components that are off target, in the order in which they are traded. -/

theorem mem_tradable :
    component ∈ engine.tradable direction ↔
      component ∈ engine.rebalanceComponents ∧ (engine.info component).exchange ≠ .unset ∧
        ∃ quantity, engine.tradeSize component = .ok (direction, quantity) := by
  unfold tradable
  rw [List.mem_filter, Bool.and_eq_true, decide_eq_true_iff]
  refine and_congr_right' (and_congr_right' ?_)
  cases engine.tradeSize component with
  | ok order => simp [Prod.ext_iff]
  | error failure => exact iff_of_false nofun (fun ⟨_, stopped⟩ => nomatch stopped)

theorem mem_tradeOrder :
    component ∈ engine.tradeOrder ↔
      component ∈ engine.rebalanceComponents ∧ (engine.info component).exchange ≠ .unset ∧
        ∃ order, engine.tradeSize component = .ok order := by
  unfold tradeOrder
  rw [List.mem_append, mem_tradable, mem_tradable, ← and_or_left, ← and_or_left]
  refine and_congr_right' (and_congr_right' ⟨?_, ?_⟩)
  · rintro (⟨quantity, size⟩ | ⟨quantity, size⟩)
    · exact ⟨_, size⟩
    · exact ⟨_, size⟩
  · rintro ⟨⟨direction, quantity⟩, size⟩
    cases direction with
    | sell => exact Or.inl ⟨quantity, size⟩
    | buy => exact Or.inr ⟨quantity, size⟩

/-- A component has one size, and so one side. -/
theorem WellPosed.nodup_tradeOrder (posed : engine.WellPosed) : engine.tradeOrder.Nodup := by
  refine (posed.distinct.filter _).append (posed.distinct.filter _) fun component sold bought => ?_
  obtain ⟨_, _, _, sale⟩ := mem_tradable.mp sold
  obtain ⟨_, _, _, purchase⟩ := mem_tradable.mp bought
  cases sale.symm.trans purchase

/-- Without a limit that allows anything there is no plan for a component, and it is no
rule of the rebalance that stands against it: the venue has no price. -/
theorem WellPosed.planTrade_nothing (posed : engine.WellPosed) (routed : (engine.info component).exchange ≠ .unset)
    (size : engine.tradeSize component = .ok (direction, Amount.zero)) :
    ∃ failure, VenueError.OfNothing failure ∧ engine.planTrade component = .error (.venue failure) := by
  have registered := (posed.registered component).resolve_left routed
  rw [Venues.contains, Std.ExtTreeMap.contains_eq_isSome_getElem?, Option.isSome_iff_exists] at registered
  obtain ⟨venue, found⟩ := registered
  obtain ⟨failure, nothing, unpriced⟩ := venue.quote_nothing (engine.swapOrder_amount component direction Amount.zero)
  have unquoted : engine.quote (engine.info component).exchange (engine.swapOrder component direction Amount.zero) =
      .error (.venue failure) := by
    have known : engine.venues.find (engine.info component).exchange = .ok venue := demand_eq_ok.mpr found
    exact Except.mapError_eq_error.mpr ⟨failure, Except.bind_eq_error.mpr (Or.inr ⟨venue, known, unpriced⟩), rfl⟩
  refine ⟨failure, nothing, Except.guard_bind_eq_error.mpr (Or.inr ⟨routed, ?_⟩)⟩
  exact Except.bind_eq_error.mpr (Or.inr ⟨_, size, Except.bind_eq_error.mpr (Or.inl unquoted)⟩)

/-- A trade that is sized stays within the limit of its component and goes to the side
that the target is on. It is of something exactly if the limit allows something, and so
is whatever a keeper takes up. A keeper also takes up what is off target and may not
move at all: for that there is no plan, and no trade goes through. -/
theorem Reachable.tradeOrder_sized (reached : engine.Reachable) :
    (∀ {component : Address} {direction : TradeDirection} {quantity : Amount},
      engine.tradeSize component = .ok (direction, quantity) → engine.Sized component direction quantity) ∧
    ∀ component ∈ engine.tradeOrder, ∃ direction quantity,
      engine.tradeSize component = .ok (direction, quantity) ∧ engine.Sized component direction quantity ∧
      ((engine.info component).maxSize = Amount.zero →
        ∃ failure, VenueError.OfNothing failure ∧ engine.planTrade component = .error (.venue failure) ∧
          ∀ context trade after, Engine.trade context component engine ≠ .ok trade after) := by
  refine ⟨sized_of_tradeSize, fun component scheduled => ?_⟩
  obtain ⟨_, routed, ⟨direction, quantity⟩, size⟩ := mem_tradeOrder.mp scheduled
  have sized := sized_of_tradeSize size
  refine ⟨direction, quantity, size, sized, fun none => ?_⟩
  have nothing : quantity = Amount.zero := by
    have limited := sized.limited
    rw [none] at limited
    exact Amount.ext (Nat.le_zero.mp limited)
  rw [nothing] at size
  obtain ⟨failure, ofNothing, unplanned⟩ := reached.wellPosed.planTrade_nothing routed size
  refine ⟨failure, ofNothing, unplanned, fun context trade after run => ?_⟩
  obtain ⟨_, _, plan, _, _, _, planned, _⟩ := trade_iff.mp run
  cases unplanned.symm.trans planned

theorem Reachable.tradeOrder_sized_purchase :
    let engine := Market.engine Fixed.one (Fixed.ofInt 1_500_000_000_000_000_000) (Amount.ofNat 7)
    engine.Reachable ∧ Market.dai ∈ engine.tradeOrder ∧
      engine.tradeSize Market.dai = .ok (.buy, Amount.ofNat 7) ∧
      engine.Sized Market.dai .buy (Amount.ofNat 7) := by
  intro engine
  have reached : engine.Reachable := Market.reachable _ _ _
  have size : engine.tradeSize Market.dai = .ok (.buy, Amount.ofNat 7) := by decide +kernel
  exact ⟨reached, by decide +kernel, size, reached.tradeOrder_sized.1 size⟩

/-- A component whose limit was never set is taken up all the same, with nothing to trade. -/
theorem empty_trade_scheduled :
    let engine := Market.engine Fixed.one (Fixed.ofInt 1_500_000_000_000_000_000) Amount.zero
    engine.Reachable ∧ Market.dai ∈ engine.tradeOrder ∧
      ¬∀ {component : Address} {direction : TradeDirection} {quantity : Amount},
        engine.tradeSize component = .ok (direction, quantity) → 0 < quantity.toNat := by
  intro engine
  refine ⟨Market.reachable _ _ _, by decide +kernel, fun never => ?_⟩
  have size : engine.tradeSize Market.dai = .ok (.buy, Amount.zero) := by decide +kernel
  exact absurd (never size) (by decide)

end Engine

end IndexBasket
