import IndexBasket.Proofs.Engine.WithinRounding
import IndexBasket.Proofs.Venue.Refusal

namespace IndexBasket

open VenueError (Unpriced)

open IndexBasket.Action

namespace Engine

/-- What the guards of a trade refuse it with. -/
inductive Refusal (component : Address) : EngineError → Prop
  | notPermittedTrader : Refusal component .notPermittedTrader
  | notExternallyOwned : Refusal component .notExternallyOwned
  | invalidBasket : Refusal component .invalidBasket
  | notInRebalance : Refusal component (.notInRebalance component)
  | exchangeNotSet : Refusal component .exchangeNotSet
  | coolOffNotElapsed : Refusal component .coolOffNotElapsed

/-- Why a component has no trade. -/
inductive Unsized : EngineError → Prop
  | zeroSupply : Unsized .zeroSupply
  | targetAlreadyMet : Unsized .targetAlreadyMet
  | overflow : Unsized (.ledger .overflow)

/-- Why a venue gives no quote for an exchange. -/
inductive Unquoted (engine : Engine) (exchange : Exchange) : EngineError → Prop
  | unpriced {cause : VenueError} (unpriced : Unpriced cause) : Unquoted engine exchange (.venue cause)
  | notRegistered (absent : engine.venues.contains exchange = false) :
      Unquoted engine exchange (.venue (.notRegistered exchange))

/-- Why a fill cannot be booked. -/
inductive Unbooked : EngineError → Prop
  | ledger (cause : LedgerError) : Unbooked (.ledger cause)
  | untrackedShortfall (asset : Address) : Unbooked (.untrackedShortfall asset)

variable {engine after : Engine} {context : CallContext} {component : Address} {exchange : Exchange}
  {order : SwapOrder} {bound : Amount} {failure : EngineError} {now : Timestamp}

theorem stopsWith_requireAllowedTrader : StopsWith (Refusal component) (requireAllowedTrader context) :=
  stopsWith_bind stopsWith_get fun _ => stopsWith_ite (stopsWith_throw .notPermittedTrader) (stopsWith_pure _)

theorem stopsWith_requireExternallyOwned : StopsWith (Refusal component) (requireExternallyOwned context) :=
  stopsWith_ite (stopsWith_throw .notExternallyOwned) (stopsWith_pure _)

theorem stopsWith_requireValidBasket : StopsWith (Refusal component) requireValidBasket :=
  stopsWith_bind stopsWith_get fun _ => stopsWith_ite (stopsWith_throw .invalidBasket) (stopsWith_pure _)

theorem stopsWith_requireInRebalance : StopsWith (Refusal component) (requireInRebalance component) :=
  stopsWith_bind stopsWith_get fun _ => stopsWith_ite (stopsWith_throw .notInRebalance) (stopsWith_pure _)

theorem stopsWith_requireTradable : StopsWith (Refusal component) (requireTradable component now) := by
  refine stopsWith_bind stopsWith_get fun _ => stopsWith_ite ?_ ?_
  · exact stopsWith_bind (stopsWith_throw .exchangeNotSet) fun _ =>
      stopsWith_ite (stopsWith_throw .coolOffNotElapsed) (stopsWith_pure _)
  · exact stopsWith_ite (stopsWith_throw .coolOffNotElapsed) (stopsWith_pure _)

/-- What stops at the guards of a trade is one of their refusals, and what stops later
does so in the state in which they were passed. -/
theorem guarded_eq_error {α : Type} {rest : Call α}
    (stopped : (do
      requireAllowedTrader context
      requireExternallyOwned context
      requireValidBasket
      requireInRebalance component
      rest : Call α) engine = .error failure after) :
    Refusal component failure ∨ engine.Permits context component ∧ rest engine = .error failure after := by
  obtain refused | ⟨_, _, passed, stopped⟩ := bind_eq_error.mp stopped
  · exact Or.inl (stopsWith_requireAllowedTrader refused)
  obtain ⟨trader, rfl⟩ := requireAllowedTrader_eq_ok.mp passed
  obtain refused | ⟨_, _, passed, stopped⟩ := bind_eq_error.mp stopped
  · exact Or.inl (stopsWith_requireExternallyOwned refused)
  obtain ⟨owned, rfl⟩ := requireExternallyOwned_eq_ok.mp passed
  obtain refused | ⟨_, _, passed, stopped⟩ := bind_eq_error.mp stopped
  · exact Or.inl (stopsWith_requireValidBasket refused)
  obtain ⟨⟨registered, initialized⟩, rfl⟩ := requireValidBasket_eq_ok.mp passed
  obtain refused | ⟨_, _, passed, stopped⟩ := bind_eq_error.mp stopped
  · exact Or.inl (stopsWith_requireInRebalance refused)
  obtain ⟨listed, rfl⟩ := requireInRebalance_eq_ok.mp passed
  exact Or.inr ⟨⟨trader, owned, registered, initialized, listed⟩, stopped⟩

theorem failsWith_targetUnit (engine : Engine) (component : Address) :
    FailsWith Unsized (engine.targetUnit component) :=
  failsWith_demand .overflow _

theorem failsWith_tradeSize (engine : Engine) (component : Address) :
    FailsWith Unsized (engine.tradeSize component) := by
  refine failsWith_guard .zeroSupply (failsWith_bind (engine.failsWith_targetUnit component) fun target => ?_)
  refine failsWith_guard .targetAlreadyMet (failsWith_bind (failsWith_demand .overflow _) fun held => ?_)
  split
  · refine failsWith_bind (fun failure stopped => ?_) fun _ => failsWith_guard .targetAlreadyMet (failsWith_ok _)
    rw [buyQuantity_eq_error stopped]
    exact .overflow
  · refine failsWith_bind (fun failure stopped => ?_) fun _ => failsWith_guard .targetAlreadyMet (failsWith_ok _)
    rw [sellQuantity_eq_error stopped]
    exact .overflow

theorem failsWith_nothingToSell (engine : Engine) (components : List Address) :
    FailsWith Unsized (engine.nothingToSell components) := by
  induction components with
  | nil => exact failsWith_ok _
  | cons component rest ih =>
    unfold nothingToSell
    split
    · exact ih
    · refine failsWith_bind (engine.failsWith_targetUnit component) fun target => ?_
      split
      · exact failsWith_ok _
      · exact ih

theorem contains_eq_false_iff {venues : Venues} :
    venues.contains exchange = false ↔ venues.byExchange[exchange]? = none := by
  rw [Venues.contains, Std.ExtTreeMap.contains_eq_isSome_getElem?, Option.isSome_eq_false_iff,
    Option.isNone_iff_eq_none]

theorem quote_eq_ok {quoted : Quote} :
    engine.quote exchange order = .ok quoted ↔
      ∃ venue, engine.venues.byExchange[exchange]? = some venue ∧ Venue.quote order venue = .ok quoted := by
  unfold quote Venues.find
  rw [Except.mapError_eq_ok]
  exact Except.bind_eq_ok.trans (exists_congr fun venue => and_congr_left' demand_eq_ok)

theorem failsWith_quote (engine : Engine) (exchange : Exchange) (order : SwapOrder) :
    FailsWith (Unquoted engine exchange) (engine.quote exchange order) := by
  intro failure stopped
  unfold quote Venues.find at stopped
  obtain ⟨cause, refused, rfl⟩ := Except.mapError_eq_error.mp stopped
  obtain unknown | ⟨venue, _, unpriced⟩ := Except.bind_eq_error.mp refused
  · obtain ⟨absent, rfl⟩ := demand_eq_error.mp unknown
    exact .notRegistered (contains_eq_false_iff.mpr absent)
  · exact .unpriced (venue.failsWith_quote order unpriced)

/-- Why there is no plan for a component. -/
theorem planTrade_eq_error (stopped : engine.planTrade component = .error failure) :
    failure = .exchangeNotSet ∨ Unsized failure ∨
      (engine.info component).exchange ≠ .unset ∧ Unquoted engine (engine.info component).exchange failure := by
  simp only [planTrade, Except.guard_bind_eq_error, Except.bind_eq_error] at stopped
  obtain ⟨_, rfl⟩ | ⟨routed, unsized | ⟨_, _, unquoted | ⟨_, _, done⟩⟩⟩ := stopped
  · exact Or.inl rfl
  · exact Or.inr (Or.inl (engine.failsWith_tradeSize component unsized))
  · exact Or.inr (Or.inr ⟨routed, engine.failsWith_quote _ _ unquoted⟩)
  · cases done

theorem failsWith_slippageBound (engine : Engine) (kind : SwapKind) (quoted : Quote) (available : Amount) :
    FailsWith Unsized (engine.slippageBound kind quoted available) :=
  failsWith_demand .overflow _

/-- What a swap is refused with is what the venue of its exchange refuses it with, if
there is one. -/
theorem swap_eq_error (stopped : swap exchange order bound engine = .error failure after) :
    (failure = .venue (.notRegistered exchange) ∧ engine.venues.contains exchange = false) ∨
      ∃ cause venue left, failure = .venue cause ∧ engine.venues.byExchange[exchange]? = some venue ∧
        Venue.execute order bound venue = .error cause left := by
  simp only [swap, within_eq_error, Venues.execute, Venues.find, get_bind, bind_eq_error, lift_eq_error, lift_eq_ok,
    IndexBasket.demand_eq_error, IndexBasket.demand_eq_ok] at stopped
  obtain ⟨cause, _, ⟨⟨absent, rfl⟩, _⟩ | ⟨venue, _, ⟨found, rfl⟩, _, left, refused, rfl, _⟩, rfl, _⟩ := stopped
  · exact Or.inl ⟨rfl, contains_eq_false_iff.mpr absent⟩
  · exact Or.inr ⟨_, venue, left, rfl, found, refused⟩

theorem failsWith_unitAfter (engine : Engine) (asset : Address) (before : Amount) :
    FailsWith Unbooked (engine.unitAfter asset before) := by
  refine failsWith_bind (failsWith_demand (.ledger _) _) fun tracked => ?_
  refine failsWith_bind (failsWith_demand (.untrackedShortfall _) _) fun excess => ?_
  dsimp only
  split
  · exact failsWith_ok _
  · refine failsWith_bind (failsWith_demand (.untrackedShortfall _) _) fun _ => ?_
    exact failsWith_demand (.ledger _) _

theorem stopsWith_updatePosition (asset : Address) (before : Amount) :
    StopsWith Unbooked (updatePosition asset before) := by
  refine stopsWith_bind stopsWith_get fun engine => ?_
  refine stopsWith_bind (stopsWith_lift (engine.failsWith_unitAfter asset before)) fun _ => ?_
  exact stopsWith_bind (stopsWith_within .ledger) fun _ => stopsWith_pure _

theorem stopsWith_settle (context : CallContext) (component : Address) (direction : TradeDirection)
    (exchange : Exchange) (fill : Fill) (before : PreTrade) :
    StopsWith Unbooked (settle context component direction exchange fill before) := by
  have booked : ∀ update, StopsWith Unbooked (onBalances update) := fun update => stopsWith_within .ledger
  refine stopsWith_bind stopsWith_get fun engine => stopsWith_bind (booked _) fun _ => ?_
  refine stopsWith_bind (booked _) fun _ => stopsWith_bind (stopsWith_lift fun failure stopped => ?_) fun fee => ?_
  · obtain ⟨cause, _, rfl⟩ := Except.mapError_eq_error.mp stopped
    exact .ledger cause
  · have stored : StopsWith Unbooked (do
        let newComponentUnit ← updatePosition component before.component
        let newReserveUnit ← updatePosition engine.reserve before.reserve
        modify (·.updateInfo component ({ · with lastTradeTimestamp := context.timestamp }))
        let trade : Trade :=
          { component, counterAsset := engine.reserve, direction, exchange, amountSold := fill.amountIn
            amountBought := fill.amountOut.monus fee, protocolFee := fee, newComponentUnit, newReserveUnit
            timestamp := context.timestamp }
        modify (·.record (.tradeExecuted trade))
        return trade : Call Trade) := by
      refine stopsWith_bind (stopsWith_updatePosition _ _) fun _ => ?_
      refine stopsWith_bind (stopsWith_updatePosition _ _) fun _ => ?_
      exact stopsWith_bind (stopsWith_modify _) fun _ => stopsWith_bind (stopsWith_modify _) fun _ => stopsWith_pure _
    exact stopsWith_ite (stopsWith_bind (booked _) fun _ => stored) stored

/-- Why a trade stops: at its guards, without a plan, without a bound for its quote, at
the venue, or when its fill is booked. -/
theorem trade_eq_error (stopped : Engine.trade context component engine = .error failure after) :
    Refusal component failure ∨ engine.planTrade component = .error failure ∨
      engine.Permits context component ∧ ∃ plan, engine.planTrade component = .ok plan ∧
        let order := engine.swapOrder component plan.direction plan.quantity
        (engine.slippageBound order.kind plan.quote (engine.custody engine.reserve) = .error failure ∨
          ∃ bound, engine.slippageBound order.kind plan.quote (engine.custody engine.reserve) = .ok bound ∧
            ((∃ left, swap plan.exchange order bound engine = .error failure left) ∨
              ∃ fill venues left, Venues.execute plan.exchange order bound engine.venues = .ok fill venues ∧
                settle context component plan.direction plan.exchange fill (engine.preTrade component)
                  { engine with venues } = .error failure left)) := by
  unfold Engine.trade at stopped
  obtain ⟨⟨_, stopped⟩, _⟩ := atomically_eq_error.mp stopped
  obtain refused | ⟨permits, stopped⟩ := guarded_eq_error stopped
  · exact Or.inl refused
  obtain refused | ⟨_, _, passed, stopped⟩ := bind_eq_error.mp stopped
  · exact Or.inl (stopsWith_requireTradable refused)
  obtain ⟨_, rfl⟩ := requireTradable_eq_ok.mp passed
  refine Or.inr ?_
  simp only [get_bind, bind_eq_error, lift_eq_error, lift_eq_ok] at stopped
  obtain ⟨unplanned, _⟩ | ⟨plan, _, ⟨planned, rfl⟩, stopped⟩ := stopped
  · exact Or.inl unplanned
  refine Or.inr ⟨permits, plan, planned, ?_⟩
  obtain ⟨unbounded, _⟩ | ⟨bound, _, ⟨bounded, rfl⟩, stopped⟩ := stopped
  · exact Or.inl unbounded
  refine Or.inr ⟨bound, bounded, ?_⟩
  obtain refused | ⟨fill, _, swapped, unbooked⟩ := stopped
  · exact Or.inl ⟨_, refused⟩
  · obtain ⟨venues, filled, rfl⟩ := within_eq_ok.mp swapped
    exact Or.inr ⟨fill, venues, _, filled, unbooked⟩

/-- Why a trade of the remaining reserve stops. It names a component as the reserve only
where that is what it is asked to buy. -/
theorem tradeRemainingReserve_eq_error
    (stopped : Engine.tradeRemainingReserve context component engine = .error failure after) :
    Refusal component failure ∨ engine.noTokensToSell = .error failure ∨
      failure = .mustSellAllSellableTokensFirst ∨
      failure = .reserveAsComponent ∧ engine.Permits context component ∧ component = engine.reserve ∨
      engine.Permits context component ∧ engine.Tradable component context.timestamp ∧
      let exchange := (engine.info component).exchange
      let order : SwapOrder := ⟨engine.reserve, component, engine.custody engine.reserve, .exactInput⟩
      (failure = .noReserveRemaining ∨ failure = .tradeSizeExceedsLimit ∨
        engine.quote exchange order = .error failure ∨
        ∃ quoted, engine.quote exchange order = .ok quoted ∧
          (engine.slippageBound .exactInput quoted (engine.custody engine.reserve) = .error failure ∨
            ∃ bound, engine.slippageBound .exactInput quoted (engine.custody engine.reserve) = .ok bound ∧
              ((∃ left, swap exchange order bound engine = .error failure left) ∨
                ∃ fill venues left, Venues.execute exchange order bound engine.venues = .ok fill venues ∧
                  settle context component .buy exchange fill (engine.preTrade component) { engine with venues } =
                    .error failure left))) := by
  unfold Engine.tradeRemainingReserve at stopped
  obtain ⟨⟨_, stopped⟩, _⟩ := atomically_eq_error.mp stopped
  obtain refused | ⟨permits, stopped⟩ := guarded_eq_error stopped
  · exact Or.inl refused
  simp only [get_bind] at stopped
  obtain unsure | ⟨_, _, answered, stopped⟩ := bind_eq_error.mp stopped
  · exact Or.inr (Or.inl (lift_eq_error.mp unsure).1)
  obtain ⟨_, rfl⟩ := lift_eq_ok.mp answered
  obtain ⟨_, rfl, _⟩ | ⟨_, stopped⟩ := guard_bind_eq_error.mp stopped
  · exact Or.inr (Or.inr (Or.inl rfl))
  obtain ⟨same, rfl, _⟩ | ⟨_, stopped⟩ := guard_bind_eq_error.mp stopped
  · exact Or.inr (Or.inr (Or.inr (Or.inl ⟨rfl, permits, same⟩)))
  obtain refused | ⟨_, _, passed, stopped⟩ := bind_eq_error.mp stopped
  · exact Or.inl (stopsWith_requireTradable refused)
  obtain ⟨tradable, rfl⟩ := requireTradable_eq_ok.mp passed
  refine Or.inr (Or.inr (Or.inr (Or.inr ⟨permits, tradable, ?_⟩)))
  obtain ⟨_, rfl, _⟩ | ⟨_, stopped⟩ := guard_bind_eq_error.mp stopped
  · exact Or.inl rfl
  simp only [bind_eq_error, guard_bind_eq_error, lift_eq_error, lift_eq_ok] at stopped
  obtain ⟨unquoted, _⟩ | ⟨quoted, _, ⟨priced, rfl⟩, stopped⟩ := stopped
  · exact Or.inr (Or.inr (Or.inl unquoted))
  obtain ⟨_, rfl, _⟩ | ⟨_, stopped⟩ := stopped
  · exact Or.inr (Or.inl rfl)
  obtain ⟨unbounded, _⟩ | ⟨bound, _, ⟨bounded, rfl⟩, stopped⟩ := stopped
  · exact Or.inr (Or.inr (Or.inr ⟨quoted, priced, Or.inl unbounded⟩))
  obtain refused | ⟨fill, _, swapped, ⟨_, rfl, _⟩ | ⟨_, unbooked⟩⟩ := stopped
  · exact Or.inr (Or.inr (Or.inr ⟨quoted, priced, Or.inr ⟨bound, bounded, Or.inl ⟨_, refused⟩⟩⟩))
  · exact Or.inr (Or.inl rfl)
  · obtain ⟨venues, filled, rfl⟩ := within_eq_ok.mp swapped
    exact Or.inr (Or.inr (Or.inr ⟨quoted, priced, Or.inr ⟨bound, bounded, Or.inr ⟨fill, venues, _, filled, unbooked⟩⟩⟩))

end Engine

end IndexBasket
