import IndexBasket.Proofs.Engine.Management

namespace IndexBasket

namespace Engine

open IndexBasket.Action

/-- What a trade asks of its caller, its basket and its component before it looks
at any amount. -/
structure Permits (engine : Engine) (context : CallContext) (component : Address) : Prop where
  trader : (engine.anyoneTrade || engine.isTrader context.caller) = true
  externallyOwned : context.kind = .externallyOwned
  registered : engine.registry.isValidBasket engine.basket.address = true
  initialized : engine.basket.isInitializedModule engine.settings.module = true
  listed : component ∈ engine.rebalanceComponents

/-- A component with a route whose cool-off is over. -/
structure Tradable (engine : Engine) (component : Address) (now : Timestamp) : Prop where
  routed : (engine.info component).exchange ≠ .unset
  cooled : (engine.info component).coolOffElapsed now = true

variable {engine after : Engine} {context : CallContext} {component : Address} {now : Timestamp} {done : Unit}

theorem requireAllowedTrader_eq_ok :
    requireAllowedTrader context engine = .ok done after ↔
      (engine.anyoneTrade || engine.isTrader context.caller) = true ∧ engine = after := by
  simp only [requireAllowedTrader, bind_eq_ok, get_eq_ok, guard_eq_ok, pure_eq_ok, true_and, Bool.not_eq_true',
    Bool.not_eq_false]
  constructor
  · rintro ⟨_, _, ⟨rfl, rfl⟩, allowed⟩
    exact allowed
  · intro allowed
    exact ⟨_, _, ⟨rfl, rfl⟩, allowed⟩

theorem requireExternallyOwned_eq_ok :
    requireExternallyOwned context engine = .ok done after ↔
      context.kind = .externallyOwned ∧ engine = after := by
  simp only [requireExternallyOwned, guard_eq_ok, pure_eq_ok, true_and, ne_eq, Decidable.not_not]

theorem requireValidBasket_eq_ok :
    requireValidBasket engine = .ok done after ↔
      (engine.registry.isValidBasket engine.basket.address = true ∧
        engine.basket.isInitializedModule engine.settings.module = true) ∧ engine = after := by
  simp only [requireValidBasket, bind_eq_ok, get_eq_ok, guard_eq_ok, pure_eq_ok, true_and, Bool.not_eq_true',
    Bool.or_eq_true, not_or, Bool.not_eq_false]
  constructor
  · rintro ⟨_, _, ⟨rfl, rfl⟩, valid⟩
    exact valid
  · intro valid
    exact ⟨_, _, ⟨rfl, rfl⟩, valid⟩

theorem requireInRebalance_eq_ok :
    requireInRebalance component engine = .ok done after ↔
      component ∈ engine.rebalanceComponents ∧ engine = after := by
  simp only [requireInRebalance, bind_eq_ok, get_eq_ok, guard_eq_ok, pure_eq_ok, true_and, Bool.not_eq_true',
    Bool.not_eq_false, List.contains_iff_mem]
  constructor
  · rintro ⟨_, _, ⟨rfl, rfl⟩, listed⟩
    exact listed
  · intro listed
    exact ⟨_, _, ⟨rfl, rfl⟩, listed⟩

theorem requireTradable_eq_ok :
    requireTradable component now engine = .ok done after ↔ engine.Tradable component now ∧ engine = after := by
  simp only [requireTradable, bind_eq_ok, get_eq_ok, guard_eq_ok, guard_bind_eq_ok, pure_eq_ok, true_and,
    Bool.not_eq_true', Bool.not_eq_false]
  constructor
  · rintro ⟨_, _, ⟨rfl, rfl⟩, routed, cooled, same⟩
    exact ⟨⟨routed, cooled⟩, same⟩
  · rintro ⟨tradable, same⟩
    exact ⟨_, _, ⟨rfl, rfl⟩, tradable.routed, tradable.cooled, same⟩

/-- The guards at the start of every trade, which pass the engine on as it is. -/
theorem guarded_eq_ok {α : Type} {rest : Call α} {value : α} :
    (do
      requireAllowedTrader context
      requireExternallyOwned context
      requireValidBasket
      requireInRebalance component
      rest : Call α) engine = .ok value after ↔
      engine.Permits context component ∧ rest engine = .ok value after := by
  simp only [bind_eq_ok, requireAllowedTrader_eq_ok, requireExternallyOwned_eq_ok, requireValidBasket_eq_ok,
    requireInRebalance_eq_ok]
  constructor
  · rintro ⟨_, _, ⟨trader, rfl⟩, _, _, ⟨owned, rfl⟩, _, _, ⟨⟨registered, initialized⟩, rfl⟩, _, _,
      ⟨listed, rfl⟩, run⟩
    exact ⟨⟨trader, owned, registered, initialized, listed⟩, run⟩
  · rintro ⟨permits, run⟩
    exact ⟨⟨⟩, _, ⟨permits.trader, rfl⟩, ⟨⟩, _, ⟨permits.externallyOwned, rfl⟩, ⟨⟩, _,
      ⟨⟨permits.registered, permits.initialized⟩, rfl⟩, ⟨⟩, _, ⟨permits.listed, rfl⟩, run⟩

end Engine

end IndexBasket
