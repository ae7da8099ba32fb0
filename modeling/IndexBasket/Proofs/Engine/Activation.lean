import IndexBasket.Proofs.Engine.Access
import IndexBasket.Proofs.Engine.Rescaling
import IndexBasket.Proofs.Ledger.Positions

namespace IndexBasket

namespace Engine

open IndexBasket.Action

/-- The manager puts the engine to work on a registered basket on which its module waits. -/
structure Awaits (engine : Engine) (context : CallContext) : Prop where
  manager : context.caller = engine.basket.manager
  registered : engine.registry.isValidBasket engine.basket.address = true
  pending : engine.basket.isPendingModule engine.settings.module = true

variable {engine after : Engine} {context : CallContext} {positions : List Position}

theorem requireManagerCaller_passes (manager : context.caller = engine.basket.manager) :
    requireManagerCaller context engine = .ok () engine := by
  rw [requireManagerCaller, get_bind, if_neg (not_not_intro manager)]
  rfl

/-- Positions of the basket itself are adopted one after another. The first one of a module
ends it. -/
theorem adoptPositions_own (own : ∀ position ∈ positions, position.state ≠ .external) (engine : Engine) :
    ∃ infos, adoptPositions positions engine = .ok () { engine with infos } := by
  induction positions generalizing engine with
  | nil => exact ⟨engine.infos, rfl⟩
  | cons position rest ih =>
    obtain ⟨first, later⟩ := List.forall_mem_cons.mp own
    obtain ⟨infos, run⟩ := ih later (engine.updateInfo position.component fun info =>
      { info with targetUnit := position.unit, lastTradeTimestamp := 0 })
    refine ⟨infos, ?_⟩
    rw [adoptPositions, if_neg first]
    exact run

theorem adoptPositions_attributed (attributed : ∃ position ∈ positions, position.state = .external)
    (engine : Engine) : ∃ left, adoptPositions positions engine = .error .externalPositionsNotAllowed left := by
  induction positions generalizing engine with
  | nil =>
    obtain ⟨_, member, _⟩ := attributed
    cases member
  | cons position rest ih =>
    by_cases external : position.state = .external
    · exact ⟨engine, by rw [adoptPositions, if_pos external]; rfl⟩
    · have later : ∃ position ∈ rest, position.state = .external := by
        obtain ⟨other, member, foreign⟩ := attributed
        obtain rfl | member := List.mem_cons.mp member
        · exact absurd foreign external
        · exact ⟨other, member, foreign⟩
      obtain ⟨left, stopped⟩ := ih later (engine.updateInfo position.component fun info =>
        { info with targetUnit := position.unit, lastTradeTimestamp := 0 })
      refine ⟨left, ?_⟩
      rw [adoptPositions, if_neg external]
      exact stopped

/-! What comes of an attempt to put the engine to work. -/

theorem activate_of_stranger (stranger : context.caller ≠ engine.basket.manager) :
    activate context engine = .error .onlyManager engine :=
  atomically_eq_error.mpr ⟨⟨engine, bind_of_error (requireManagerCaller_refuses stranger) _⟩, rfl⟩

/-- What the guard after the manager's looks for. -/
theorem unready_iff :
    (!engine.registry.isValidBasket engine.basket.address || !engine.basket.isPendingModule engine.settings.module) =
        true ↔
      ¬(engine.registry.isValidBasket engine.basket.address = true ∧
        engine.basket.isPendingModule engine.settings.module = true) := by
  rw [Bool.or_eq_true, Bool.not_eq_true', Bool.not_eq_true', not_and_or, Bool.not_eq_true, Bool.not_eq_true]

theorem activate_of_unready (manager : context.caller = engine.basket.manager)
    (unready : ¬(engine.registry.isValidBasket engine.basket.address = true ∧
      engine.basket.isPendingModule engine.settings.module = true)) :
    activate context engine = .error .notPending engine := by
  refine atomically_eq_error.mpr ⟨⟨engine, ?_⟩, rfl⟩
  rw [bind_of_ok (requireManagerCaller_passes manager), get_bind, if_pos (unready_iff.mpr unready)]
  rfl

theorem Awaits.activate_attributed (awaits : engine.Awaits context)
    (attributed : ∃ position ∈ engine.basket.ledger.positions, position.state = .external) :
    activate context engine = .error .externalPositionsNotAllowed engine := by
  obtain ⟨left, stopped⟩ := adoptPositions_attributed attributed engine
  refine atomically_eq_error.mpr ⟨⟨left, ?_⟩, rfl⟩
  rw [bind_of_ok (requireManagerCaller_passes awaits.manager), get_bind,
    if_neg fun unready => unready_iff.mp unready ⟨awaits.registered, awaits.pending⟩]
  exact bind_of_error stopped _

theorem Awaits.activate_own (awaits : engine.Awaits context)
    (own : ∀ position ∈ engine.basket.ledger.positions, position.state ≠ .external) :
    ∃ after, activate context engine = .ok () after := by
  obtain ⟨infos, adopted⟩ := adoptPositions_own own engine
  let modules := engine.basket.modules.insert engine.settings.module .initialized
  let after : Engine := { engine with infos, basket := { engine.basket with modules } }
  have initialized : onBasket (Basket.initializeModule engine.settings.module) { engine with infos } =
      .ok () after := by
    refine within_eq_ok.mpr ⟨{ engine.basket with modules }, ?_, rfl⟩
    rw [Basket.initializeModule, get_bind, if_neg (by rw [awaits.pending]; decide)]
    rfl
  refine ⟨after, atomically_eq_ok.mpr ?_⟩
  rw [bind_of_ok (requireManagerCaller_passes awaits.manager), get_bind,
    if_neg fun unready => unready_iff.mp unready ⟨awaits.registered, awaits.pending⟩]
  exact (bind_of_ok adopted _).trans initialized

/-- What is neither accepted nor refused for the positions of modules is refused before
they are looked at. -/
theorem awaits_of_activate (looked : (∃ after, activate context engine = .ok () after) ∨
    ∃ after, activate context engine = .error .externalPositionsNotAllowed after) : engine.Awaits context := by
  have unlike : ∀ {failure : EngineError}, activate context engine = .error failure engine →
      failure = .externalPositionsNotAllowed := by
    intro failure refused
    rcases looked with ⟨after, run⟩ | ⟨after, stopped⟩
    · exact nomatch run.symm.trans refused
    · cases stopped.symm.trans refused
      rfl
  have manager : context.caller = engine.basket.manager := by
    by_contra stranger
    exact nomatch unlike (activate_of_stranger stranger)
  have ready : engine.registry.isValidBasket engine.basket.address = true ∧
      engine.basket.isPendingModule engine.settings.module = true := by
    by_contra unready
    exact nomatch unlike (activate_of_unready manager unready)
  exact ⟨manager, ready.1, ready.2⟩

theorem activate_accepts_iff :
    (∃ after, activate context engine = .ok () after) ↔ engine.Awaits context ∧
      ∀ position ∈ engine.basket.ledger.positions, position.state ≠ .external := by
  constructor
  · rintro ⟨after, run⟩
    have awaits : engine.Awaits context := awaits_of_activate (Or.inl ⟨after, run⟩)
    refine ⟨awaits, fun position member external => ?_⟩
    exact nomatch run.symm.trans (awaits.activate_attributed ⟨position, member, external⟩)
  · rintro ⟨awaits, own⟩
    exact awaits.activate_own own

theorem activate_refuses_iff :
    (∃ after, activate context engine = .error .externalPositionsNotAllowed after) ↔ engine.Awaits context ∧
      ∃ position ∈ engine.basket.ledger.positions, position.state = .external := by
  constructor
  · rintro ⟨left, stopped⟩
    have awaits : engine.Awaits context := awaits_of_activate (Or.inr ⟨left, stopped⟩)
    refine ⟨awaits, ?_⟩
    by_contra own
    obtain ⟨after, run⟩ := awaits.activate_own fun position member external => own ⟨position, member, external⟩
    exact nomatch run.symm.trans stopped
  · rintro ⟨awaits, attributed⟩
    exact ⟨engine, awaits.activate_attributed attributed⟩

/-- The engine is put to work exactly where it is awaited and no module has a position in a
listed component, and it is refused for the positions of modules exactly where one has. That
is all that is looked at: an attributed component that is not listed passes. Where positions
have only been set as a whole there is none, and every asset is free of attributions once
the engine works. -/
theorem activate_vets_listed (built : engine.basket.Built) :
    ((∃ after, activate context engine = .ok () after) ↔ engine.Awaits context ∧
      ∀ component ∈ engine.basket.ledger.components,
        engine.basket.ledger.hasExternalPosition component = false) ∧
    ((∃ after, activate context engine = .error .externalPositionsNotAllowed after) ↔ engine.Awaits context ∧
      ∃ component ∈ engine.basket.ledger.components,
        engine.basket.ledger.hasExternalPosition component = true) ∧
    (∀ after, activate context engine = .ok () after → after.basket.ledger = engine.basket.ledger ∧
      (engine.basket.ledger.Positioned → ∀ asset, after.basket.ledger.hasExternalPosition asset = false)) := by
  have consistent := built.ledgerBuilt.consistent
  have vetted := consistent.external_mem_positions
  have free : (∀ position ∈ engine.basket.ledger.positions, position.state ≠ .external) ↔
      ∀ component ∈ engine.basket.ledger.components,
        engine.basket.ledger.hasExternalPosition component = false := by
    simpa only [not_exists, not_and, Bool.not_eq_true] using not_congr vetted
  refine ⟨activate_accepts_iff.trans (and_congr_right' free),
    activate_refuses_iff.trans (and_congr_right' vetted), fun after run => ?_⟩
  have ledger := ((moves_activate context).of_ok run).ledger
  refine ⟨ledger, fun positioned asset => ?_⟩
  rw [ledger, ← Bool.not_eq_true]
  intro attributed
  have listed : asset ∈ engine.basket.ledger.components :=
    (positioned.tracking.listed_iff asset).mpr (Or.inr (consistent.hasExternalPosition_iff.mp attributed))
  have own := free.mp (activate_accepts_iff.mp ⟨after, run⟩).2 asset listed
  rw [own] at attributed
  cases attributed

/-- The market with an engine that waits, after one of an asset has been lent. -/
def Market.lent (asset lender : Address) : Engine :=
  Engine.create Market.registry Market.settings
    (((Basket.Edit.addModule Market.manager Market.rebalancer).apply Market.registry).final
      (((Basket.Edit.ledger (.externalUnit asset lender Fixed.one)).apply Market.registry).final
        (((Basket.Edit.ledger (.addAttribution asset lender)).apply Market.registry).final Market.basket)))
    Market.balances Market.venues

theorem Market.lent_built (asset lender : Address) : (Market.lent asset lender).basket.Built :=
  .edit (.edit (.edit Market.basket_built _ _) _ _) _ _

/-- The basket lists dai and does not list usdc. The lender's position in the one is found,
and that in the other is not. -/
theorem activate_vets_listed_lent :
    let lender : Address := ⟨"lender", by decide, by decide⟩
    let usdc : Address := ⟨"usdc", by decide, by decide⟩
    (Market.lent Market.dai lender).basket.Built ∧ (Market.lent usdc lender).basket.Built ∧
      (∃ after, activate (Market.call 0) (Market.lent Market.dai lender) =
        .error .externalPositionsNotAllowed after) ∧
      ∃ after, activate (Market.call 0) (Market.lent usdc lender) = .ok () after ∧
        after.basket.ledger.hasExternalPosition usdc = true ∧
        after.basket.ledger.externalRealUnit usdc lender = Fixed.one := by
  intro lender usdc
  have built := Market.lent_built Market.dai lender
  have built' := Market.lent_built usdc lender
  have awaits : (Market.lent Market.dai lender).Awaits (Market.call 0) :=
    ⟨by decide +kernel, by decide +kernel, by decide +kernel⟩
  have awaits' : (Market.lent usdc lender).Awaits (Market.call 0) :=
    ⟨by decide +kernel, by decide +kernel, by decide +kernel⟩
  have refused := (activate_vets_listed built).2.1.mpr
    ⟨awaits, Market.dai, by decide +kernel, by decide +kernel⟩
  obtain ⟨after, run⟩ := (activate_vets_listed built').1.mpr ⟨awaits', by decide +kernel⟩
  have ledger := ((activate_vets_listed built').2.2 after run).1
  refine ⟨built, built', refused, after, run, ?_⟩
  rw [ledger]
  exact ⟨by decide +kernel, by decide +kernel⟩

/-- So a basket can carry the position of a module past the engine. -/
theorem attribution_overlooked :
    ¬∀ (engine after : Engine) (context : CallContext), engine.basket.Built →
      activate context engine = .ok () after → ∀ asset, after.basket.ledger.hasExternalPosition asset = false := by
  intro free
  let lender : Address := ⟨"lender", by decide, by decide⟩
  let usdc : Address := ⟨"usdc", by decide, by decide⟩
  have works : (activate (Market.call 0)).succeeds (fun _ after => after.basket.ledger.hasExternalPosition usdc)
      (Market.lent usdc lender) = true := by decide +kernel
  obtain ⟨_, after, run, attributed⟩ := succeeds_iff.mp works
  rw [free _ after _ (Market.lent_built usdc lender) run usdc] at attributed
  cases attributed

end Engine

end IndexBasket
