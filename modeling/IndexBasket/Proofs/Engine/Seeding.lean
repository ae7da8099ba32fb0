import IndexBasket.Proofs.Engine.WellPosed
import IndexBasket.Proofs.Ledger.Positions

namespace IndexBasket

open IndexBasket.Action

/-- A quotient is what it scales exactly where the scale adds less than one to it. -/
theorem ediv_eq_self_iff {unit live snapshot : Int} (positive : 0 < snapshot) :
    unit = unit * live / snapshot ↔ 0 ≤ unit * (live - snapshot) ∧ unit * (live - snapshot) < snapshot := by
  rw [eq_comm, Int.ediv_eq_iff_of_pos positive, Int.mul_sub]
  omega

namespace Engine

variable {engine after : Engine} {context : CallContext} {positions : List Position} {component : Address}
  {unit : Fixed} {done : Unit}

/-- The positions of a component set its target, all to the same unit if the default ones
have that. There is nobody else's among them, or they would have been refused. -/
theorem targetUnit_adoptPositions (run : adoptPositions positions engine = .ok done after)
    (same : ∀ position ∈ positions, position.component = component → position.state = .default → position.unit = unit)
    (sets : (engine.info component).targetUnit = unit ∨ ∃ position ∈ positions, position.component = component) :
    (after.info component).targetUnit = unit := by
  induction positions generalizing engine with
  | nil =>
    cases run
    exact sets.resolve_right fun ⟨_, member, _⟩ => absurd member List.not_mem_nil
  | cons position rest ih =>
    obtain ⟨first, later⟩ := List.forall_mem_cons.mp same
    simp only [adoptPositions, guard_bind_eq_ok, bind_eq_ok, modify_eq_ok] at run
    obtain ⟨own, _, _, rfl, run⟩ := run
    -- Either this position sets the target, or what has set it or is going to is as before.
    refine ih run later ?_
    rw [info_updateInfo_ite]
    by_cases here : position.component = component
    · rw [if_pos here]
      cases state : position.state with
      | default => exact Or.inl (first here state)
      | external => exact absurd state own
    · rw [if_neg here]
      refine sets.imp_right ?_
      rintro ⟨other, member, set⟩
      obtain rfl | member := List.mem_cons.mp member
      · exact absurd set here
      · exact ⟨other, member, set⟩

theorem targetUnit_activate (run : activate context engine = .ok done after)
    (listed : component ∈ engine.basket.ledger.components) (held : engine.defaultRealUnit component ≠ Fixed.zero) :
    (after.info component).targetUnit = engine.defaultRealUnit component := by
  obtain ⟨adopted, modules, adoption, rfl⟩ := activate_eq_ok run
  change (adopted.info component).targetUnit = _
  refine targetUnit_adoptPositions adoption (fun position member own state => ?_)
    (Or.inr ⟨_, (Ledger.defaultPosition_mem_positions held).mpr listed, rfl⟩)
  rw [Ledger.unit_of_mem_positions member state, own]
  rfl

/-- What the targets come to once the engine is put to work, whatever has happened to it and
to its basket before. The live unit is stored for each component with a default position,
and the multiplier at which targets are read is left as it was. So the target is that unit
scaled by the live multiplier over the old one, and a component is at its target exactly
where the scale does not change its unit. -/
theorem activate_seeds_targets (reached : engine.Reachable) (run : activate context engine = .ok done after) :
    after.basket.ledger = engine.basket.ledger ∧ after.snapshot = engine.snapshot ∧
    ∀ component ∈ after.basket.ledger.components, after.defaultRealUnit component ≠ Fixed.zero →
      (after.info component).targetUnit = after.defaultRealUnit component ∧
      (∀ target, after.targetUnit component = .ok target ↔
        target.toInt = (after.defaultRealUnit component).toInt * after.basket.ledger.multiplier.toInt /
          after.snapshot.toInt) ∧
      (after.targetUnit component = .ok (after.defaultRealUnit component) ↔
        0 ≤ (after.defaultRealUnit component).toInt *
            (after.basket.ledger.multiplier.toInt - after.snapshot.toInt) ∧
          (after.defaultRealUnit component).toInt *
            (after.basket.ledger.multiplier.toInt - after.snapshot.toInt) < after.snapshot.toInt) := by
  have posed := (moves_activate_wellPosed context).of_ok run reached.wellPosed
  have ledger := ((moves_activate context).of_ok run).ledger
  have snapshot := (moves_activate_of (R := Preserves fun state => state.snapshot = engine.snapshot) (fun _ _ => id)
    (fun _ _ => id) context).of_ok run rfl
  refine ⟨ledger, snapshot, fun component listed held => ?_⟩
  have unit : after.defaultRealUnit component = engine.defaultRealUnit component := by
    rw [defaultRealUnit, Basket.defaultRealUnit, ledger]
    rfl
  rw [ledger] at listed
  rw [unit] at held
  have seeded := targetUnit_activate run listed held
  rw [← unit] at seeded
  have scaled : ∀ target, after.targetUnit component = .ok target ↔ _ := fun target => posed.targetUnit_eq_ok
  simp only [seeded] at scaled
  exact ⟨seeded, scaled, (scaled _).trans (ediv_eq_self_iff posed.scalable)⟩

/-- The market at a given live multiplier, with an engine that waits to be put to work. -/
def Market.waiting (multiplier : Fixed) : Engine :=
  launch Market.registry Market.settings Market.basket
    [.ledger (.rescale multiplier), .addModule Market.manager Market.rebalancer] Market.balances Market.venues []

theorem Market.waiting_reachable (multiplier : Fixed) : (Market.waiting multiplier).Reachable :=
  reachable_launch (.module (.basket (.create Market.treasury) Market.index) Market.rebalancer) Market.basket_built
    _ _ _ _ _

/-- At a multiplier of 0.98 the target of dai is read as 0.98 of its unit. -/
theorem activate_seeds_targets_diluted :
    let engine := Market.waiting (Fixed.ofInt 980_000_000_000_000_000)
    engine.Reachable ∧ ∃ after, activate (Market.call 0) engine = .ok () after ∧
      Market.dai ∈ after.basket.ledger.components ∧
      after.defaultRealUnit Market.dai = Fixed.ofInt 980_000_000_000_000_001 ∧
      (after.info Market.dai).targetUnit = Fixed.ofInt 980_000_000_000_000_001 ∧
      after.targetUnit Market.dai = .ok (Fixed.ofInt 960_400_000_000_000_000) := by
  intro engine
  have reached : engine.Reachable := Market.waiting_reachable _
  have works : (activate (Market.call 0)).succeeds (fun _ _ => true) engine = true := by decide +kernel
  obtain ⟨⟨⟩, after, run, _⟩ := succeeds_iff.mp works
  obtain ⟨ledger, snapshot, each⟩ := activate_seeds_targets reached run
  have listed : Market.dai ∈ engine.basket.ledger.components := by decide +kernel
  have held : engine.basket.ledger.defaultRealUnit Market.dai = Fixed.ofInt 980_000_000_000_000_001 := by decide +kernel
  have multiplier : engine.basket.ledger.multiplier = Fixed.ofInt 980_000_000_000_000_000 := by decide +kernel
  have one : engine.snapshot = Fixed.one := by decide +kernel
  have unit : after.defaultRealUnit Market.dai = Fixed.ofInt 980_000_000_000_000_001 := by
    rw [defaultRealUnit, Basket.defaultRealUnit, ledger, held]
  rw [← ledger] at listed
  obtain ⟨seeded, scaled, _⟩ := each Market.dai listed (by rw [unit]; decide)
  rw [unit, ledger, multiplier, snapshot, one] at scaled
  exact ⟨reached, after, run, listed, unit, seeded.trans unit, (scaled _).mpr (by decide)⟩

/-- So the units that the engine starts from need not be its targets. -/
theorem seeded_off_target :
    ¬∀ {engine after : Engine} {context : CallContext}, engine.Reachable → activate context engine = .ok () after →
      ∀ component ∈ after.basket.ledger.components, after.defaultRealUnit component ≠ Fixed.zero →
        after.targetUnit component = .ok (after.defaultRealUnit component) := by
  intro met
  have works : (activate (Market.call 0)).succeeds (fun _ after => Market.dai ∈ after.basket.ledger.components ∧
      after.defaultRealUnit Market.dai ≠ Fixed.zero ∧
      after.targetUnit Market.dai ≠ .ok (after.defaultRealUnit Market.dai))
      (Market.waiting (Fixed.ofInt 980_000_000_000_000_000)) = true := by decide +kernel
  obtain ⟨⟨⟩, after, run, found⟩ := succeeds_iff.mp works
  obtain ⟨listed, held, apart⟩ := of_decide_eq_true found
  exact apart (met (Market.waiting_reachable _) run Market.dai listed held)

end Engine

end IndexBasket
