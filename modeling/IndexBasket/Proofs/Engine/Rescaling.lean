import IndexBasket.Proofs.Engine.WellPosed
import IndexBasket.Proofs.Ledger.Range

namespace IndexBasket

open IndexBasket.Action

section Scaling

variable {stored stored' divisor divisor' old new : Int}

/-- A floor taken along with the factor in it stays below the new floor and one more. -/
theorem floor_mul_lt (stored : Int) (divides : 0 < divisor) (before : 0 < old) (now : 0 < new) :
    stored * old / divisor * new < (stored * new / divisor + 1) * old := by
  have below := Int.ediv_mul_le (stored * old) divides.ne'
  have above := Int.lt_ediv_add_one_mul_self (stored * new) divides
  refine lt_of_mul_lt_mul_right ?_ divides.le
  calc stored * old / divisor * new * divisor
    _ = stored * old / divisor * divisor * new := by ring
    _ ≤ stored * old * new := Int.mul_le_mul_of_nonneg_right below now.le
    _ = stored * new * old := by ring
    _ < (stored * new / divisor + 1) * divisor * old := Int.mul_lt_mul_of_pos_right above before
    _ = (stored * new / divisor + 1) * old * divisor := by ring

/-- Two floors with the same value stay together under another factor, whatever they
divide and by what. -/
theorem floor_le_of_same (divides : 0 < divisor) (divides' : 0 < divisor') (before : 0 < old) (now : 0 < new)
    (same : stored * old / divisor = stored' * old / divisor') :
    stored * new / divisor ≤ stored' * new / divisor' + (new + (old - 1)) / old := by
  have more := floor_mul_lt stored divides now before
  have less := floor_mul_lt stored' divides' before now
  rw [same, Int.add_mul, Int.one_mul] at more
  rw [Int.add_mul, Int.one_mul] at less
  rw [← sub_le_iff_le_add', Int.le_ediv_iff_mul_le before, Int.sub_mul]
  omega

end Scaling

theorem Ledger.moves_edit_built (edit : Edit) : Moves (Preserves Built) edit.apply := fun _ built => built.edit edit

theorem Basket.Built.ledgerBuilt {basket : Basket} (built : basket.Built) : basket.ledger.Built :=
  built.keeps Ledger.moves_edit_built (.opened _)

namespace Engine

variable {engine after : Engine} {multiplier : Fixed}

theorem moves_perform_ledgerBuilt (context : CallContext) (command : Command) :
    Moves (Preserves fun engine => engine.basket.ledger.Built) (command.perform context) := by
  by_cases manages : command.Manages
  · intro start built
    rw [(moves_manages context manages start).ledger]
    exact built
  · obtain ⟨component, trades⟩ := Command.exists_trades manages
    refine (failsInPlace_perform context command).moves fun run built => ?_
    obtain ⟨_, _, _, _, _, _, _, _, _, booked⟩ := trades.settles run
    obtain ⟨_, _, _, _, unit, _, unit', _, _, _, _, _, _, first, _, second, _, rfl⟩ := settle_eq_ok.mp booked
    have stored : (Ledger.Edit.defaultPosition component unit).apply _ = .ok () _ := first
    have stored' : (Ledger.Edit.defaultPosition _ unit').apply _ = .ok () _ := second
    exact (Ledger.Built.of_ok built stored).of_ok stored'

/-- Whatever happens to an engine, its ledger is one that edits make. -/
theorem Reachable.ledgerBuilt (reached : engine.Reachable) : engine.basket.ledger.Built := by
  induction reached with
  | create _ _ built => exact built.ledgerBuilt
  | step _ step ih =>
    cases step with
    | call context command => exact moves_perform_ledgerBuilt context command _ ih
    | editBasket registry edit => exact Basket.moves_edit Ledger.moves_edit_built registry edit _ ih
    | replaceBasket built => exact built.ledgerBuilt
    | editBalances | replaceBalances | takeEvents => exact ih

theorem defaultRealUnit_rescaled
    (run : onBasket (Basket.onLedger (Ledger.setMultiplier multiplier)) engine = .ok () after) (component : Address) :
    (after.defaultRealUnit component).toInt =
      (engine.basket.ledger.defaultVirtualUnit component).toInt * multiplier.toInt / 10 ^ 18 := by
  obtain ⟨ledger, taken, rfl⟩ := onLedger_eq_ok.mp run
  exact Ledger.defaultRealUnit_setMultiplier taken component

theorem WellPosed.targetUnit_rescaled (posed : engine.WellPosed)
    (run : onBasket (Basket.onLedger (Ledger.setMultiplier multiplier)) engine = .ok () after) {component : Address}
    {unit : Fixed} : after.targetUnit component = .ok unit ↔
      unit.toInt = (engine.info component).targetUnit.toInt * multiplier.toInt / engine.snapshot.toInt := by
  obtain ⟨ledger, taken, rfl⟩ := onLedger_eq_ok.mp run
  obtain ⟨_, rfl⟩ := Ledger.setMultiplier_eq_ok.mp taken
  have posed' : WellPosed { engine with basket := { engine.basket with
      ledger := { engine.basket.ledger with multiplier } } } := ⟨posed.scalable, posed.distinct, posed.registered⟩
  exact posed'.targetUnit_eq_ok

theorem pos_of_rescaled (run : onBasket (Basket.onLedger (Ledger.setMultiplier multiplier)) engine = .ok () after) :
    0 < multiplier.toInt := by
  obtain ⟨ledger, taken, _⟩ := onLedger_eq_ok.mp run
  obtain ⟨_, rfl⟩ := Ledger.setMultiplier_eq_ok.mp taken
  exact Ledger.pos_of_not_vanishing (Ledger.setMultiplier_fitting_iff.mp taken).1

/-- What is stored for a component that is at its target, and for the target, is scaled to the
same floor. The target is not negative, so the ledger reads the unit exactly. -/
theorem Reachable.scaled_eq_of_met (reached : engine.Reachable) {component : Address}
    (nonneg : Fixed.zero ≤ (engine.info component).targetUnit)
    (met : engine.targetUnit component = .ok (engine.defaultRealUnit component)) :
    (engine.info component).targetUnit.toInt * engine.basket.ledger.multiplier.toInt / engine.snapshot.toInt =
      (engine.basket.ledger.defaultVirtualUnit component).toInt * engine.basket.ledger.multiplier.toInt / 10 ^ 18 := by
  have posed := reached.wellPosed
  have scaled := posed.targetUnit_eq_ok.mp met
  have least := Int.ediv_nonneg (Int.mul_nonneg nonneg reached.sound.readable.le) posed.scalable.le
  have read : (engine.defaultRealUnit component).toInt = _ :=
    reached.ledgerBuilt.spanning.defaultRealUnit component
  omega

/-- A component that is at its target when the live multiplier is changed. Its unit and its
target are scaled by different divisors, and yet they stay together up to the new multiplier
over the old one, rounded up: a dilution leaves one base unit between them at most. Where
the same number is stored for both, at a snapshot of one, nothing comes between them. -/
theorem rescale_keeps_met (reached : engine.Reachable)
    (run : onBasket (Basket.onLedger (Ledger.setMultiplier multiplier)) engine = .ok () after) :
    (∀ component target, Fixed.zero ≤ (engine.info component).targetUnit →
      engine.targetUnit component = .ok (engine.defaultRealUnit component) →
      after.targetUnit component = .ok target →
      |target.toInt - (after.defaultRealUnit component).toInt| ≤
          (multiplier.toInt + (engine.basket.ledger.multiplier.toInt - 1)) / engine.basket.ledger.multiplier.toInt ∧
        (multiplier ≤ engine.basket.ledger.multiplier →
          |target.toInt - (after.defaultRealUnit component).toInt| ≤ 1)) ∧
    (engine.snapshot = Fixed.one → ∀ component,
      engine.basket.ledger.defaultVirtualUnit component = (engine.info component).targetUnit →
      after.targetUnit component = .ok (after.defaultRealUnit component)) := by
  have posed := reached.wellPosed
  have readable : 0 < engine.basket.ledger.multiplier.toInt := reached.sound.readable
  have positive := pos_of_rescaled run
  refine ⟨fun component target nonneg met scaled => ?_, fun one component same => ?_⟩
  · have now := (posed.targetUnit_rescaled run).mp scaled
    have unit := defaultRealUnit_rescaled run component
    have same := reached.scaled_eq_of_met nonneg met
    have upper := floor_le_of_same posed.scalable (by decide) readable positive same
    have lower := floor_le_of_same (by decide) posed.scalable readable positive same.symm
    have close : |target.toInt - (after.defaultRealUnit component).toInt| ≤
        (multiplier.toInt + (engine.basket.ledger.multiplier.toInt - 1)) / engine.basket.ledger.multiplier.toInt := by
      rw [now, unit, abs_sub_le_iff]
      exact ⟨by omega, by omega⟩
    refine ⟨close, fun diluted => close.trans ?_⟩
    have less : multiplier.toInt ≤ engine.basket.ledger.multiplier.toInt := diluted
    rw [← Int.lt_add_one_iff, Int.ediv_lt_iff_lt_mul readable]
    omega
  · refine (posed.targetUnit_rescaled run).mpr ?_
    rw [defaultRealUnit_rescaled run component, same, one]
    rfl

/-- A multiplier of 0.98 that is diluted to 0.97. The target of dai comes to lie one base
unit below its unit. At a snapshot of one it does not. -/
theorem rescale_keeps_met_diluted :
    let engine := Market.engine (Fixed.ofInt 980_000_000_000_000_000) (Fixed.ofInt 980_000_000_000_000_001) Amount.one
    let aligned := Market.engine Fixed.one (Fixed.ofInt 1_000_000_000_000_000_002) Amount.one
    let diluted := Fixed.ofInt 970_000_000_000_000_000
    (∃ after target, onBasket (Basket.onLedger (Ledger.setMultiplier diluted)) engine = .ok () after ∧
      engine.targetUnit Market.dai = .ok (engine.defaultRealUnit Market.dai) ∧
      after.targetUnit Market.dai = .ok target ∧
      |target.toInt - (after.defaultRealUnit Market.dai).toInt| = 1) ∧
    ∃ after, onBasket (Basket.onLedger (Ledger.setMultiplier diluted)) aligned = .ok () after ∧
      after.targetUnit Market.dai = .ok (after.defaultRealUnit Market.dai) := by
  intro engine aligned diluted
  have rescaled : (onBasket (Basket.onLedger (Ledger.setMultiplier diluted))).succeeds
      (fun _ after => after.targetUnit Market.dai = .ok diluted ∧
        after.defaultRealUnit Market.dai ≠ diluted) engine = true := by decide +kernel
  have rescaled' : (onBasket (Basket.onLedger (Ledger.setMultiplier diluted))).succeeds (fun _ _ => true) aligned =
      true := by decide +kernel
  obtain ⟨⟨⟩, after, run, found⟩ := succeeds_iff.mp rescaled
  obtain ⟨scaled, apart⟩ := of_decide_eq_true found
  obtain ⟨⟨⟩, after', run', _⟩ := succeeds_iff.mp rescaled'
  have met : engine.targetUnit Market.dai = .ok (engine.defaultRealUnit Market.dai) := by decide +kernel
  have close := ((rescale_keeps_met (Market.reachable _ _ _) run).1 Market.dai diluted (by decide +kernel) met scaled).2
    (by decide +kernel)
  have distinct : 0 < |diluted.toInt - (after.defaultRealUnit Market.dai).toInt| :=
    abs_pos.mpr fun zero => apart (Fixed.ext (by omega))
  refine ⟨⟨after, diluted, run, met, scaled, by omega⟩, after', run', ?_⟩
  exact (rescale_keeps_met (Market.reachable _ _ _) run').2 (by decide +kernel) Market.dai (by decide +kernel)

end Engine

end IndexBasket
