import IndexBasket.Engine.Procedure
import IndexBasket.Proofs.Engine.WellPosed

namespace IndexBasket

namespace Engine

open IndexBasket.Action

variable {engine after : Engine} {context : CallContext} {command : Command} {snapshot raised : Fixed}
  {percentage : Amount}

/-- The multiplier that raises the targets, in terms of the one before it. -/
theorem raisedSnapshot_eq_ok (run : raisedSnapshot snapshot percentage = .ok raised) :
    raised.toInt = snapshot.toInt * 10 ^ 18 / (10 ^ 18 + percentage.toNat) := by
  simp only [raisedSnapshot, Except.bind_eq_ok, demand_eq_ok, Option.filter_eq_some_iff, Amount.toFixed?,
    Fixed.add?, Fixed.ofInt?_eq_some] at run
  obtain ⟨increase, size, step, sum, divided, _⟩ := run
  have scale : step.toInt = 10 ^ 18 + percentage.toNat := by
    rw [← sum, ← size]
    rfl
  rw [(Fixed.preciseDiv_eq_some (by omega)).mp divided, scale]

theorem raisedSnapshot_lt (positive : 0 < snapshot.toInt) (raises : 0 < percentage.toNat)
    (run : raisedSnapshot snapshot percentage = .ok raised) : raised.toInt < snapshot.toInt := by
  rw [raisedSnapshot_eq_ok run, Int.ediv_lt_iff_lt_mul (by omega)]
  exact Int.mul_lt_mul_of_pos_left (show (10 ^ 18 : Int) < 10 ^ 18 + percentage.toNat by omega) positive

/-- Rounding favours the raise: a target grows by the percentage at least, for the
multiplier that it is divided by is rounded down. -/
theorem raised_le {scaled target : Int} (run : raisedSnapshot snapshot percentage = .ok raised) (nonneg : 0 ≤ target)
    (below : target * snapshot.toInt ≤ scaled) :
    target * (10 ^ 18 + percentage.toNat) / 10 ^ 18 ≤ scaled / raised.toInt := by
  have least := raisedSnapshot_pos run
  have shrunk := Int.ediv_mul_le (snapshot.toInt * 10 ^ 18) (show (10 ^ 18 + percentage.toNat : Int) ≠ 0 by omega)
  rw [← raisedSnapshot_eq_ok run] at shrunk
  have rounded := Int.ediv_mul_le (target * (10 ^ 18 + percentage.toNat)) (show (10 ^ 18 : Int) ≠ 0 by decide)
  rw [Int.le_ediv_iff_mul_le least]
  refine le_of_mul_le_mul_right ?_ (show (0 : Int) < 10 ^ 18 by decide)
  calc target * (10 ^ 18 + percentage.toNat) / 10 ^ 18 * raised.toInt * 10 ^ 18
    _ = target * (10 ^ 18 + percentage.toNat) / 10 ^ 18 * 10 ^ 18 * raised.toInt := by ring
    _ ≤ target * (10 ^ 18 + percentage.toNat) * raised.toInt := Int.mul_le_mul_of_nonneg_right rounded least.le
    _ = target * (raised.toInt * (10 ^ 18 + percentage.toNat)) := by ring
    _ ≤ target * (snapshot.toInt * 10 ^ 18) := Int.mul_le_mul_of_nonneg_left shrunk nonneg
    _ = target * snapshot.toInt * 10 ^ 18 := by ring
    _ ≤ scaled * 10 ^ 18 := Int.mul_le_mul_of_nonneg_right below (by decide)

theorem le_raised {target : Int} (nonneg : 0 ≤ target) (percentage : Amount) :
    target ≤ target * (10 ^ 18 + percentage.toNat) / 10 ^ 18 := by
  rw [Int.le_ediv_iff_mul_le (by decide)]
  exact Int.mul_le_mul_of_nonneg_left (by omega) nonneg

/-! How often targets can be raised. -/

/-- Whether an operation is a call of some kind that goes through. -/
def Operation.performs (kind : Command → Bool) : Operation → Engine → Bool
  | .call context command, engine => kind command && (command.perform context).succeeds (fun _ _ => true) engine
  | _, _ => false

/-- How many calls of some kind go through in a run. -/
def performed (kind : Command → Bool) : List Operation → Engine → Nat
  | [], _ => 0
  | operation :: rest, engine =>
    (operation.performs kind engine).toNat + performed kind rest (operation.perform.final engine)

def Command.raises (command : Command) : Bool := command = .raiseAssetTargets

theorem final_of_not_performs {kind : Command → Bool} (of_kind : kind command = true)
    (idle : (Operation.call context command).performs kind engine = false) :
    (command.perform context).final engine = engine := by
  rw [Operation.performs, of_kind, Bool.true_and] at idle
  exact (failsInPlace_perform context command).final_of_refused idle

theorem raiseAssetTargets_of_performs {operation : Operation}
    (raises : operation.performs Command.raises engine = true) :
    ∃ context raised after, operation = .call context .raiseAssetTargets ∧
      raiseAssetTargets context engine = .ok raised after := by
  cases operation with
  | call context command =>
    obtain ⟨kind, succeeded⟩ := Bool.and_eq_true_iff.mp raises
    obtain rfl : command = .raiseAssetTargets := of_decide_eq_true kind
    obtain ⟨reply, after, run, _⟩ := succeeds_iff.mp succeeded
    obtain ⟨raised, raise, _⟩ := map_eq_ok.mp run
    exact ⟨context, raised, after, rfl, raise⟩
  | _ => cases raises

/-- Two states between which the multiplier of the targets has not moved. If a raise would
raise them by something before, it still would. -/
structure Level (before after : Engine) : Prop where
  snapshot : after.snapshot = before.snapshot
  raises : Preserves (fun engine => Amount.zero < engine.settings.raiseTargetPercentage) before after

instance : Std.Refl Level := ⟨fun _ => ⟨rfl, id⟩⟩

instance : IsTrans Engine Level where
  trans _ _ _ first second := ⟨second.snapshot.trans first.snapshot, second.raises ∘ first.raises⟩

theorem Adjusts.level (adjusts : Adjusts engine after) : Level engine after := by
  refine ⟨adjusts.snapshot, ?_⟩
  cases adjusts.configures with
  | raisePercentage percentage positive =>
    exact fun _ => Nat.pos_of_ne_zero fun zero => positive (Amount.ext zero)
  | _ => exact id

theorem Adjusted.level (adjusted : Adjusted engine after) : Level engine after := by
  induction adjusted with
  | refl => exact Std.Refl.refl _
  | tail _ step ih => exact IsTrans.trans _ _ _ ih step.level

/-- All calls but these two leave the multiplier of the targets alone. -/
theorem moves_perform_level (context : CallContext) (closed : command.opens = false) (raises : command.raises = false) :
    Moves Level (command.perform context) := by
  by_cases manages : command.Manages
  · by_cases activates : command = .activate
    · subst activates
      exact moves_map _ (moves_activate_of (fun _ _ => ⟨rfl, id⟩) (fun _ _ => ⟨rfl, id⟩) context)
    · have setsUp := manages.setsUp (of_decide_eq_false raises)
      exact fun start => (moves_adjusts context setsUp activates closed start).level
  · refine (failsInPlace_perform context command).moves fun {engine after reply} run => ?_
    obtain ⟨component, trades⟩ := Command.exists_trades manages
    obtain ⟨trade, _, _, _, _, rfl, _⟩ := trades.settles run
    have kept := (trades.footprint run).elsewhere
    refine ⟨?_, ?_⟩
    · rw [kept]
    · intro raised
      rw [kept]
      exact raised

variable {operation : Operation} {operations : List Operation}

theorem Operation.level (closed : operation.performs Command.opens engine = false)
    (idle : operation.performs Command.raises engine = false) : Level engine (operation.perform.final engine) := by
  cases operation with
  | call context command =>
    rw [perform, final_map]
    by_cases opens : command.opens = true
    · rw [final_of_not_performs opens closed]
      exact Std.Refl.refl _
    by_cases raises : command.raises = true
    · rw [final_of_not_performs raises idle]
      exact Std.Refl.refl _
    · exact moves_perform_level context (Bool.eq_false_iff.mpr opens) (Bool.eq_false_iff.mpr raises) engine
  | editBasket registry edit =>
    rw [perform, final_map, onBasket, final_within]
    exact ⟨rfl, id⟩
  | editBalances edit =>
    rw [perform, final_map, onBalances, final_within]
    exact ⟨rfl, id⟩
  | replaceBasket | replaceBalances | takeEvents => exact ⟨rfl, id⟩

/-- What lets the raises come to an end: they divide a positive multiplier, and by more than
one. -/
structure Raisable (engine : Engine) : Prop where
  scalable : 0 < engine.snapshot.toInt
  raises : Amount.zero < engine.settings.raiseTargetPercentage

theorem Raisable.raise (raisable : engine.Raisable) (run : raiseAssetTargets context engine = .ok raised after) :
    after.Raisable ∧ after.snapshot.toInt < engine.snapshot.toInt := by
  obtain ⟨_, _, divided, rfl⟩ := raiseAssetTargets_eq_ok run
  exact ⟨⟨raisedSnapshot_pos divided, raisable.raises⟩, raisedSnapshot_lt raisable.scalable raisable.raises divided⟩

/-- As long as no rebalance is opened, a raise that goes through takes one at least from the
multiplier of the targets, and any other operation nothing. -/
theorem Raisable.step (raisable : engine.Raisable) (closed : operation.performs Command.opens engine = false) :
    (operation.perform.final engine).Raisable ∧
      (operation.performs Command.raises engine).toNat + (operation.perform.final engine).snapshot.toInt ≤
        engine.snapshot.toInt := by
  cases raises : operation.performs Command.raises engine with
  | false =>
    have level := operation.level closed raises
    refine ⟨⟨?_, level.raises raisable.raises⟩, ?_⟩
    · rw [level.snapshot]
      exact raisable.scalable
    · rw [level.snapshot]
      simp
  | true =>
    obtain ⟨context, raised, after, rfl, run⟩ := raiseAssetTargets_of_performs raises
    have done : (Operation.call context .raiseAssetTargets).perform.final engine = after := by
      rw [Operation.perform, final_map, Command.perform, final_map, final_of_ok run]
    obtain ⟨raisable', less⟩ := raisable.raise run
    rw [done, Bool.toNat_true]
    exact ⟨raisable', by omega⟩

/-- So a run in which no rebalance is opened has no more raises than the multiplier has
base units. -/
theorem Raisable.run (raisable : engine.Raisable) (closed : performed Command.opens operations engine = 0) :
    (finalAll Operation.perform operations engine).Raisable ∧
      performed Command.raises operations engine + (finalAll Operation.perform operations engine).snapshot.toInt ≤
        engine.snapshot.toInt := by
  induction operations generalizing engine with
  | nil =>
    refine ⟨raisable, ?_⟩
    rw [performed, Nat.cast_zero, Int.zero_add]
    exact le_rfl
  | cons operation rest ih =>
    obtain ⟨first, later⟩ := Nat.add_eq_zero_iff.mp closed
    obtain ⟨between, lowered⟩ := raisable.step (Bool.toNat_eq_zero.mp first)
    obtain ⟨final, bounded⟩ := ih between later
    refine ⟨final, ?_⟩
    rw [performed, Nat.cast_add]
    change _ + (finalAll Operation.perform rest (operation.perform.final engine)).snapshot.toInt ≤ _
    omega

/-- A raise that goes through lowers the multiplier of the targets, tells of it, and leaves
all else as it was. Every target that is not negative grows by the percentage at least,
rounded down. And until a rebalance is opened again there is an end to the raises: no more
go through than the multiplier has base units. -/
theorem raise_lowers_snapshot (reached : engine.Reachable)
    (raises : Amount.zero < engine.settings.raiseTargetPercentage) :
    (∀ context raised after, raiseAssetTargets context engine = .ok raised after →
      Fixed.zero < raised ∧ raised < engine.snapshot ∧
      after = { engine with snapshot := raised, events := engine.events ++ [.assetTargetsRaised raised] } ∧
      ∀ asset target', Fixed.zero ≤ (engine.info asset).targetUnit → after.targetUnit asset = .ok target' →
        ∃ target, engine.targetUnit asset = .ok target ∧
          target.toInt * (10 ^ 18 + engine.settings.raiseTargetPercentage.toNat) / 10 ^ 18 ≤ target'.toInt ∧
          target ≤ target') ∧
    ∀ operations, performed Command.opens operations engine = 0 →
      performed Command.raises operations engine < engine.snapshot.toInt := by
  have posed := reached.wellPosed
  have raisable : engine.Raisable := ⟨posed.scalable, raises⟩
  refine ⟨fun context raised after run => ?_, fun operations closed => ?_⟩
  · have less := (raisable.raise run).2
    obtain ⟨_, _, divided, rfl⟩ := raiseAssetTargets_eq_ok run
    refine ⟨raisedSnapshot_pos divided, less, rfl, fun asset target' nonneg scaled => ?_⟩
    have posed' : WellPosed ({ engine with snapshot := raised }.record (.assetTargetsRaised raised)) :=
      ⟨raisedSnapshot_pos divided, posed.distinct, posed.registered⟩
    have value : target'.toInt = (engine.info asset).targetUnit.toInt * engine.basket.ledger.multiplier.toInt /
      raised.toInt := posed'.targetUnit_eq_ok.mp scaled
    have least := Int.ediv_nonneg (Int.mul_nonneg nonneg reached.sound.readable.le) posed.scalable.le
    have grown := raised_le divided least (Int.ediv_mul_le _ posed.scalable.ne')
    have above := le_raised least engine.settings.raiseTargetPercentage
    rw [← value] at grown
    have most := target'.le_max
    exact ⟨⟨_, by omega, by omega⟩, posed.targetUnit_eq_ok.mpr rfl, grown, above.trans grown⟩
  · obtain ⟨left, bounded⟩ := raisable.run closed
    have positive := left.scalable
    omega

/-- Raises by a quarter of a percent. One that comes too early is refused, and after a trade
the next one goes through. -/
theorem raise_lowers_snapshot_twice :
    let engine := Market.engine Fixed.one (Fixed.ofInt 1_000_000_000_000_000_002)
      (Amount.ofNat 1_000_000_000_000_000_000_000)
    let operations : List Operation :=
      [.call (Market.call 1) .raiseAssetTargets, .call (Market.call 1) .raiseAssetTargets,
        .call (Market.call 1) (.trade Market.dai), .call (Market.call 1) .raiseAssetTargets]
    engine.Reachable ∧ engine.settings.raiseTargetPercentage = Amount.ofNat 2_500_000_000_000_000 ∧
      (∃ raised after target target', raiseAssetTargets (Market.call 1) engine = .ok raised after ∧
        raised < engine.snapshot ∧ engine.targetUnit Market.dai = .ok target ∧
        after.targetUnit Market.dai = .ok target' ∧
        target.toInt * (10 ^ 18 + 2_500_000_000_000_000) / 10 ^ 18 ≤ target'.toInt) ∧
      performed Command.raises operations engine = 2 ∧ 2 < engine.snapshot.toInt := by
  intro engine operations
  have reached : engine.Reachable := Market.reachable _ _ _
  have percentage : engine.settings.raiseTargetPercentage = Amount.ofNat 2_500_000_000_000_000 := by decide +kernel
  have raises : Amount.zero < engine.settings.raiseTargetPercentage := by
    rw [percentage]
    decide
  have done : (raiseAssetTargets (Market.call 1)).succeeds
      (fun _ after => after.targetUnit Market.dai = .ok (Fixed.ofInt 1_002_500_000_000_000_002)) engine = true := by
    decide +kernel
  obtain ⟨raised, after, run, scaled⟩ := succeeds_iff.mp done
  have twice : performed Command.raises operations engine = 2 := by decide +kernel
  obtain ⟨each, finite⟩ := raise_lowers_snapshot reached raises
  obtain ⟨_, lower, _, grow⟩ := each _ raised after run
  obtain ⟨target, before, grown, _⟩ := grow Market.dai _ (by decide +kernel) (of_decide_eq_true scaled)
  rw [percentage] at grown
  have bounded := finite operations (by decide +kernel)
  rw [twice] at bounded
  exact ⟨reached, percentage, ⟨raised, after, target, _, run, lower, before, of_decide_eq_true scaled, grown⟩, twice,
    bounded⟩

end Engine

end IndexBasket
