import IndexBasket.Proofs.Engine.Landing

namespace IndexBasket

namespace Engine

/-- How far the unit of a component is from its target. -/
def gap (engine : Engine) (component : Address) : Except EngineError Nat := do
  let target ← engine.targetUnit component
  return (target.toInt - (engine.defaultRealUnit component).toInt).natAbs

/-- What the basket tracks of a component once a trade in it has been settled. -/
def trackedAfter (engine : Engine) (component : Address) (trade : Trade) : Nat :=
  match trade.direction with
  | .sell => engine.tracked component - trade.amountSold.toNat
  | .buy => engine.tracked component + engine.keptOf trade

variable {engine after : Engine} {component : Address} {trade : Trade} {context : CallContext}

theorem gap_of_targetUnit {target : Fixed} (scaled : engine.targetUnit component = .ok target) :
    engine.gap component = .ok (target.toInt - (engine.defaultRealUnit component).toInt).natAbs := by
  rw [gap, scaled]
  rfl

/-- A unit that does not pass the reflection of another one in the target can only
be farther away by falling below both. -/
theorem natAbs_sub_le_iff {unit target landed : Int} (upper : landed ≤ max unit (2 * target - unit)) :
    (target - landed).natAbs ≤ (target - unit).natAbs ↔ min unit (2 * target - unit) ≤ landed := by
  omega

/-- A trade computes a unit between the unit it starts from and the reflection of
that in the target. The ledger then rounds it down. -/
theorem trade_between (sound : engine.Sound) (run : Engine.trade context component engine = .ok trade after) :
    let unit := (engine.defaultRealUnit component).toInt
    let landed : Int := perToken engine.basket.totalSupply.toNat (engine.trackedAfter component trade)
    ∃ target, engine.targetUnit component = .ok target ∧ after.targetUnit component = .ok target ∧
      (after.defaultRealUnit component).toInt =
        Ledger.readBack engine.basket.ledger.multiplier.toInt landed ∧
      landed ≤ max unit (2 * target.toInt - unit) ∧
      (trade.direction = .sell ∨ Amount.zero < trade.amountBought →
        min unit (2 * target.toInt - unit) ≤ landed) := by
  intro unit landed
  obtain ⟨target, scaled, scaled', _, stored, sides⟩ := trade_landed sound run
  refine ⟨target, scaled, scaled', ?_⟩
  rcases sides with ⟨sells, above, size, lower, upper⟩ | ⟨buys, below, size, lower, upper⟩
  · have new : trade.newComponentUnit.toInt = landed := by
      simp only [landed, size, trackedAfter, sells]
    rw [← new]
    exact ⟨stored, by omega, fun _ => by omega⟩
  · have new : trade.newComponentUnit.toInt = landed := by
      simp only [landed, size, trackedAfter, buys]
    rw [← new]
    refine ⟨stored, by omega, fun moved => ?_⟩
    rcases moved with sells | bought
    · rw [buys] at sells
      cases sells
    · have bought' : 0 < trade.amountBought.toNat := bought
      have kept := lower (by unfold keptOf; omega)
      omega

/-- A trade widens the gap exactly when the unit that is read back falls below both
the unit before and its reflection in the target. At a multiplier of one it never
does, unless it buys nothing, and at any other no farther than the two conversions
of the ledger take it. -/
theorem gap_trade (reached : engine.Reachable)
    (run : Engine.trade context component engine = .ok trade after) :
    ∃ target gap gap',
      engine.targetUnit component = .ok target ∧ engine.gap component = .ok gap ∧
      after.gap component = .ok gap' ∧
      (gap' ≤ gap ↔
        min (engine.defaultRealUnit component).toInt
            (2 * target.toInt - (engine.defaultRealUnit component).toInt) ≤
          Ledger.readBack engine.basket.ledger.multiplier.toInt
            (perToken engine.basket.totalSupply.toNat (engine.trackedAfter component trade))) ∧
      (trade.direction = .sell ∨ Amount.zero < trade.amountBought →
        (engine.basket.ledger.multiplier = Fixed.one → gap' ≤ gap) ∧
          (gap' : Int) ≤ gap + (engine.basket.ledger.multiplier.toInt + (10 ^ 18 - 2)) / 10 ^ 18) := by
  have positive := reached.sound.readable
  obtain ⟨target, scaled, scaled', stored, upper, lower⟩ := trade_between reached.sound run
  have below := Ledger.readBack_le positive
    (perToken engine.basket.totalSupply.toNat (engine.trackedAfter component trade))
  have close := Ledger.le_readBack_add positive
    (perToken engine.basket.totalSupply.toNat (engine.trackedAfter component trade))
  have exact := natAbs_sub_le_iff (below.trans upper)
  refine ⟨target, _, _, scaled, gap_of_targetUnit scaled, gap_of_targetUnit scaled', ?_, fun moved => ⟨fun one => ?_, ?_⟩⟩
  · rw [stored]
    exact exact
  · rw [stored]
    refine exact.mpr ?_
    rw [one, show Fixed.one.toInt = 10 ^ 18 from rfl, Ledger.readBack_one]
    exact lower moved
  · have between := lower moved
    rw [stored]
    omega

theorem gap_trade_drift :
    let engine := Market.engine (Fixed.ofInt 980_000_000_000_000_000) (Fixed.ofInt 1_500_000_000_000_000_000)
      (Amount.ofNat 1)
    engine.Reachable ∧ ∃ trade after gap gap', Engine.trade (Market.call 1) Market.dai engine = .ok trade after ∧
      engine.gap Market.dai = .ok gap ∧ after.gap Market.dai = .ok gap' ∧ gap' ≤ gap + 1 := by
  intro engine
  have reached : engine.Reachable := Market.reachable _ _ _
  have traded : (Engine.trade (Market.call 1) Market.dai).succeeds
      (fun trade _ => Amount.zero < trade.amountBought) engine = true := by decide +kernel
  obtain ⟨trade, after, run, bought⟩ := Action.succeeds_iff.mp traded
  obtain ⟨_, gap, gap', _, before, now, _, close⟩ := gap_trade reached run
  have drift := (close (Or.inr (of_decide_eq_true bought))).2
  rw [show engine.basket.ledger.multiplier = Fixed.ofInt 980_000_000_000_000_000 by decide +kernel] at drift
  refine ⟨reached, trade, after, gap, gap', run, before, now, ?_⟩
  change (gap' : Int) ≤ gap + (980_000_000_000_000_000 + (10 ^ 18 - 2)) / 10 ^ 18 at drift
  omega

/-- At a multiplier below one, a purchase of a single base unit can leave less than
there was before it. -/
theorem gap_widened :
    ¬∀ {engine after : Engine} {component : Address} {trade : Trade} {context : CallContext},
      engine.Reachable → Engine.trade context component engine = .ok trade after →
      ∀ gap gap', engine.gap component = .ok gap → after.gap component = .ok gap' → gap' ≤ gap := by
  intro never
  have traded : (Engine.trade (Market.call 1) Market.dai).succeeds
      (fun _ after => after.gap Market.dai = .ok 520_000_000_000_000_000)
      (Market.engine (Fixed.ofInt 980_000_000_000_000_000) (Fixed.ofInt 1_500_000_000_000_000_000)
        (Amount.ofNat 1)) = true := by decide +kernel
  obtain ⟨trade, after, run, now⟩ := Action.succeeds_iff.mp traded
  have narrow := never (Market.reachable _ _ _) run 519_999_999_999_999_999 520_000_000_000_000_000
    (by decide +kernel) (of_decide_eq_true now)
  omega

end Engine

end IndexBasket
