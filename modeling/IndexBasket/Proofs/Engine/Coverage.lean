import IndexBasket.Proofs.Engine.Sizing

namespace IndexBasket

namespace Engine

open IndexBasket.Action

/-- The basket has at least what the unit of the asset says it holds. -/
def Covered (engine : Engine) (asset : Address) : Prop :=
  engine.tracked asset ≤ (engine.custody asset).toNat

/-- What the basket has beyond that. -/
def surplus (engine : Engine) (asset : Address) : Int :=
  (engine.custody asset).toNat - engine.tracked asset

/-- A unit that has been computed from a balance and stored is worth no more than
the part of the balance it was computed from: both conversions round down. -/
theorem Revalued.worth_le {engine : Engine} {asset : Address} {before balance : Nat} {unit : Fixed}
    (sound : engine.Sound) (revalued : engine.Revalued asset before balance unit) :
    let worth := (Ledger.readBack engine.basket.ledger.multiplier.toInt unit.toInt).toNat *
      engine.basket.totalSupply.toNat / 10 ^ 18
    worth ≤ balance ∧ (balance ≠ 0 → worth + before ≤ balance + engine.tracked asset) := by
  intro worth
  have stored := Ledger.readBack_le sound.readable unit.toInt
  have units := Nat.mul_le_mul_right engine.basket.totalSupply.toNat (Int.toNat_le_toNat stored)
  obtain ⟨apart, ⟨spent, zero⟩ | ⟨left, positive, enough, size⟩⟩ := revalued
  · have nothing : worth = 0 := by
      simp only [worth, Int.toNat_of_nonpos (stored.trans zero.le), Nat.zero_mul, Nat.zero_div]
    exact ⟨by omega, fun nonzero => absurd spent nonzero⟩
  · have part := Nat.div_mul_le_self ((balance + engine.tracked asset - before) * 10 ^ 18)
      engine.basket.totalSupply.toNat
    rw [← Int.toNat_natCast (_ / _), ← size] at part
    have worth_le : worth ≤ balance + engine.tracked asset - before := by
      have scaled := Nat.div_le_div_right (c := 10 ^ 18) (units.trans part)
      rwa [Nat.mul_div_cancel _ (by decide)] at scaled
    exact ⟨by omega, fun _ => by omega⟩

/-- What a call does to an asset that was covered: it stays covered, and nothing
is taken from its surplus. The one exception is a reserve spent to the end. -/
def Backs (before after : Engine) : Prop :=
  before.Sound → ∀ asset, before.Covered asset →
    after.Covered asset ∧
      (before.surplus asset ≤ after.surplus asset ∨
        asset = before.reserve ∧ before.custody asset ≠ Amount.zero ∧ after.custody asset = Amount.zero)

instance : Std.Refl Backs := ⟨fun _ _ _ covered => ⟨covered, Or.inl (Int.le_refl _)⟩⟩

theorem SameHoldings.custody {before after : Engine} (same : SameHoldings before after) (asset : Address) :
    after.custody asset = before.custody asset := by
  unfold Engine.custody
  rw [same.balances, same.address]

theorem SameHoldings.tracked {before after : Engine} (same : SameHoldings before after) (asset : Address) :
    after.tracked asset = before.tracked asset := by
  unfold Engine.tracked Engine.defaultRealUnit Basket.defaultRealUnit
  rw [same.ledger, same.supply]

theorem SameHoldings.backs {before after : Engine} (same : SameHoldings before after) : Backs before after := by
  intro _ asset covered
  unfold Covered surplus at *
  rw [same.custody, same.tracked]
  exact ⟨covered, Or.inl (Int.le_refl _)⟩

variable {engine after : Engine} {component : Address} {direction : TradeDirection} {fill : Fill}
  {trade : Trade} {context : CallContext}

theorem Settled.tracked (settled : Settled engine component direction fill trade after) (asset : Address) :
    after.tracked asset =
      (after.defaultRealUnit asset).toInt.toNat * engine.basket.totalSupply.toNat / 10 ^ 18 := by
  unfold Engine.tracked
  rw [settled.supply]

/-- A sale gives away tracked units only, and a purchase takes nothing of what
is bought. -/
theorem Settled.backs_component (sound : engine.Sound) (distinct : component ≠ engine.reserve)
    (limited : direction = .sell → fill.amountIn.toNat ≤ engine.tracked component)
    (settled : Settled engine component direction fill trade after) (covered : engine.Covered component) :
    after.Covered component ∧ engine.surplus component ≤ after.surplus component := by
  obtain ⟨worth, gained⟩ := settled.component_revalued.worth_le sound
  have unit := settled.unit component
  rw [if_pos rfl] at unit
  rw [← unit, ← settled.tracked component] at worth gained
  have moved := settled.custody component
  have bought := settled.bought
  unfold Covered surplus at *
  refine ⟨worth, ?_⟩
  by_cases left : (after.custody component).toNat = 0
  · cases direction with
    | buy =>
      simp only [soldAsset, boughtAsset, distinct.symm, if_false, true_and, if_true] at moved
      split at moved <;> omega
    | sell =>
      have most := limited rfl
      simp only [soldAsset, boughtAsset, distinct.symm, if_false, false_and, if_true] at moved
      omega
  · have kept := gained left
    omega

theorem Settled.backs_reserve (sound : engine.Sound) (distinct : component ≠ engine.reserve)
    (settled : Settled engine component direction fill trade after) (covered : engine.Covered engine.reserve) :
    after.Covered engine.reserve ∧
      (engine.surplus engine.reserve ≤ after.surplus engine.reserve ∨
        engine.custody engine.reserve ≠ Amount.zero ∧ after.custody engine.reserve = Amount.zero) := by
  obtain ⟨worth, gained⟩ := settled.reserve_revalued.worth_le sound
  have unit := settled.unit engine.reserve
  rw [if_neg distinct, if_pos rfl] at unit
  rw [← unit, ← settled.tracked engine.reserve] at worth gained
  unfold Covered surplus at *
  refine ⟨worth, ?_⟩
  by_cases left : (after.custody engine.reserve).toNat = 0
  · by_cases had : (engine.custody engine.reserve).toNat = 0
    · exact Or.inl (by omega)
    · exact Or.inr ⟨fun none => had (congrArg Amount.toNat none), Amount.ext left⟩
  · have kept := gained left
    exact Or.inl (by omega)

/-- A settlement touches nothing but the two assets of its trade. -/
theorem Settled.untouched (settled : Settled engine component direction fill trade after) {asset : Address}
    (notComponent : component ≠ asset) (notReserve : engine.reserve ≠ asset) :
    after.custody asset = engine.custody asset ∧ after.tracked asset = engine.tracked asset := by
  have unit := settled.unit asset
  rw [if_neg notComponent, if_neg notReserve] at unit
  have moved := settled.custody asset
  refine ⟨Amount.ext ?_, ?_⟩
  · cases direction with
    | buy => simpa only [soldAsset, boughtAsset, notComponent, notReserve, if_false, false_and, Nat.add_zero] using moved
    | sell => simpa only [soldAsset, boughtAsset, notComponent, notReserve, if_false, false_and, Nat.add_zero] using moved
  · rw [settled.tracked, unit]
    rfl

theorem Settled.backs (sound : engine.Sound) (distinct : component ≠ engine.reserve)
    (limited : direction = .sell → fill.amountIn.toNat ≤ engine.tracked component)
    (settled : Settled engine component direction fill trade after) : Backs engine after := by
  intro _ asset covered
  by_cases isComponent : component = asset
  · subst isComponent
    obtain ⟨kept, more⟩ := settled.backs_component sound distinct limited covered
    exact ⟨kept, Or.inl more⟩
  by_cases isReserve : engine.reserve = asset
  · subst isReserve
    obtain ⟨kept, more⟩ := settled.backs_reserve sound distinct covered
    exact ⟨kept, more.imp_right fun spent => ⟨rfl, spent⟩⟩
  · obtain ⟨custody, tracked⟩ := settled.untouched isComponent isReserve
    unfold Covered surplus at *
    rw [custody, tracked]
    exact ⟨covered, Or.inl (Int.le_refl _)⟩

theorem moves_trade_backs (context : CallContext) (component : Address) :
    Moves Backs (Engine.trade context component) := by
  refine moves_atomically_of_ok fun run sound => ?_
  obtain ⟨direction, quantity, exchange, bound, fill, listed, sized, swapped, settled⟩ :=
    trade_eq_ok sound (atomically_eq_ok.mpr run)
  refine settled.backs sound (sound.component_ne_reserve listed) (fun sells => ?_) sound
  subst sells
  have sold : fill.amountIn = quantity := Venues.execute_fixedSide swapped
  rw [sold]
  exact tradeSize_sell_le sized

theorem moves_tradeRemainingReserve_backs (context : CallContext) (component : Address) :
    Moves Backs (Engine.tradeRemainingReserve context component) := by
  refine moves_atomically_of_ok fun run sound => ?_
  obtain ⟨exchange, bound, fill, listed, swapped, settled⟩ :=
    tradeRemainingReserve_eq_ok sound (atomically_eq_ok.mpr run)
  exact settled.backs sound (sound.component_ne_reserve listed) (fun sells => by cases sells) sound

theorem moves_perform_backs (context : CallContext) (command : Command) :
    Moves Backs (command.perform context) :=
  moves_perform_of SameHoldings.backs moves_trade_backs moves_tradeRemainingReserve_backs context command

end Engine

end IndexBasket
