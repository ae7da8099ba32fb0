import IndexBasket.Ledger.Edit
import IndexBasket.Proofs.Action
import IndexBasket.Proofs.Number.Fixed
import Mathlib.Tactic.Linarith

namespace IndexBasket

namespace Ledger

/-- The unit that is read back after one has been stored: down to a virtual
unit, and down again to a real one. -/
def readBack (multiplier unit : Int) : Int := unit * 10 ^ 18 / multiplier * multiplier / 10 ^ 18

theorem readBack_le {multiplier : Int} (positive : 0 < multiplier) (unit : Int) :
    readBack multiplier unit ≤ unit := by
  have stored := Int.ediv_mul_le (unit * 10 ^ 18) positive.ne'
  unfold readBack
  omega

theorem readBack_nonneg {multiplier unit : Int} (positive : 0 < multiplier) (nonneg : 0 ≤ unit) :
    0 ≤ readBack multiplier unit := by
  have stored : 0 ≤ unit * 10 ^ 18 / multiplier := Int.ediv_nonneg (by omega) positive.le
  have product := Int.mul_nonneg stored positive.le
  unfold readBack
  omega

/-- At a multiplier of one nothing is lost. -/
theorem readBack_one (unit : Int) : readBack (10 ^ 18) unit = unit := by
  unfold readBack
  omega

/-- The second conversion gives away less than a base unit, the first less than the
real unit that a virtual one stands for. -/
theorem le_readBack_add {multiplier : Int} (positive : 0 < multiplier) (unit : Int) :
    unit ≤ readBack multiplier unit + (multiplier + (10 ^ 18 - 2)) / 10 ^ 18 := by
  have stored := Int.lt_ediv_add_one_mul_self (unit * 10 ^ 18) positive
  rw [Int.add_mul, Int.one_mul] at stored
  unfold readBack
  omega

/-- Nothing is lost exactly where the multiplier divides the scaled unit, so that
a virtual unit stands for it without a remainder. -/
theorem readBack_eq_self_iff {multiplier : Int} (positive : 0 < multiplier) (unit : Int) :
    readBack multiplier unit = unit ↔ multiplier ∣ unit * 10 ^ 18 := by
  have stored := Int.ediv_mul_le (unit * 10 ^ 18) positive.ne'
  unfold readBack
  constructor
  · intro same
    exact Dvd.intro_left (unit * 10 ^ 18 / multiplier) (by omega)
  · intro divides
    rw [Int.ediv_mul_cancel divides]
    omega

variable {ledger after : Ledger} {component : Address} {unit virtualUnit : Fixed} {done : Unit}

/-- A real unit within the range is not cut at its ends. -/
theorem toReal_toInt (least : -2 ^ 127 ≤ virtualUnit.toInt * ledger.multiplier.toInt / 10 ^ 18)
    (most : virtualUnit.toInt * ledger.multiplier.toInt / 10 ^ 18 ≤ 2 ^ 127 - 1) :
    (ledger.toReal virtualUnit).toInt = virtualUnit.toInt * ledger.multiplier.toInt / 10 ^ 18 := by
  have found : virtualUnit.preciseMul ledger.multiplier =
      some ⟨virtualUnit.toInt * ledger.multiplier.toInt / 10 ^ 18, least, most⟩ :=
    Fixed.preciseMul_eq_some.mpr rfl
  rw [toReal, found]
  rfl

theorem toReal_zero (ledger : Ledger) : ledger.toReal Fixed.zero = Fixed.zero := by
  refine Fixed.ext ?_
  have zero : Fixed.zero.toInt * ledger.multiplier.toInt / 10 ^ 18 = 0 := by
    simp [show Fixed.zero.toInt = 0 from rfl]
  rw [toReal_toInt (by rw [zero]; decide) (by rw [zero]; decide), zero]
  rfl

theorem toVirtual_eq_ok (run : ledger.toVirtual component unit = .ok virtualUnit) :
    unit.preciseDiv ledger.multiplier = some virtualUnit ∧
      (unit ≠ Fixed.zero → ledger.toReal virtualUnit ≠ Fixed.zero) := by
  unfold toVirtual at run
  simp only [Except.bind_eq_ok, demand_eq_ok, Except.guard_bind_eq_ok] at run
  obtain ⟨stored, found, kept, done⟩ := run
  cases done
  exact ⟨found, fun nonzero vanished => kept ⟨nonzero, Or.inr vanished⟩⟩

theorem toVirtual_value (positive : 0 < ledger.multiplier.toInt) (run : ledger.toVirtual component unit = .ok virtualUnit) :
    virtualUnit.toInt = unit.toInt * 10 ^ 18 / ledger.multiplier.toInt :=
  (Fixed.preciseDiv_eq_some positive).mp (toVirtual_eq_ok run).1

/-- Rounding takes a unit down only, so what is read back is within the range
unless it falls out of it at the lower end. -/
theorem toReal_toVirtual (positive : 0 < ledger.multiplier.toInt)
    (least : -2 ^ 127 ≤ readBack ledger.multiplier.toInt unit.toInt)
    (run : ledger.toVirtual component unit = .ok virtualUnit) :
    (ledger.toReal virtualUnit).toInt = readBack ledger.multiplier.toInt unit.toInt := by
  have stored := toVirtual_value positive run
  have below := readBack_le positive unit.toInt
  have most := unit.le_max
  unfold readBack at below least ⊢
  rw [← stored] at below least ⊢
  exact toReal_toInt least (by omega)

theorem defaultRealUnit_withDefault (ledger : Ledger) (component asset : Address) (virtualUnit : Fixed) :
    (ledger.withDefault component virtualUnit).defaultRealUnit asset =
      if component = asset then ledger.toReal virtualUnit else ledger.defaultRealUnit asset := by
  unfold withDefault
  by_cases zero : virtualUnit = Fixed.zero
  · rw [if_pos zero, zero, toReal_zero]
    unfold defaultRealUnit
    dsimp only
    rw [Std.ExtTreeMap.getElem?_erase]
    simp only [Std.LawfulEqCmp.compare_eq_iff_eq]
    by_cases same : component = asset
    · simp only [if_pos same]
    · simp only [if_neg same]
      rfl
  · rw [if_neg zero]
    unfold defaultRealUnit
    dsimp only
    rw [Std.ExtTreeMap.getElem?_insert]
    simp only [Std.LawfulEqCmp.compare_eq_iff_eq]
    by_cases same : component = asset
    · simp only [if_pos same]
      rfl
    · simp only [if_neg same]
      rfl

theorem addComponent_eq_ok :
    addComponent component ledger = .ok done after ↔
      ¬ledger.isComponent component ∧ { ledger with components := ledger.components ++ [component] } = after := by
  unfold addComponent
  simp only [Action.bind_eq_ok, Action.get_eq_ok, Action.guard_bind_eq_ok, Action.modify_eq_ok]
  constructor
  · rintro ⟨_, _, ⟨rfl, rfl⟩, rest⟩
    exact rest
  · intro rest
    exact ⟨_, _, ⟨rfl, rfl⟩, rest⟩

theorem removeComponent_eq_ok :
    removeComponent component ledger = .ok done after ↔
      ledger.isComponent component ∧
        { ledger with components := ledger.components.erase component } = after := by
  unfold removeComponent
  simp only [Action.bind_eq_ok, Action.get_eq_ok, Action.guard_bind_eq_ok, Action.modify_eq_ok]
  constructor
  · rintro ⟨_, _, ⟨rfl, rfl⟩, listed, rest⟩
    exact ⟨by simpa using listed, rest⟩
  · rintro ⟨listed, rest⟩
    exact ⟨_, _, ⟨rfl, rfl⟩, by simpa using listed, rest⟩

/-- Setting a default position stores its unit. A component without attributions is
listed when its unit is positive, and dropped when it is zero; any other one stays
listed or unlisted as it is. -/
theorem setDefaultPosition_cases (run : setDefaultPosition component unit ledger = .ok done after) :
    ∃ virtualUnit components, ledger.toVirtual component unit = .ok virtualUnit ∧
      after = { ledger with components }.withDefault component virtualUnit ∧
      (ledger.hasExternalPosition component = false ∧ component ∉ ledger.components ∧ 0 < unit.toInt ∧
          components = ledger.components ++ [component] ∨
        ledger.hasExternalPosition component = false ∧ component ∈ ledger.components ∧ unit = Fixed.zero ∧
          components = ledger.components.erase component ∨
        components = ledger.components ∧ (ledger.hasExternalPosition component = false →
          (component ∉ ledger.components → unit.toInt ≤ 0) ∧ (component ∈ ledger.components → unit ≠ Fixed.zero))) := by
  have member : ledger.isComponent component = true ↔ component ∈ ledger.components := List.contains_iff_mem
  unfold setDefaultPosition at run
  simp only [Action.bind_eq_ok, Action.get_eq_ok, Action.lift_eq_ok] at run
  obtain ⟨_, _, ⟨rfl, rfl⟩, virtualUnit, _, ⟨stored, rfl⟩, run⟩ := run
  simp only [Bool.and_eq_true, Bool.not_eq_true', decide_eq_true_eq] at run
  split at run
  · rename_i listing
    obtain ⟨_, _, added, rest⟩ := Action.bind_eq_ok.mp run
    obtain ⟨absent, rfl⟩ := addComponent_eq_ok.mp added
    refine ⟨virtualUnit, _, stored, (Action.modify_eq_ok.mp rest).symm, Or.inl ?_⟩
    exact ⟨listing.2, fun listed => absent (member.mpr listed), listing.1.2, rfl⟩
  · rename_i keepsUnlisted
    split at run
    · rename_i dropping
      obtain ⟨_, _, removed, rest⟩ := Action.bind_eq_ok.mp run
      obtain ⟨listed, rfl⟩ := removeComponent_eq_ok.mp removed
      refine ⟨virtualUnit, _, stored, (Action.modify_eq_ok.mp rest).symm, Or.inr (Or.inl ?_)⟩
      exact ⟨dropping.2, member.mp listed, dropping.1.2, rfl⟩
    · rename_i keepsListed
      refine ⟨virtualUnit, ledger.components, stored, (Action.modify_eq_ok.mp run).symm, Or.inr (Or.inr ⟨rfl, ?_⟩)⟩
      intro alone
      constructor
      · intro absent
        have unlisted : ledger.isComponent component = false := Bool.eq_false_iff.mpr fun listed => absent (member.mp listed)
        exact Int.not_lt.mp fun positive => keepsUnlisted ⟨⟨unlisted, positive⟩, alone⟩
      · intro listed zero
        exact keepsListed ⟨⟨member.mpr listed, zero⟩, alone⟩

/-- Beside storing a unit, it may only list or drop the component. -/
theorem setDefaultPosition_eq_ok (run : setDefaultPosition component unit ledger = .ok done after) :
    ∃ virtualUnit components, ledger.toVirtual component unit = .ok virtualUnit ∧
      after = { ledger with components }.withDefault component virtualUnit := by
  obtain ⟨virtualUnit, components, stored, written, _⟩ := setDefaultPosition_cases run
  exact ⟨virtualUnit, components, stored, written⟩

theorem multiplier_withDefault (ledger : Ledger) (component : Address) (virtualUnit : Fixed) :
    (ledger.withDefault component virtualUnit).multiplier = ledger.multiplier := by
  unfold withDefault
  split <;> rfl

theorem multiplier_setDefaultPosition (run : setDefaultPosition component unit ledger = .ok done after) :
    after.multiplier = ledger.multiplier := by
  obtain ⟨virtualUnit, components, _, rfl⟩ := setDefaultPosition_eq_ok run
  exact multiplier_withDefault _ _ _

/-- What is read after a default position has been set: the unit after both
roundings for its asset, and for every other one what was read before. -/
theorem defaultRealUnit_setDefaultPosition (positive : 0 < ledger.multiplier.toInt)
    (nonneg : 0 ≤ unit.toInt) (run : setDefaultPosition component unit ledger = .ok done after)
    (asset : Address) :
    (after.defaultRealUnit asset).toInt =
      if component = asset then readBack ledger.multiplier.toInt unit.toInt
      else (ledger.defaultRealUnit asset).toInt := by
  obtain ⟨virtualUnit, components, stored, rfl⟩ := setDefaultPosition_eq_ok run
  rw [defaultRealUnit_withDefault]
  split
  · have read := readBack_nonneg positive nonneg
    exact toReal_toVirtual positive (by dsimp only; omega) stored
  · rfl

/-- In a ledger that has just been opened, at a multiplier of one, every unit is
read as it was listed, and what is not listed is zero. -/
theorem defaultRealUnit_openPositions {positions : List (Address × Fixed)}
    (unscaled : ledger.multiplier = Fixed.one) (run : openPositions positions ledger = .ok done after)
    (asset : Address) :
    after.defaultRealUnit asset = ledger.defaultRealUnit asset ∨
      (asset, after.defaultRealUnit asset) ∈ positions := by
  induction positions generalizing ledger with
  | nil =>
    obtain ⟨_, rfl⟩ := Action.pure_eq_ok.mp run
    exact Or.inl rfl
  | cons position rest ih =>
    obtain ⟨component, unit⟩ := position
    simp only [openPositions, Action.bind_eq_ok, Action.get_eq_ok, Action.guard_bind_eq_ok] at run
    obtain ⟨_, _, ⟨rfl, rfl⟩, _, run⟩ := run
    split at run
    · obtain ⟨_, between, added, run⟩ := Action.bind_eq_ok.mp run
      obtain ⟨_, rfl⟩ := addComponent_eq_ok.mp added
      obtain ⟨_, opened, set, run⟩ := Action.bind_eq_ok.mp run
      simp only [setDefaultUnit, Action.bind_eq_ok, Action.get_eq_ok, Action.lift_eq_ok,
        Action.modify_eq_ok] at set
      obtain ⟨_, _, ⟨rfl, rfl⟩, virtualUnit, _, ⟨stored, rfl⟩, rfl⟩ := set
      have one : ledger.multiplier.toInt = 10 ^ 18 := by rw [unscaled]; rfl
      have read := toReal_toVirtual (by dsimp only; omega)
        (by dsimp only; rw [one, readBack_one]; exact unit.ge_min) stored
      dsimp only at read
      rw [one, readBack_one] at read
      rcases ih (by rw [multiplier_withDefault]; exact unscaled) run with same | listed
      · rw [defaultRealUnit_withDefault] at same
        split at same
        · rename_i component_eq
          rw [same, Fixed.ext read, component_eq]
          exact Or.inr (List.mem_cons_self ..)
        · exact Or.inl same
      · exact Or.inr (List.mem_cons_of_mem _ listed)
    · rcases ih unscaled run with same | listed
      · exact Or.inl same
      · exact Or.inr (List.mem_cons_of_mem _ listed)

theorem ofPositions_eq_ok {positions : List (Address × Fixed)} :
    ofPositions positions = .ok after ↔ openPositions positions empty = .ok () after := by
  unfold ofPositions
  cases openPositions positions empty with
  | ok done opened => simp
  | error failure left => exact iff_of_false nofun nofun

theorem defaultRealUnit_ofPositions {positions : List (Address × Fixed)} {opened : Ledger}
    (run : ofPositions positions = .ok opened) (asset : Address) :
    opened.defaultRealUnit asset = Fixed.zero ∨ (asset, opened.defaultRealUnit asset) ∈ positions :=
  defaultRealUnit_openPositions rfl (ofPositions_eq_ok.mp run) asset

end Ledger

end IndexBasket
