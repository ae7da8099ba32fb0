import IndexBasket.Proofs.Ledger.Multiplier
import IndexBasket.Proofs.Ledger.UnitEdit

namespace IndexBasket

namespace Ledger

open IndexBasket.Action

variable {ledger after : Ledger} {component module : Address} {unit virtualUnit : Fixed} {done : Unit}

theorem stores_enlist (stores : (ledger.enlist component).Stores virtualUnit) : ledger.Stores virtualUnit := by
  unfold enlist at stores
  split at stores
  · exact stores
  · exact stores_withComponents stores

theorem stores_withoutPosition (stores : (ledger.withoutPosition component module).Stores virtualUnit) :
    ledger.Stores virtualUnit := by
  unfold withoutPosition at stores
  dsimp only at stores
  split at stores
  · exact stores_withoutEntry (stores_withComponents stores)
  · exact stores_withoutEntry stores

/-- Where a unit that a ledger stores after an edit comes from. -/
inductive Provenance (ledger : Ledger) (virtualUnit : Fixed) : Prop
  | kept (stores : ledger.Stores virtualUnit)
  | empty (zero : virtualUnit = Fixed.zero)
  | converted (component : Address) {unit : Fixed} (stored : ledger.toVirtual component unit = .ok virtualUnit)

theorem provenance_edit {edit : Edit} (run : edit.apply ledger = .ok done after) (stores : after.Stores virtualUnit) :
    ledger.Provenance virtualUnit := by
  cases edit with
  | addComponent component =>
    obtain ⟨_, rfl⟩ := addComponent_eq_ok.mp run
    exact .kept (stores_withComponents stores)
  | removeComponent component =>
    obtain ⟨_, rfl⟩ := removeComponent_eq_ok.mp run
    exact .kept (stores_withComponents stores)
  | defaultUnit component unit =>
    obtain ⟨new, stored, rfl⟩ := setDefaultUnit_eq_ok.mp run
    rcases stores_withDefault stores with rfl | before
    · exact .converted component stored
    · exact .kept before
  | defaultPosition component unit =>
    obtain ⟨new, components, stored, rfl⟩ := setDefaultPosition_eq_ok run
    rcases stores_withDefault stores with rfl | before
    · exact .converted component stored
    · exact .kept (stores_withComponents before)
  | addAttribution component module =>
    obtain ⟨_, rfl⟩ := addAttribution_eq_ok.mp run
    rcases stores_withEntry stores with rfl | before
    · exact .empty rfl
    · exact .kept before
  | removeAttribution component module =>
    obtain ⟨_, rfl⟩ := removeAttribution_eq_ok.mp run
    exact .kept (stores_withoutEntry stores)
  | externalUnit component module unit =>
    obtain ⟨new, entry, stored, _, rfl⟩ := setExternalUnit_eq_ok.mp run
    rcases stores_withEntry stores with rfl | before
    · exact .converted component stored
    · exact .kept before
  | externalData component module data =>
    obtain ⟨entry, found, rfl⟩ := setExternalData_eq_ok.mp run
    rcases stores_withEntry stores with rfl | before
    · have entered : ledger.Stores entry.virtualUnit := .attributed found
      exact .kept entered
    · exact .kept before
  | externalPosition component module unit data =>
    obtain ⟨new, stored, rfl⟩ | ⟨_, rfl⟩ | rfl := setExternalPosition_cases run
    · rcases stores_withEntry stores with rfl | before
      · exact .converted component stored
      · exact .kept (stores_enlist before)
    · exact .kept (stores_withoutPosition stores)
    · exact .kept stores
  | rescale multiplier =>
    obtain ⟨_, rfl⟩ := setMultiplier_eq_ok.mp run
    exact .kept (stores_rescaled.mp stores)

/-- The product of a unit and the multiplier is below the upper end of the range, and one
virtual unit more would be above the lower end. -/
def Spans (ledger : Ledger) (virtualUnit : Fixed) : Prop :=
  virtualUnit.toInt * ledger.multiplier.toInt < 2 ^ 127 * 10 ^ 18 ∧
    -2 ^ 127 * 10 ^ 18 < (virtualUnit.toInt + 1) * ledger.multiplier.toInt

theorem spans_toVirtual (readable : ledger.Readable) (stored : ledger.toVirtual component unit = .ok virtualUnit) :
    ledger.Spans virtualUnit := by
  have value := toVirtual_value readable stored
  have least := unit.ge_min
  have most := unit.le_max
  have below := Int.ediv_mul_le (unit.toInt * 10 ^ 18) readable.ne'
  have above := Int.lt_ediv_add_one_mul_self (unit.toInt * 10 ^ 18) readable
  rw [← value] at below above
  exact ⟨by omega, by omega⟩

theorem spans_zero (readable : ledger.Readable) : ledger.Spans Fixed.zero := by
  unfold Readable at readable
  refine ⟨?_, ?_⟩
  · rw [show Fixed.zero.toInt = 0 from rfl, Int.zero_mul]
    decide
  · rw [show Fixed.zero.toInt = 0 from rfl, Int.zero_add, Int.one_mul]
    omega

/-- A product that is within the range spans it all the more. -/
theorem spans_of_product (readable : ledger.Readable)
    (least : -2 ^ 127 ≤ virtualUnit.toInt * ledger.multiplier.toInt / 10 ^ 18)
    (most : virtualUnit.toInt * ledger.multiplier.toInt / 10 ^ 18 ≤ 2 ^ 127 - 1) : ledger.Spans virtualUnit := by
  unfold Readable at readable
  refine ⟨by omega, ?_⟩
  rw [Int.add_mul, Int.one_mul]
  omega

/-- Every stored unit spans the range at the multiplier. -/
structure Spanning (ledger : Ledger) : Prop where
  readable : ledger.Readable
  spans : ∀ {virtualUnit : Fixed}, ledger.Stores virtualUnit → ledger.Spans virtualUnit

theorem Spanning.edit (spanning : ledger.Spanning) {edit : Edit} (run : edit.apply ledger = .ok done after) :
    after.Spanning where
  readable := spanning.readable.edit run
  spans {virtualUnit} stores := by
    by_cases rescales : ∃ multiplier, edit = .rescale multiplier
    · obtain ⟨multiplier, rfl⟩ := rescales
      have taken : setMultiplier multiplier ledger = .ok done after := run
      obtain ⟨_, rfl⟩ := setMultiplier_eq_ok.mp taken
      obtain ⟨worth, fitting⟩ := setMultiplier_fitting_iff.mp taken
      obtain ⟨least, most, _⟩ := product_of_fitting worth fitting (stores_rescaled.mp stores)
      exact spans_of_product (spanning.readable.edit run) least most
    · have same := multiplier_edit (fun multiplier equal => rescales ⟨multiplier, equal⟩) run
      unfold Spans
      rw [same]
      cases provenance_edit run stores with
      | kept before => exact spanning.spans before
      | empty zero => exact zero ▸ spans_zero spanning.readable
      | converted component stored => exact spans_toVirtual spanning.readable stored

theorem moves_edit_spanning (edit : Edit) : Moves (Preserves Spanning) edit.apply :=
  (failsInPlace_edit edit).moves fun run spanning => spanning.edit run

theorem spanning_empty : empty.Spanning where
  readable := readable_empty
  spans stores := absurd stores not_stores_empty

theorem Built.spanning (built : ledger.Built) : ledger.Spanning :=
  built.keeps moves_edit_spanning spanning_empty

/-! What is read as the unit of a component. -/

theorem stores_defaultVirtualUnit (ledger : Ledger) (component : Address) :
    ledger.defaultVirtualUnit component = Fixed.zero ∨ ledger.Stores (ledger.defaultVirtualUnit component) := by
  rw [defaultVirtualUnit, Std.ExtTreeMap.getD_eq_getD_getElem?]
  cases found : ledger.defaultUnits[component]? with
  | none => exact Or.inl rfl
  | some virtualUnit => exact Or.inr (.default found)

theorem defaultRealUnit_eq_toReal (ledger : Ledger) (component : Address) :
    ledger.defaultRealUnit component = ledger.toReal (ledger.defaultVirtualUnit component) := by
  rw [defaultRealUnit, defaultVirtualUnit, Std.ExtTreeMap.getD_eq_getD_getElem?]
  cases ledger.defaultUnits[component]? with
  | none => exact (toReal_zero ledger).symm
  | some virtualUnit => rfl

theorem Spanning.defaultRealUnit (spanning : ledger.Spanning) (component : Address) :
    (ledger.defaultRealUnit component).toInt =
      max (-2 ^ 127) ((ledger.defaultVirtualUnit component).toInt * ledger.multiplier.toInt / 10 ^ 18) := by
  have spans : ledger.Spans (ledger.defaultVirtualUnit component) := by
    rcases stores_defaultVirtualUnit ledger component with zero | stores
    · rw [zero]
      exact spans_zero spanning.readable
    · exact spanning.spans stores
  have below := spans.1
  rw [defaultRealUnit_eq_toReal, toReal_eq_max spanning.readable (by omega)]

/-- A multiplier that is taken leaves every unit within the range. -/
theorem defaultRealUnit_setMultiplier {multiplier : Fixed} (run : setMultiplier multiplier ledger = .ok done after)
    (component : Address) :
    (after.defaultRealUnit component).toInt =
      (ledger.defaultVirtualUnit component).toInt * multiplier.toInt / 10 ^ 18 := by
  obtain ⟨_, rfl⟩ := setMultiplier_eq_ok.mp run
  obtain ⟨worth, fitting⟩ := setMultiplier_fitting_iff.mp run
  rw [defaultRealUnit_eq_toReal]
  change (toReal { ledger with multiplier } (ledger.defaultVirtualUnit component)).toInt = _
  rcases stores_defaultVirtualUnit ledger component with zero | stores
  · rw [zero, toReal_zero, show Fixed.zero.toInt = 0 from rfl, Int.zero_mul, Int.zero_ediv]
  · obtain ⟨least, most, _⟩ := product_of_fitting worth fitting stores
    exact toReal_toInt least most

/-! The one unit of which the product falls out of the range. -/

/-- A product below the range leaves room for one virtual unit only, the one that stands
for the least quantity, and only where the multiplier does not divide that. -/
theorem Spans.below_iff (readable : ledger.Readable) (spans : ledger.Spans virtualUnit) :
    virtualUnit.toInt * ledger.multiplier.toInt / 10 ^ 18 < -2 ^ 127 ↔
      virtualUnit.toInt = -(2 ^ 127 * 10 ^ 18) / ledger.multiplier.toInt ∧
        ¬ledger.multiplier.toInt ∣ 2 ^ 127 * 10 ^ 18 := by
  have above := spans.2
  rw [Int.add_mul, Int.one_mul] at above
  constructor
  · intro below
    have value : -(2 ^ 127 * 10 ^ 18) / ledger.multiplier.toInt = virtualUnit.toInt := by
      rw [Int.ediv_eq_iff_of_pos readable]
      omega
    refine ⟨value.symm, fun divides => ?_⟩
    have whole := Int.ediv_mul_cancel (Int.dvd_neg.mpr divides)
    rw [value] at whole
    omega
  · rintro ⟨value, indivisible⟩
    have below := Int.ediv_mul_le (-(2 ^ 127 * 10 ^ 18)) readable.ne'
    rw [← value] at below
    have inexact : virtualUnit.toInt * ledger.multiplier.toInt ≠ -(2 ^ 127 * 10 ^ 18) := fun whole =>
      indivisible (Int.dvd_neg.mp (Dvd.intro_left virtualUnit.toInt whole))
    omega

theorem least_scaled : Fixed.least.toInt * 10 ^ 18 = -(2 ^ 127 * 10 ^ 18) := by decide

/-- The least quantity has a virtual unit wherever the multiplier is one at least. -/
theorem toVirtual_least_iff (readable : ledger.Readable) :
    (∃ virtualUnit, ledger.toVirtual component Fixed.least = .ok virtualUnit) ↔ 10 ^ 18 ≤ ledger.multiplier.toInt := by
  have fits : -2 ^ 127 ≤ -(2 ^ 127 * 10 ^ 18) / ledger.multiplier.toInt ↔ 10 ^ 18 ≤ ledger.multiplier.toInt := by
    rw [Int.le_ediv_iff_mul_le readable]
    omega
  constructor
  · rintro ⟨virtualUnit, stored⟩
    have value := toVirtual_value readable stored
    have least := virtualUnit.ge_min
    rw [value, least_scaled] at least
    exact fits.mp least
  · intro large
    cases run : ledger.toVirtual component Fixed.least with
    | ok virtualUnit => exact ⟨virtualUnit, rfl⟩
    | error failure =>
      exfalso
      rcases toVirtual_eq_error.mp run with ⟨none, _⟩ | ⟨_, _, _, rfl⟩
      · have most : -(2 ^ 127 * 10 ^ 18) / ledger.multiplier.toInt ≤ 2 ^ 127 - 1 := by
          have negative : -(2 ^ 127 * 10 ^ 18) / ledger.multiplier.toInt < 0 := Int.ediv_neg_of_neg_of_pos (by decide) readable
          omega
        have found : Fixed.least.preciseDiv ledger.multiplier = some ⟨_, fits.mpr large, most⟩ :=
          (Fixed.preciseDiv_eq_some readable).mpr (by rw [least_scaled])
        rw [none] at found
        cases found
      · obtain ⟨_, positive, _⟩ := (toVirtual_invalid_iff readable).mp run
        exact absurd positive (by decide)

theorem stores_withDefault_self (nonzero : virtualUnit ≠ Fixed.zero) :
    (ledger.withDefault component virtualUnit).Stores virtualUnit := by
  have found : (ledger.withDefault component virtualUnit).defaultUnits[component]? = some virtualUnit := by
    rw [getElem?_withDefault, if_pos rfl, if_neg nonzero]
  exact .default found

/-- To set a unit to the least quantity takes the product below the range under every
multiplier of one at least that does not divide the scaled lower end. -/
theorem Spanning.below_least_iff (spanning : ledger.Spanning) :
    (∃ after virtualUnit, setDefaultUnit component Fixed.least ledger = .ok () after ∧
        after.Stores virtualUnit ∧ virtualUnit.toInt * after.multiplier.toInt / 10 ^ 18 < -2 ^ 127) ↔
      10 ^ 18 ≤ ledger.multiplier.toInt ∧ ¬ledger.multiplier.toInt ∣ 2 ^ 127 * 10 ^ 18 := by
  have readable := spanning.readable
  constructor
  · rintro ⟨after, virtualUnit, run, stores, below⟩
    have applied : (Edit.defaultUnit component Fixed.least).apply ledger = .ok () after := run
    have kept := spanning.edit applied
    have indivisible := (((kept.spans stores).below_iff kept.readable).mp below).2
    obtain ⟨new, stored, rfl⟩ := setDefaultUnit_eq_ok.mp run
    rw [multiplier_withDefault] at indivisible
    exact ⟨(toVirtual_least_iff readable).mp ⟨new, stored⟩, indivisible⟩
  · rintro ⟨large, indivisible⟩
    obtain ⟨virtualUnit, stored⟩ := (toVirtual_least_iff readable).mpr large
    have value := toVirtual_value readable stored
    rw [least_scaled] at value
    have below := ((spans_toVirtual readable stored).below_iff readable).mpr ⟨value, indivisible⟩
    have nonzero : virtualUnit ≠ Fixed.zero := fun zero => by
      rw [zero, show Fixed.zero.toInt = 0 from rfl, Int.zero_mul] at below
      exact absurd below (by decide)
    refine ⟨_, virtualUnit, setDefaultUnit_eq_ok.mpr ⟨virtualUnit, stored, rfl⟩, stores_withDefault_self nonzero, ?_⟩
    rw [multiplier_withDefault]
    exact below

/-- How far the product of a stored unit and the multiplier may go, however the ledger has
been edited: never past the upper end of the range, and past the lower end for one virtual
unit only, by the multiplier rounded up at most, if the multiplier does not divide the
scaled end. Then the unit is read as the end itself. Under such a multiplier, unless it is
below one, it is enough to set a unit to the least quantity. -/
theorem Built.stored_range (built : ledger.Built) :
    (∀ virtualUnit, ledger.Stores virtualUnit →
      virtualUnit.toInt * ledger.multiplier.toInt / 10 ^ 18 ≤ 2 ^ 127 - 1 ∧
        (virtualUnit.toInt * ledger.multiplier.toInt / 10 ^ 18 < -2 ^ 127 ↔
          virtualUnit.toInt = -(2 ^ 127 * 10 ^ 18) / ledger.multiplier.toInt ∧
            ¬ledger.multiplier.toInt ∣ 2 ^ 127 * 10 ^ 18) ∧
        -2 ^ 127 - (ledger.multiplier.toInt + (10 ^ 18 - 1)) / 10 ^ 18 ≤
          virtualUnit.toInt * ledger.multiplier.toInt / 10 ^ 18 ∧
        (ledger.toReal virtualUnit).toInt =
          max (-2 ^ 127) (virtualUnit.toInt * ledger.multiplier.toInt / 10 ^ 18)) ∧
    ∀ component, (∃ after virtualUnit, setDefaultUnit component Fixed.least ledger = .ok () after ∧
        after.Stores virtualUnit ∧ virtualUnit.toInt * after.multiplier.toInt / 10 ^ 18 < -2 ^ 127) ↔
      10 ^ 18 ≤ ledger.multiplier.toInt ∧ ¬ledger.multiplier.toInt ∣ 2 ^ 127 * 10 ^ 18 := by
  have spanning := built.spanning
  refine ⟨fun virtualUnit stores => ?_, fun component => spanning.below_least_iff⟩
  have spans := spanning.spans stores
  have below := spans.1
  have above := spans.2
  rw [Int.add_mul, Int.one_mul] at above
  have most : virtualUnit.toInt * ledger.multiplier.toInt / 10 ^ 18 ≤ 2 ^ 127 - 1 := by omega
  exact ⟨most, spans.below_iff spanning.readable, by omega, toReal_eq_max spanning.readable most⟩

/-- The least quantity of an asset, set at a multiplier of one and a half. -/
def leastHeld (component : Address) : Ledger :=
  (Edit.defaultUnit component Fixed.least).apply.final
    ((Edit.rescale (Fixed.ofInt 1_500_000_000_000_000_000)).apply.final Ledger.empty)

theorem built_leastHeld (component : Address) : (leastHeld component).Built := .edit (.edit .empty _) _

/-- What is stored for it passes the lower end of the range by one. -/
theorem stores_leastHeld (component : Address) :
    ∃ virtualUnit, (leastHeld component).Stores virtualUnit ∧
      virtualUnit.toInt * (leastHeld component).multiplier.toInt / 10 ^ 18 = -2 ^ 127 - 1 := by
  unfold leastHeld
  have multiplier : ((Edit.rescale (Fixed.ofInt 1_500_000_000_000_000_000)).apply.final Ledger.empty).multiplier =
      Fixed.ofInt 1_500_000_000_000_000_000 := by decide +kernel
  generalize (Edit.rescale (Fixed.ofInt 1_500_000_000_000_000_000)).apply.final Ledger.empty = ledger at multiplier ⊢
  have readable : ledger.Readable := by
    rw [Readable, multiplier]
    decide
  have large : 10 ^ 18 ≤ ledger.multiplier.toInt := by
    rw [multiplier]
    decide
  obtain ⟨virtualUnit, stored⟩ : ∃ virtualUnit, ledger.toVirtual component Fixed.least = .ok virtualUnit :=
    (toVirtual_least_iff readable).mpr large
  have value := toVirtual_value readable stored
  rw [multiplier] at value
  have nonzero : virtualUnit ≠ Fixed.zero := fun zero => by
    rw [zero] at value
    exact absurd value (by decide)
  have set : (Edit.defaultUnit component Fixed.least).apply ledger = .ok () (ledger.withDefault component virtualUnit) :=
    setDefaultUnit_eq_ok.mpr ⟨virtualUnit, stored, rfl⟩
  rw [final_of_ok set]
  refine ⟨virtualUnit, stores_withDefault_self nonzero, ?_⟩
  rw [multiplier_withDefault, multiplier, value]
  decide

theorem Built.stored_range_least :
    let dai : Address := ⟨"dai", by decide, by decide⟩
    (leastHeld dai).Built ∧ ∃ virtualUnit, (leastHeld dai).Stores virtualUnit ∧
      virtualUnit.toInt * (leastHeld dai).multiplier.toInt / 10 ^ 18 = -2 ^ 127 - 1 ∧
      ((leastHeld dai).toReal virtualUnit).toInt = -2 ^ 127 := by
  intro dai
  have built := built_leastHeld dai
  obtain ⟨virtualUnit, stores, product⟩ := stores_leastHeld dai
  have read := (built.stored_range.1 virtualUnit stores).2.2.2
  rw [product] at read
  exact ⟨built, virtualUnit, stores, product, read⟩

/-- Not every stored unit is read without being cut. -/
theorem stored_below_range :
    ¬∀ ledger : Ledger, ledger.Built → ∀ virtualUnit, ledger.Stores virtualUnit →
      -2 ^ 127 ≤ virtualUnit.toInt * ledger.multiplier.toInt / 10 ^ 18 ∧
        virtualUnit.toInt * ledger.multiplier.toInt / 10 ^ 18 ≤ 2 ^ 127 - 1 := by
  intro within
  have built := built_leastHeld ⟨"dai", by decide, by decide⟩
  obtain ⟨virtualUnit, stores, product⟩ := stores_leastHeld ⟨"dai", by decide, by decide⟩
  have least := (within _ built virtualUnit stores).1
  omega

end Ledger

end IndexBasket
