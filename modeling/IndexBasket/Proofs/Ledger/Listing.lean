import IndexBasket.Proofs.Ledger.Consistency

namespace IndexBasket

namespace Ledger

open IndexBasket.Action

variable {ledger after : Ledger} {component : Address} {unit virtualUnit : Fixed} {done : Unit}

/-! What the readings of a consistent ledger say about its tables. -/

theorem Consistent.attributed_iff (consistent : ledger.Consistent) :
    (∃ module, ledger.isExternalModule component module = true) ↔ component ∈ ledger.external := by
  constructor
  · rintro ⟨module, attributed⟩
    rw [Std.ExtTreeMap.mem_iff_isSome_getElem?, getElem?_external attributed]
    rfl
  · intro member
    obtain ⟨module, listed⟩ := List.exists_mem_of_ne_nil _ (consistent.modules_ne_nil member)
    exact ⟨module, isExternalModule_iff.mpr (((consistent.matched component).mem_iff module).mp listed)⟩

theorem Consistent.hasExternalPosition_iff (consistent : ledger.Consistent) :
    ledger.hasExternalPosition component = true ↔ component ∈ ledger.external := by
  rw [hasExternalPosition, externalModules_eq, Bool.not_eq_true', List.isEmpty_eq_false_iff]
  refine ⟨fun filled => ?_, consistent.modules_ne_nil⟩
  obtain ⟨module, listed⟩ := List.exists_mem_of_ne_nil _ filled
  exact consistent.attributed_iff.mp
    ⟨module, isExternalModule_iff.mpr (((consistent.matched component).mem_iff module).mp listed)⟩

/-- No stored unit reads as zero. -/
theorem Consistent.defaultRealUnit_eq_zero_iff (consistent : ledger.Consistent) :
    ledger.defaultRealUnit component = Fixed.zero ↔ component ∉ ledger.defaultUnits := by
  rw [Std.ExtTreeMap.mem_iff_isSome_getElem?, defaultRealUnit]
  cases found : ledger.defaultUnits[component]? with
  | none => exact iff_of_true rfl nofun
  | some virtualUnit =>
    refine iff_of_false (fun zero => ?_) fun absent => absent rfl
    have kept : (ledger.toReal virtualUnit).toInt.sign = virtualUnit.toInt.sign := consistent.signKept (.default found)
    rw [show ledger.toReal virtualUnit = Fixed.zero from zero] at kept
    exact consistent.default_ne_zero found (Fixed.ext (Int.sign_eq_zero_iff_zero.mp kept.symm))

/-! The list of components, while positions are only set as a whole. -/

/-- The components are those with a table entry, and no default unit is a debt. -/
structure Tracking (ledger : Ledger) : Prop extends Consistent ledger where
  default_pos : ∀ {component : Address} {virtualUnit : Fixed}, ledger.defaultUnits[component]? = some virtualUnit →
    0 < virtualUnit.toInt
  listed_iff : ∀ component : Address, component ∈ ledger.components ↔
    component ∈ ledger.defaultUnits ∨ component ∈ ledger.external

theorem tracking_empty : empty.Tracking where
  toConsistent := consistent_empty
  default_pos found := by
    rw [empty, Std.ExtTreeMap.getElem?_empty] at found
    cases found
  listed_iff component := by
    refine iff_of_false List.not_mem_nil ?_
    rintro (held | attributed)
    · exact Std.ExtTreeMap.not_mem_empty held
    · exact Std.ExtTreeMap.not_mem_empty attributed

/-- A default unit may be stored together with any list in which the other components
stand as before and this one stands if it is held or attributed. -/
theorem Tracking.withDefault (tracking : ledger.Tracking) (nonneg : 0 ≤ unit.toInt)
    (stored : ledger.toVirtual component unit = .ok virtualUnit) {components : List Address}
    (nodup : components.Nodup)
    (others : ∀ other, component ≠ other → (other ∈ components ↔ other ∈ ledger.components))
    (own : component ∈ components ↔ unit ≠ Fixed.zero ∨ component ∈ ledger.external) :
    Tracking ({ ledger with components }.withDefault component virtualUnit) where
  toConsistent := (tracking.withComponents nodup).withDefault component (signKept_toVirtual tracking.readable stored)
  default_pos found := by
    obtain ⟨above, _⟩ := toVirtual_sign tracking.readable nonneg stored
    rw [getElem?_withDefault] at found
    split at found
    · split at found
      · cases found
      · rename_i nonzero
        have positive : virtualUnit.toInt ≠ 0 := fun zero => nonzero (Fixed.ext zero)
        cases found
        omega
    · exact tracking.default_pos found
  listed_iff other := by
    rw [components_withDefault, external_withDefault, Std.ExtTreeMap.mem_iff_isSome_getElem?, getElem?_withDefault]
    by_cases same : component = other
    · obtain ⟨_, vanishes⟩ := toVirtual_sign tracking.readable nonneg stored
      rw [if_pos same, ← same, own, ne_eq, ← vanishes]
      by_cases zero : virtualUnit = Fixed.zero
      · rw [if_pos zero]
        exact or_congr_left (iff_of_false (fun nonzero => nonzero zero) nofun)
      · rw [if_neg zero]
        exact or_congr_left (iff_of_true zero rfl)
    · rw [if_neg same, ← Std.ExtTreeMap.mem_iff_isSome_getElem?]
      exact (others other same).trans (tracking.listed_iff other)

theorem Tracking.withNewDefault (tracking : ledger.Tracking) (nonneg : 0 ≤ unit.toInt) (nonzero : unit ≠ Fixed.zero)
    (stored : ledger.toVirtual component unit = .ok virtualUnit) (absent : component ∉ ledger.components) :
    Tracking ({ ledger with components := ledger.components ++ [component] }.withDefault component virtualUnit) := by
  refine tracking.withDefault nonneg stored (nodup_append_singleton tracking.nodup absent) (fun other different => ?_) ?_
  · rw [List.mem_append, List.mem_singleton, or_iff_left (Ne.symm different)]
  · exact iff_of_true List.mem_concat_self (Or.inl nonzero)

theorem Tracking.setDefaultPosition (tracking : ledger.Tracking) (nonneg : 0 ≤ unit.toInt)
    (run : setDefaultPosition component unit ledger = .ok done after) : after.Tracking := by
  obtain ⟨virtualUnit, components, stored, rfl, listing⟩ := setDefaultPosition_cases run
  have alone : ledger.hasExternalPosition component = false ↔ component ∉ ledger.external := by
    rw [← Bool.not_eq_true, tracking.hasExternalPosition_iff]
  rw [alone] at listing
  rcases listing with ⟨_, absent, positive, rfl⟩ | ⟨unattributed, _, zero, rfl⟩ | ⟨rfl, kept⟩
  · have nonzero : unit ≠ Fixed.zero := fun zero => by
      rw [zero] at positive
      exact absurd positive (by decide)
    exact tracking.withNewDefault nonneg nonzero stored absent
  · refine tracking.withDefault nonneg stored (tracking.nodup.erase component) (fun other different => ?_) ?_
    · exact List.mem_erase_of_ne (Ne.symm different)
    · exact iff_of_false tracking.nodup.not_mem_erase (not_or.mpr ⟨fun nonzero => nonzero zero, unattributed⟩)
  · refine tracking.withDefault nonneg stored tracking.nodup (fun other _ => Iff.rfl) ?_
    by_cases attributed : component ∈ ledger.external
    · exact iff_of_true ((tracking.listed_iff component).mpr (Or.inr attributed)) (Or.inr attributed)
    · obtain ⟨unlisted, listed⟩ := kept attributed
      rw [or_iff_left attributed]
      refine ⟨listed, fun nonzero => ?_⟩
      by_contra absent
      have below := unlisted absent
      exact nonzero (Fixed.ext (show unit.toInt = 0 by omega))

/-- An entry is put into the table of a component that is listed with it. -/
theorem Tracking.withEntry (tracking : ledger.Tracking) (component module : Address) {entry : Attribution}
    (kept : ledger.SignKept entry.virtualUnit) :
    Tracking ((ledger.enlist component).withEntry component module entry) where
  toConsistent := (tracking.enlist component).withEntry component module (by
    unfold SignKept
    rw [toReal_congr (multiplier_enlist ledger component)]
    exact kept)
  default_pos found := by
    rw [Ledger.withEntry, defaultUnits_enlist] at found
    exact tracking.default_pos found
  listed_iff other := by
    rw [Ledger.withEntry]
    dsimp only
    rw [mem_components_enlist, defaultUnits_enlist, external_enlist, Std.ExtTreeMap.mem_insert,
      Std.LawfulEqCmp.compare_eq_iff_eq, tracking.listed_iff, or_left_comm]

/-- A component goes with its last position, and not before. -/
theorem Tracking.withoutPosition (tracking : ledger.Tracking) {component module : Address}
    (attributed : ledger.isExternalModule component module = true) :
    (ledger.withoutPosition component module).Tracking := by
  have consistent := tracking.toConsistent.withoutEntry component module
  have listed : component ∈ ledger.components :=
    (tracking.listed_iff component).mpr (Or.inr (tracking.attributed_iff.mp ⟨module, attributed⟩))
  have others : ∀ other, component ≠ other → (other ∈ ledger.components ↔
      other ∈ ledger.defaultUnits ∨ other ∈ (ledger.withoutEntry component module).external) := fun other different => by
    rw [mem_external_withoutEntry, if_neg different, tracking.listed_iff]
  have nothing : (!(ledger.withoutEntry component module).hasExternalPosition component &&
      (ledger.withoutEntry component module).defaultRealUnit component = Fixed.zero) = true ↔
      ¬(component ∈ ledger.defaultUnits ∨ component ∈ (ledger.withoutEntry component module).external) := by
    rw [Bool.and_eq_true, Bool.not_eq_true', ← Bool.not_eq_true, consistent.hasExternalPosition_iff,
      decide_eq_true_eq, consistent.defaultRealUnit_eq_zero_iff, not_or, and_comm]
    rfl
  unfold Ledger.withoutPosition
  dsimp only
  split
  · rename_i dropped
    refine ⟨consistent.erase component, tracking.default_pos, fun other => ?_⟩
    by_cases same : component = other
    · rw [← same]
      exact iff_of_false tracking.nodup.not_mem_erase (nothing.mp dropped)
    · exact (List.mem_erase_of_ne (Ne.symm same)).trans (others other same)
  · rename_i kept
    refine ⟨consistent, tracking.default_pos, fun other => ?_⟩
    by_cases same : component = other
    · rw [← same]
      exact iff_of_true listed (Decidable.not_not.mp fun none => kept (nothing.mpr none))
    · exact others other same

theorem Tracking.setExternalPosition (tracking : ledger.Tracking) {module : Address} {data : List UInt8}
    (run : setExternalPosition component module unit data ledger = .ok done after) : after.Tracking := by
  obtain ⟨virtualUnit, stored, rfl⟩ | ⟨attributed, rfl⟩ | rfl := setExternalPosition_cases run
  · exact tracking.withEntry component module (signKept_toVirtual tracking.readable stored)
  · exact tracking.withoutPosition attributed
  · exact tracking

/-- The edits that set a position as a whole, none of them to a debt of the basket
itself, and the rescaling of all positions. -/
def Edit.SetsPosition : Edit → Prop
  | .defaultPosition _ unit => 0 ≤ unit.toInt
  | .externalPosition .. => True
  | .rescale _ => True
  | _ => False

theorem Tracking.edit (tracking : ledger.Tracking) {edit : Edit} (sets : edit.SetsPosition)
    (run : edit.apply ledger = .ok done after) : after.Tracking := by
  cases edit with
  | defaultPosition => exact tracking.setDefaultPosition sets run
  | externalPosition => exact tracking.setExternalPosition run
  | rescale =>
    obtain ⟨passed, rfl⟩ := setMultiplier_eq_ok.mp run
    exact ⟨tracking.rescaled passed, tracking.default_pos, tracking.listed_iff⟩
  | _ => exact sets.elim

theorem moves_edit_tracking {edit : Edit} (sets : edit.SetsPosition) : Moves (Preserves Tracking) edit.apply :=
  (failsInPlace_edit edit).moves fun run tracking => tracking.edit sets run

theorem Tracking.openPositions {positions : List (Address × Fixed)}
    (nonneg : ∀ position ∈ positions, 0 ≤ position.2.toInt) (tracking : ledger.Tracking)
    (run : openPositions positions ledger = .ok done after) : after.Tracking := by
  induction positions generalizing ledger with
  | nil =>
    obtain ⟨_, rfl⟩ := pure_eq_ok.mp run
    exact tracking
  | cons position rest ih =>
    obtain ⟨component, unit⟩ := position
    obtain ⟨first, others⟩ := List.forall_mem_cons.mp nonneg
    simp only [Ledger.openPositions, get_bind, guard_bind_eq_ok] at run
    obtain ⟨unlisted, run⟩ := run
    split at run
    · rename_i nonzero
      simp only [bind_eq_ok, addComponent_eq_ok, setDefaultUnit_eq_ok] at run
      obtain ⟨_, _, ⟨_, rfl⟩, _, _, ⟨virtualUnit, stored, rfl⟩, run⟩ := run
      have absent : component ∉ ledger.components := fun member => unlisted (List.contains_iff_mem.mpr member)
      exact ih others (tracking.withNewDefault first nonzero stored absent) run
    · exact ih others tracking run

/-- The ledgers on which positions have only been set as a whole: empty or opened
without debts, and edited since by such edits, of which some may have failed. -/
inductive Positioned : Ledger → Prop
  | empty : Positioned empty
  | opened {ledger : Ledger} (positions : List (Address × Fixed))
      (nonneg : ∀ position ∈ positions, 0 ≤ position.2.toInt) (run : ofPositions positions = .ok ledger) :
      Positioned ledger
  | edit {ledger : Ledger} (positioned : Positioned ledger) (edit : Edit) (sets : edit.SetsPosition) :
      Positioned (edit.apply.final ledger)

theorem Positioned.tracking (positioned : ledger.Positioned) : ledger.Tracking := by
  induction positioned with
  | empty => exact tracking_empty
  | opened positions nonneg run => exact tracking_empty.openPositions nonneg (ofPositions_eq_ok.mp run)
  | edit _ edit sets ih => exact moves_edit_tracking sets _ ih

/-- A component is listed once while the basket holds some of it or a module has a
position in it, and is not listed otherwise. -/
theorem Positioned.count_components (positioned : ledger.Positioned) (component : Address) :
    (0 < (ledger.defaultRealUnit component).toInt ∨ (∃ module, ledger.isExternalModule component module = true) →
      ledger.components.count component = 1) ∧
    (¬(0 < (ledger.defaultRealUnit component).toInt ∨ ∃ module, ledger.isExternalModule component module = true) →
      ledger.components.count component = 0) := by
  have tracking := positioned.tracking
  have held : 0 < (ledger.defaultRealUnit component).toInt ↔ component ∈ ledger.defaultUnits := by
    rw [Std.ExtTreeMap.mem_iff_isSome_getElem?, defaultRealUnit]
    cases found : ledger.defaultUnits[component]? with
    | none => exact iff_of_false (Int.lt_irrefl 0) nofun
    | some virtualUnit =>
      have kept : (ledger.toReal virtualUnit).toInt.sign = virtualUnit.toInt.sign := tracking.signKept (.default found)
      rw [Int.sign_eq_one_of_pos (tracking.default_pos found), Int.sign_eq_one_iff_pos] at kept
      exact iff_of_true kept rfl
  rw [held, tracking.attributed_iff, ← tracking.listed_iff]
  exact ⟨List.count_eq_one_of_mem tracking.nodup, List.count_eq_zero_of_not_mem⟩

theorem Positioned.count_components_attributed :
    let dai : Address := ⟨"dai", by decide, by decide⟩
    let lender : Address := ⟨"lender", by decide, by decide⟩
    let ledger := (Edit.defaultPosition dai Fixed.zero).apply.final
      ((Edit.rescale (Fixed.ofInt 400_000_000_000_000_000)).apply.final
        ((Edit.externalPosition dai lender (Fixed.ofInt (-1)) []).apply.final
          ((Edit.defaultPosition dai (Fixed.ofInt 5)).apply.final Ledger.empty)))
    ledger.Positioned ∧ ledger.defaultRealUnit dai = Fixed.zero ∧ ledger.isExternalModule dai lender = true ∧
      ledger.components.count dai = 1 ∧ ledger.components.count lender = 0 := by
  intro dai lender ledger
  have bought : Edit.SetsPosition (.defaultPosition dai (Fixed.ofInt 5)) := show 0 ≤ (5 : Int) by decide
  have lent : Edit.SetsPosition (.externalPosition dai lender (Fixed.ofInt (-1)) []) := trivial
  have rescaled : Edit.SetsPosition (.rescale (Fixed.ofInt 400_000_000_000_000_000)) := trivial
  have sold : Edit.SetsPosition (.defaultPosition dai Fixed.zero) := Int.le_refl 0
  have positioned : ledger.Positioned := .edit (.edit (.edit (.edit .empty _ bought) _ lent) _ rescaled) _ sold
  have attributed : ledger.isExternalModule dai lender = true := by decide +kernel
  have untouched : ¬(0 < (ledger.defaultRealUnit lender).toInt ∨ ∃ module, ledger.isExternalModule lender module = true) := by
    rw [positioned.tracking.attributed_iff]
    exact not_or.mpr ⟨by decide +kernel, by decide +kernel⟩
  exact ⟨positioned, by decide +kernel, attributed, (positioned.count_components dai).1 (Or.inr ⟨lender, attributed⟩),
    (positioned.count_components lender).2 untouched⟩

end Ledger

end IndexBasket
