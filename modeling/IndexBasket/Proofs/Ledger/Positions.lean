import IndexBasket.Proofs.Ledger.Listing

namespace IndexBasket

namespace Ledger

open IndexBasket.Action

variable {ledger after : Ledger} {component : Address} {position : Position} {unit : Fixed} {done : Unit}

/-! The list of positions. -/

theorem defaultPosition?_eq_some :
    ledger.defaultPosition? component = some position ↔
      ledger.defaultRealUnit component ≠ Fixed.zero ∧
        position = ⟨component, none, ledger.defaultRealUnit component, .default, []⟩ := by
  unfold defaultPosition?
  dsimp only
  split
  · rename_i zero
    exact iff_of_false nofun fun held => held.1 zero
  · rename_i nonzero
    rw [Option.some.injEq, eq_comm, and_iff_right nonzero]

/-- The positions that modules have in a component are their entries, one for each
module of its list. -/
theorem mem_externalPositions :
    position ∈ ledger.externalPositions component ↔
      ∃ module ∈ ledger.externalModules component, ∃ entry, ledger.attribution? component module = some entry ∧
        position = ⟨component, some module, ledger.toReal entry.virtualUnit, .external, entry.data⟩ := by
  unfold externalPositions externalModules attribution?
  cases table : ledger.external[component]? with
  | none => exact iff_of_false List.not_mem_nil fun ⟨_, listed, _⟩ => List.not_mem_nil listed
  | some attributions =>
    simp only [List.mem_filterMap, Option.map_eq_some_iff, Option.bind_some, eq_comm (a := position)]

theorem of_mem_externalPositions (member : position ∈ ledger.externalPositions component) :
    position.component = component ∧ position.state = .external := by
  obtain ⟨module, _, entry, _, rfl⟩ := mem_externalPositions.mp member
  exact ⟨rfl, rfl⟩

/-- A position is of a listed component, and it is the one of the basket itself or one
that a module has. -/
theorem mem_positions :
    position ∈ ledger.positions ↔ position.component ∈ ledger.components ∧
      (ledger.defaultPosition? position.component = some position ∨
        position ∈ ledger.externalPositions position.component) := by
  unfold positions
  simp only [List.mem_flatMap, List.mem_append, Option.mem_toList]
  constructor
  · rintro ⟨component, listed, held⟩
    have own : position.component = component := by
      rcases held with default | external
      · rw [(defaultPosition?_eq_some.mp default).2]
      · exact (of_mem_externalPositions external).1
    rw [own]
    exact ⟨listed, held⟩
  · rintro ⟨listed, held⟩
    exact ⟨position.component, listed, held⟩

/-- A position of the basket itself has the unit that is read for its component. -/
theorem unit_of_mem_positions (member : position ∈ ledger.positions) (own : position.state = .default) :
    position.unit = ledger.defaultRealUnit position.component := by
  rcases (mem_positions.mp member).2 with default | external
  · rw [(defaultPosition?_eq_some.mp default).2]
  · rw [(of_mem_externalPositions external).2] at own
    cases own

/-- Among the positions are those of modules exactly where a module has one in a listed
component. One in a component that is not listed is not among them. -/
theorem Consistent.external_mem_positions (consistent : ledger.Consistent) :
    (∃ position ∈ ledger.positions, position.state = .external) ↔
      ∃ component ∈ ledger.components, ledger.hasExternalPosition component = true := by
  simp only [hasExternalPosition, Bool.not_eq_true', List.isEmpty_eq_false_iff]
  constructor
  · rintro ⟨position, member, external⟩
    obtain ⟨listed, default | attributed⟩ := mem_positions.mp member
    · rw [(defaultPosition?_eq_some.mp default).2] at external
      cases external
    · obtain ⟨module, named, _⟩ := mem_externalPositions.mp attributed
      exact ⟨position.component, listed, List.ne_nil_of_mem named⟩
  · rintro ⟨component, listed, filled⟩
    obtain ⟨module, named⟩ := List.exists_mem_of_ne_nil _ filled
    have entered : ledger.isExternalModule component module = true := by
      rw [isExternalModule_iff, ← (consistent.matched component).mem_iff, ← externalModules_eq]
      exact named
    obtain ⟨entry, found⟩ := Option.isSome_iff_exists.mp entered
    have attributed := mem_externalPositions.mpr ⟨module, named, entry, found, rfl⟩
    exact ⟨_, mem_positions.mpr ⟨listed, Or.inr attributed⟩, rfl⟩

theorem defaultPosition_mem_positions (held : ledger.defaultRealUnit component ≠ Fixed.zero) :
    (⟨component, none, ledger.defaultRealUnit component, .default, []⟩ : Position) ∈ ledger.positions ↔
      component ∈ ledger.components := by
  rw [mem_positions]
  exact and_iff_left (Or.inl (defaultPosition?_eq_some.mpr ⟨held, rfl⟩))

/-! What setting a default position does to the lists. -/

theorem defaultRealUnit_pos (readable : ledger.Readable) (positive : 0 < unit.toInt)
    (run : setDefaultPosition component unit ledger = .ok done after) :
    0 < (after.defaultRealUnit component).toInt := by
  obtain ⟨virtualUnit, components, stored, rfl⟩ := setDefaultPosition_eq_ok run
  obtain ⟨nonneg, vanishes⟩ := toVirtual_sign readable positive.le stored
  have kept : (ledger.toReal virtualUnit).toInt.sign = virtualUnit.toInt.sign := signKept_toVirtual readable stored
  have nonzero : virtualUnit.toInt ≠ 0 := fun zero => by
    rw [vanishes.mp (Fixed.ext zero)] at positive
    exact absurd positive (by decide)
  have read : toReal { ledger with components } virtualUnit = ledger.toReal virtualUnit := toReal_congr rfl virtualUnit
  rw [defaultRealUnit_withDefault, if_pos rfl, read, ← Int.sign_eq_one_iff_pos, kept]
  exact Int.sign_eq_one_of_pos (by omega)

/-- A positive unit lists its component, unless a module is attributed to it: then it
is taken for listed. -/
theorem mem_components_setDefaultPosition (positive : 0 < unit.toInt)
    (run : setDefaultPosition component unit ledger = .ok done after) :
    component ∈ after.components ↔ component ∈ ledger.components ∨ ledger.hasExternalPosition component = false := by
  obtain ⟨virtualUnit, components, _, rfl, listing⟩ := setDefaultPosition_cases run
  rw [components_withDefault]
  dsimp only
  rcases listing with ⟨alone, _, _, rfl⟩ | ⟨_, _, zero, _⟩ | ⟨rfl, kept⟩
  · exact iff_of_true List.mem_concat_self (Or.inr alone)
  · rw [zero] at positive
    exact absurd positive (by decide)
  · refine ⟨Or.inl, fun either => either.elim id fun alone => ?_⟩
    by_contra absent
    exact absurd ((kept alone).1 absent) (Int.not_le.mpr positive)

/-- A component whose last position is set to zero is gone from the list and from the
table. -/
theorem not_mem_setDefaultPosition_zero (consistent : ledger.Consistent)
    (alone : ledger.hasExternalPosition component = false)
    (run : setDefaultPosition component Fixed.zero ledger = .ok done after) :
    component ∉ after.components ∧ after.defaultUnits[component]? = none := by
  obtain ⟨virtualUnit, components, stored, rfl, listing⟩ := setDefaultPosition_cases run
  have vanished := (toVirtual_sign consistent.readable (Int.le_refl 0) stored).2.mpr rfl
  rw [components_withDefault, getElem?_withDefault, if_pos rfl, if_pos vanished]
  refine ⟨?_, rfl⟩
  dsimp only
  rcases listing with ⟨_, _, positive, _⟩ | ⟨_, _, _, rfl⟩ | ⟨rfl, kept⟩
  · exact absurd positive (by decide)
  · exact consistent.nodup.not_mem_erase
  · exact fun listed => (kept alone).2 listed rfl

theorem external_setDefaultPosition (run : setDefaultPosition component unit ledger = .ok done after) :
    after.external = ledger.external := by
  obtain ⟨virtualUnit, components, _, rfl⟩ := setDefaultPosition_eq_ok run
  rw [external_withDefault]

/-- What stays listed at a unit of zero is attributed to a module. -/
theorem Consistent.attributed_of_listed (consistent : ledger.Consistent)
    (run : setDefaultPosition component Fixed.zero ledger = .ok done after) (listed : component ∈ after.components) :
    ∃ module, after.isExternalModule component module = true := by
  have edited : (Edit.defaultPosition component Fixed.zero).apply ledger = .ok done after := run
  rw [(consistent.edit edited).attributed_iff, external_setDefaultPosition run, ← consistent.hasExternalPosition_iff]
  by_contra alone
  rw [Bool.not_eq_true] at alone
  exact (not_mem_setDefaultPosition_zero consistent alone run).1 listed

/-- After a positive unit has been set, its component is listed once and its position
among the positions exactly if it was listed before or no module is attributed to it.
An attributed component that was not listed is held from then on without being listed.
After a unit of zero nothing is left of a component without attributions. -/
theorem Built.setDefaultPosition_listed (built : ledger.Built)
    (run : setDefaultPosition component unit ledger = .ok done after) :
    (0 < unit.toInt → 0 < (after.defaultRealUnit component).toInt ∧
      (after.components.count component = 1 ↔
        component ∈ ledger.components ∨ ¬∃ module, ledger.isExternalModule component module = true) ∧
      ((⟨component, none, after.defaultRealUnit component, .default, []⟩ : Position) ∈ after.positions ↔
        component ∈ ledger.components ∨ ¬∃ module, ledger.isExternalModule component module = true)) ∧
    (unit = Fixed.zero → (¬∃ module, ledger.isExternalModule component module = true) →
      component ∉ after.components ∧ after.defaultUnits[component]? = none) := by
  have consistent := built.consistent
  have alone : (¬∃ module, ledger.isExternalModule component module = true) ↔
      ledger.hasExternalPosition component = false := by
    rw [consistent.attributed_iff, ← consistent.hasExternalPosition_iff, Bool.not_eq_true]
  rw [alone]
  refine ⟨fun positive => ?_, ?_⟩
  · have held := defaultRealUnit_pos consistent.readable positive run
    have edited : (Edit.defaultPosition component unit).apply ledger = .ok done after := run
    have once : after.components.count component = 1 ↔ component ∈ after.components :=
      ⟨fun one => List.count_pos_iff.mp (by omega), List.count_eq_one_of_mem (consistent.edit edited).nodup⟩
    have nonzero : after.defaultRealUnit component ≠ Fixed.zero := fun zero => by
      rw [zero] at held
      exact absurd held (by decide)
    rw [once, defaultPosition_mem_positions nonzero, mem_components_setDefaultPosition positive run]
    exact ⟨held, Iff.rfl, Iff.rfl⟩
  · rintro rfl unattributed
    exact not_mem_setDefaultPosition_zero consistent unattributed run

/-- A lender is attributed to dai and to nothing else when some of both is bought. -/
theorem Built.setDefaultPosition_listed_attributed :
    let dai : Address := ⟨"dai", by decide, by decide⟩
    let weth : Address := ⟨"weth", by decide, by decide⟩
    let lender : Address := ⟨"lender", by decide, by decide⟩
    let ledger := (Edit.addAttribution dai lender).apply.final Ledger.empty
    ledger.Built ∧
      (∃ after, setDefaultPosition weth (Fixed.ofInt 5) ledger = .ok () after ∧
        after.components.count weth = 1 ∧
        (⟨weth, none, after.defaultRealUnit weth, .default, []⟩ : Position) ∈ after.positions) ∧
      ∃ after, setDefaultPosition dai (Fixed.ofInt 5) ledger = .ok () after ∧
        0 < (after.defaultRealUnit dai).toInt ∧ after.components.count dai ≠ 1 := by
  intro dai weth lender ledger
  have built : ledger.Built := .edit .empty _
  have attributed : ledger.isExternalModule dai lender = true := by decide +kernel
  have alone : ¬∃ module, ledger.isExternalModule weth module = true := by
    rw [built.consistent.attributed_iff]
    decide +kernel
  have bought : (setDefaultPosition weth (Fixed.ofInt 5)).succeeds (fun _ _ => true) ledger = true := by decide +kernel
  have held : (setDefaultPosition dai (Fixed.ofInt 5)).succeeds (fun _ _ => true) ledger = true := by decide +kernel
  obtain ⟨_, afterWeth, runWeth, _⟩ := succeeds_iff.mp bought
  obtain ⟨_, afterDai, runDai, _⟩ := succeeds_iff.mp held
  obtain ⟨_, once, position⟩ := (built.setDefaultPosition_listed runWeth).1 (by decide)
  obtain ⟨positive, unlisted, _⟩ := (built.setDefaultPosition_listed runDai).1 (by decide)
  refine ⟨built, ⟨afterWeth, runWeth, once.mpr (Or.inr alone), position.mpr (Or.inr alone)⟩,
    afterDai, runDai, positive, ?_⟩
  rw [ne_eq, unlisted, not_or]
  exact ⟨by decide +kernel, fun none => none ⟨lender, attributed⟩⟩

/-- A module is attributed to dai before the basket holds any. The dai that is then set
as a position of the basket is in its table of units and in neither list. -/
theorem held_without_listing :
    ¬∀ (ledger after : Ledger) (component : Address) (unit : Fixed), ledger.Built →
      setDefaultPosition component unit ledger = .ok () after →
      (0 < unit.toInt → after.components.count component = 1 ∧
        (⟨component, none, after.defaultRealUnit component, .default, []⟩ : Position) ∈ after.positions) ∧
      (unit = Fixed.zero → (¬∃ module, ledger.isExternalModule component module = true) →
        component ∉ after.components ∧ after.defaultUnits[component]? = none) := by
  intro listed
  let dai : Address := ⟨"dai", by decide, by decide⟩
  let lender : Address := ⟨"lender", by decide, by decide⟩
  let ledger := (Edit.addAttribution dai lender).apply.final empty
  have held : (setDefaultPosition dai (Fixed.ofInt 5)).succeeds
      (fun _ after => after.components.count dai = 0) ledger = true := by decide +kernel
  obtain ⟨_, after, run, unlisted⟩ := succeeds_iff.mp held
  have once := ((listed ledger after dai (Fixed.ofInt 5) (.edit .empty _) run).1 (by decide)).1
  rw [of_decide_eq_true unlisted] at once
  cases once

end Ledger

end IndexBasket
