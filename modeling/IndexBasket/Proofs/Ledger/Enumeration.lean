import IndexBasket.Proofs.Ledger.Positions
import Mathlib.Algebra.BigOperators.Group.List.Basic

/-!
The list of all positions, and the total of a component: both follow the list of
components and the lists of modules, which keep the order in which their members came.
-/

namespace IndexBasket

/-- What stays in a list keeps its place there, and what is new comes last. -/
def KeepsOrder (before after : List Address) : Prop :=
  ∃ new, after = before.filter (· ∈ after) ++ new ∧ ∀ address ∈ new, address ∉ before

theorem keepsOrder_filter (addresses : List Address) (test : Address → Bool) :
    KeepsOrder addresses (addresses.filter test) := by
  refine ⟨[], ?_, fun _ => nofun⟩
  rw [List.append_nil]
  refine List.filter_congr fun address member => ?_
  rw [Bool.eq_iff_iff, decide_eq_true_eq, List.mem_filter, and_iff_right member]

theorem keepsOrder_refl (addresses : List Address) : KeepsOrder addresses addresses := by
  have kept := keepsOrder_filter addresses fun _ => true
  rwa [List.filter_true] at kept

theorem keepsOrder_append {addresses : List Address} {address : Address} (new : address ∉ addresses) :
    KeepsOrder addresses (addresses ++ [address]) := by
  refine ⟨[address], ?_, fun other member => List.mem_singleton.mp member ▸ new⟩
  rw [List.filter_eq_self.mpr fun other member => decide_eq_true (List.mem_append_left _ member)]

theorem keepsOrder_erase {addresses : List Address} (nodup : addresses.Nodup) (address : Address) :
    KeepsOrder addresses (addresses.erase address) := by
  rw [nodup.erase_eq_filter]
  exact keepsOrder_filter addresses _

namespace Ledger

open IndexBasket.Action

variable {ledger after : Ledger} {component : Address} {edit : Edit} {done : Unit}

/-! The order of components and of modules. -/

/-- The list of components and every list of modules keep their order. -/
structure KeepsOrders (ledger after : Ledger) : Prop where
  components : KeepsOrder ledger.components after.components
  modules : ∀ component, KeepsOrder (ledger.externalModules component) (after.externalModules component)

theorem keepsOrders_refl (ledger : Ledger) : ledger.KeepsOrders ledger :=
  ⟨keepsOrder_refl _, fun _ => keepsOrder_refl _⟩

theorem externalModules_congr (same : after.external = ledger.external) (component : Address) :
    after.externalModules component = ledger.externalModules component := by
  rw [externalModules, externalModules, same]

/-- An edit that changes no attribution. -/
theorem keepsOrders_of_components (ordered : KeepsOrder ledger.components after.components)
    (same : after.external = ledger.external) : ledger.KeepsOrders after := by
  refine ⟨ordered, fun component => ?_⟩
  rw [externalModules_congr same]
  exact keepsOrder_refl _

theorem keepsOrder_enlist (ledger : Ledger) (component : Address) :
    KeepsOrder ledger.components (ledger.enlist component).components := by
  unfold enlist
  split
  · exact keepsOrder_refl _
  · rename_i absent
    exact keepsOrder_append fun member => absent (List.contains_iff_mem.mpr member)

theorem Consistent.keepsOrder_withEntry (consistent : ledger.Consistent) (component module : Address)
    (entry : Attribution) (asset : Address) :
    KeepsOrder (ledger.externalModules asset) ((ledger.withEntry component module entry).externalModules asset) := by
  rw [externalModules_eq, externalModules_eq, attributionsOf_withEntry]
  split
  · rename_i same
    subst same
    unfold Attributions.put
    dsimp only
    split
    · exact keepsOrder_refl _
    · rename_i new
      exact keepsOrder_append fun listed => new (((consistent.matched component).mem_iff module).mp listed)
  · exact keepsOrder_refl _

theorem keepsOrder_withoutEntry (ledger : Ledger) (component module asset : Address) :
    KeepsOrder (ledger.externalModules asset) ((ledger.withoutEntry component module).externalModules asset) := by
  rw [externalModules_eq, externalModules_eq, attributionsOf_withoutEntry]
  split
  · rename_i same
    subst same
    have dropped : KeepsOrder (ledger.attributionsOf component).modules
        ((ledger.attributionsOf component).drop module).modules := keepsOrder_filter _ _
    split
    · rename_i none
      rwa [none] at dropped
    · exact dropped
  · exact keepsOrder_refl _

theorem Consistent.keepsOrders_withoutPosition (consistent : ledger.Consistent) (component module : Address) :
    ledger.KeepsOrders (ledger.withoutPosition component module) := by
  unfold Ledger.withoutPosition
  dsimp only
  split
  · exact ⟨keepsOrder_erase consistent.nodup component, keepsOrder_withoutEntry ledger component module⟩
  · exact ⟨keepsOrder_refl _, keepsOrder_withoutEntry ledger component module⟩

theorem Consistent.keepsOrders_of_ok (consistent : ledger.Consistent) (run : edit.apply ledger = .ok done after) :
    ledger.KeepsOrders after := by
  cases edit with
  | addComponent component =>
    obtain ⟨absent, rfl⟩ := addComponent_eq_ok.mp run
    refine keepsOrders_of_components (keepsOrder_append fun member => absent ?_) rfl
    exact List.contains_iff_mem.mpr member
  | removeComponent component =>
    obtain ⟨_, rfl⟩ := removeComponent_eq_ok.mp run
    exact keepsOrders_of_components (keepsOrder_erase consistent.nodup component) rfl
  | defaultUnit component unit =>
    obtain ⟨virtualUnit, _, rfl⟩ := setDefaultUnit_eq_ok.mp run
    refine keepsOrders_of_components ?_ (external_withDefault ledger component virtualUnit)
    rw [components_withDefault]
    exact keepsOrder_refl _
  | defaultPosition component unit =>
    obtain ⟨virtualUnit, components, _, rfl, listing⟩ := setDefaultPosition_cases run
    refine keepsOrders_of_components ?_ (external_withDefault _ component virtualUnit)
    rw [components_withDefault]
    rcases listing with ⟨_, absent, _, rfl⟩ | ⟨_, _, _, rfl⟩ | ⟨rfl, _⟩
    · exact keepsOrder_append absent
    · exact keepsOrder_erase consistent.nodup component
    · exact keepsOrder_refl _
  | addAttribution component module =>
    obtain ⟨_, rfl⟩ := addAttribution_eq_ok.mp run
    exact ⟨keepsOrder_refl _, consistent.keepsOrder_withEntry component module {}⟩
  | removeAttribution component module =>
    obtain ⟨_, rfl⟩ := removeAttribution_eq_ok.mp run
    exact ⟨keepsOrder_refl _, keepsOrder_withoutEntry ledger component module⟩
  | externalUnit component module unit =>
    obtain ⟨_, _, _, _, rfl⟩ := setExternalUnit_eq_ok.mp run
    exact ⟨keepsOrder_refl _, consistent.keepsOrder_withEntry component module _⟩
  | externalData component module data =>
    obtain ⟨_, _, rfl⟩ := setExternalData_eq_ok.mp run
    exact ⟨keepsOrder_refl _, consistent.keepsOrder_withEntry component module _⟩
  | externalPosition component module unit data =>
    obtain ⟨virtualUnit, _, rfl⟩ | ⟨_, rfl⟩ | rfl := setExternalPosition_cases run
    · refine ⟨keepsOrder_enlist ledger component, fun asset => ?_⟩
      rw [← externalModules_congr (external_enlist ledger component)]
      exact (consistent.enlist component).keepsOrder_withEntry component module _ asset
    · exact consistent.keepsOrders_withoutPosition component module
    · exact keepsOrders_refl _
  | rescale multiplier =>
    obtain ⟨_, rfl⟩ := setMultiplier_eq_ok.mp run
    exact keepsOrders_of_components (keepsOrder_refl _) rfl

theorem Consistent.keepsOrders_edit (consistent : ledger.Consistent) (edit : Edit) :
    ledger.KeepsOrders (edit.apply.final ledger) := by
  cases run : edit.apply ledger with
  | ok done after =>
    rw [final_of_ok run]
    exact consistent.keepsOrders_of_ok run
  | error failure after =>
    rw [final_of_error run, failsInPlace_edit edit run]
    exact keepsOrders_refl ledger

/-! The positions of a component. -/

/-- The position of a module, as it is read entry by entry. -/
def externalPosition (ledger : Ledger) (component module : Address) : Position where
  component := component
  module := some module
  unit := ledger.externalRealUnit component module
  state := .external
  data := ledger.externalData component module

theorem Consistent.mem_externalModules_iff (consistent : ledger.Consistent) (component module : Address) :
    module ∈ ledger.externalModules component ↔ ledger.isExternalModule component module = true := by
  rw [externalModules_eq, isExternalModule_iff, (consistent.matched component).mem_iff]

/-- No entry is skipped: every module of the list has one. -/
theorem Consistent.externalPositions_eq (consistent : ledger.Consistent) (component : Address) :
    ledger.externalPositions component =
      (ledger.externalModules component).map (ledger.externalPosition component) := by
  have listed : ledger.externalPositions component = (ledger.externalModules component).filterMap fun module =>
      (ledger.attribution? component module).map fun entry =>
        ⟨component, some module, ledger.toReal entry.virtualUnit, .external, entry.data⟩ := by
    unfold externalPositions externalModules attribution?
    cases ledger.external[component]? <;> rfl
  rw [listed, ← List.filterMap_eq_map]
  refine List.filterMap_congr fun module member => ?_
  have entered := (consistent.mem_externalModules_iff component module).mp member
  obtain ⟨entry, found⟩ := Option.isSome_iff_exists.mp entered
  simp only [found, Option.map_some, Function.comp_apply, externalPosition, externalRealUnit, externalData]

/-- The positions of one component: its default position and then those of its modules. -/
def positionsOf (ledger : Ledger) (component : Address) : List Position :=
  (ledger.defaultPosition? component).toList ++ ledger.externalPositions component

theorem component_of_mem_positionsOf {position : Position} (member : position ∈ ledger.positionsOf component) :
    position.component = component := by
  rcases List.mem_append.mp member with default | external
  · rw [(defaultPosition?_eq_some.mp (Option.mem_toList.mp default)).2]
  · exact (of_mem_externalPositions external).1

/-- The positions of a listed component are found by its name. -/
theorem Consistent.filter_positions (consistent : ledger.Consistent) (listed : component ∈ ledger.components) :
    ledger.positions.filter (·.component = component) = ledger.positionsOf component := by
  have own : (ledger.positionsOf component).filter (·.component = component) = ledger.positionsOf component :=
    List.filter_eq_self.mpr fun position member => decide_eq_true (component_of_mem_positionsOf member)
  have others : ∀ components : List Address, component ∉ components →
      (components.flatMap ledger.positionsOf).filter (·.component = component) = [] := by
    intro components absent
    rw [List.filter_eq_nil_iff]
    intro position member
    obtain ⟨other, member, held⟩ := List.mem_flatMap.mp member
    rw [component_of_mem_positionsOf held, decide_eq_true_eq]
    exact fun same => absent (same ▸ member)
  obtain ⟨before, behind, split⟩ := List.append_of_mem listed
  have nodup := consistent.nodup
  rw [split, List.nodup_append] at nodup
  obtain ⟨_, rest, apart⟩ := nodup
  change (ledger.components.flatMap ledger.positionsOf).filter (·.component = component) = _
  rw [split, List.flatMap_append, List.flatMap_cons, List.filter_append, List.filter_append, own,
    others before fun member => apart component member component List.mem_cons_self rfl,
    others behind (List.nodup_cons.mp rest).1, List.nil_append, List.append_nil]

/-! The total of a component. -/

/-- The default unit and the units of the first modules together, without a range. -/
def partialTotal (ledger : Ledger) (component : Address) (count : Nat) : Int :=
  (ledger.defaultRealUnit component).toInt +
    (((ledger.externalModules component).take count).map fun module =>
      (ledger.externalRealUnit component module).toInt).sum

theorem toInt_addClamped {a b : Fixed} (least : -2 ^ 127 ≤ a.toInt + b.toInt) (most : a.toInt + b.toInt < 2 ^ 127) :
    (a.addClamped b).toInt = a.toInt + b.toInt := by
  unfold Fixed.addClamped Fixed.clamp
  dsimp only
  omega

/-- Sums that stay in the range are exact. -/
theorem foldl_addClamped {units : Address → Fixed} {modules : List Address} {start : Fixed}
    (fits : ∀ count, -2 ^ 127 ≤ start.toInt + ((modules.take count).map fun module => (units module).toInt).sum ∧
      start.toInt + ((modules.take count).map fun module => (units module).toInt).sum < 2 ^ 127) :
    (modules.foldl (fun sum module => sum.addClamped (units module)) start).toInt =
      start.toInt + (modules.map fun module => (units module).toInt).sum := by
  induction modules generalizing start with
  | nil => exact (Int.add_zero _).symm
  | cons module rest ih =>
    have first := fits 1
    simp only [List.take_succ_cons, List.take_zero, List.map_cons, List.map_nil, List.sum_cons, List.sum_nil,
      Int.add_zero] at first
    have sum := toInt_addClamped first.1 first.2
    rw [List.foldl_cons, ih fun count => ?_, sum, List.map_cons, List.sum_cons, Int.add_assoc]
    have next := fits (count + 1)
    rw [List.take_succ_cons, List.map_cons, List.sum_cons, ← Int.add_assoc] at next
    rwa [sum]

theorem Consistent.sum_positionsOf (consistent : ledger.Consistent) (component : Address) :
    ((ledger.positionsOf component).map fun position => position.unit.toInt).sum =
      (ledger.defaultRealUnit component).toInt +
        ((ledger.externalModules component).map fun module =>
          (ledger.externalRealUnit component module).toInt).sum := by
  have default : (((ledger.defaultPosition? component).toList).map fun position => position.unit.toInt).sum =
      (ledger.defaultRealUnit component).toInt := by
    unfold defaultPosition?
    dsimp only
    split
    · rename_i zero
      rw [zero]
      rfl
    · exact List.sum_singleton
  rw [positionsOf, consistent.externalPositions_eq, List.map_append, List.sum_append, default, List.map_map]
  rfl

/-- All positions are listed component by component in the order of the components: the
default position where its unit is not zero, and then the position of every module that
is attributed, once and in the order of attribution, with the unit and the data that are
read for it. The total of a component is the sum of its listed units, unless a partial
sum leaves the range. -/
theorem Built.positions_enumerated (built : ledger.Built) :
    ledger.positions = ledger.components.flatMap (fun component =>
      (if ledger.defaultRealUnit component = Fixed.zero then []
        else [⟨component, none, ledger.defaultRealUnit component, .default, []⟩]) ++
      (ledger.externalModules component).map fun module =>
        ⟨component, some module, ledger.externalRealUnit component module, .external,
          ledger.externalData component module⟩) ∧
    ledger.components.Nodup ∧
    (∀ component, (ledger.externalModules component).Nodup ∧
      ∀ module, module ∈ ledger.externalModules component ↔ ledger.isExternalModule component module = true) ∧
    (∀ edit : Edit, KeepsOrder ledger.components (edit.apply.final ledger).components ∧
      ∀ component, KeepsOrder (ledger.externalModules component)
        ((edit.apply.final ledger).externalModules component)) ∧
    ∀ component ∈ ledger.components,
      (∀ count, -2 ^ 127 ≤ ledger.partialTotal component count ∧ ledger.partialTotal component count < 2 ^ 127) →
      (ledger.totalRealUnits component).toInt =
        ((ledger.positions.filter (·.component = component)).map fun position => position.unit.toInt).sum := by
  have consistent := built.consistent
  refine ⟨?_, consistent.nodup, fun component => ⟨?_, consistent.mem_externalModules_iff component⟩, fun edit => ?_,
    fun component listed fits => ?_⟩
  · refine List.flatMap_congr fun component _ => ?_
    have default : (ledger.defaultPosition? component).toList =
        if ledger.defaultRealUnit component = Fixed.zero then []
        else [⟨component, none, ledger.defaultRealUnit component, .default, []⟩] := by
      unfold defaultPosition?
      dsimp only
      split <;> rfl
    rw [default, consistent.externalPositions_eq]
    rfl
  · rw [externalModules_eq]
    exact (consistent.matched component).nodup
  · have ordered := consistent.keepsOrders_edit edit
    exact ⟨ordered.components, ordered.modules⟩
  · rw [consistent.filter_positions listed, consistent.sum_positionsOf]
    exact foldl_addClamped fits

/-- A debt of one module and the credit of another, attributed in this order. -/
theorem Built.positions_enumerated_debt :
    let dai : Address := ⟨"dai", by decide, by decide⟩
    let vault : Address := ⟨"vault", by decide, by decide⟩
    let lender : Address := ⟨"lender", by decide, by decide⟩
    let ledger := (Edit.externalPosition dai lender (Fixed.ofInt 3) []).apply.final
      ((Edit.externalPosition dai vault (Fixed.ofInt (-7)) [1]).apply.final
        ((Edit.defaultPosition dai (Fixed.ofInt 5)).apply.final Ledger.empty))
    ledger.Built ∧ dai ∈ ledger.components ∧
      (∀ count, -2 ^ 127 ≤ ledger.partialTotal dai count ∧ ledger.partialTotal dai count < 2 ^ 127) ∧
      ledger.positions = [⟨dai, none, Fixed.ofInt 5, .default, []⟩,
        ⟨dai, some vault, Fixed.ofInt (-7), .external, [1]⟩, ⟨dai, some lender, Fixed.ofInt 3, .external, []⟩] ∧
      (ledger.totalRealUnits dai).toInt = 1 := by
  intro dai vault lender ledger
  have built : ledger.Built := .edit (.edit (.edit .empty _) _) _
  have listed : dai ∈ ledger.components := by decide +kernel
  have modules : ledger.externalModules dai = [vault, lender] := by decide +kernel
  have own : ledger.defaultRealUnit dai = Fixed.ofInt 5 := by decide +kernel
  have debt : ledger.externalRealUnit dai vault = Fixed.ofInt (-7) := by decide +kernel
  have credit : ledger.externalRealUnit dai lender = Fixed.ofInt 3 := by decide +kernel
  have positions : ledger.positions = [⟨dai, none, Fixed.ofInt 5, .default, []⟩,
      ⟨dai, some vault, Fixed.ofInt (-7), .external, [1]⟩, ⟨dai, some lender, Fixed.ofInt 3, .external, []⟩] := by
    decide +kernel
  have fits : ∀ count, -2 ^ 127 ≤ ledger.partialTotal dai count ∧ ledger.partialTotal dai count < 2 ^ 127 := by
    intro count
    rw [partialTotal, modules, own]
    rcases count with _ | _ | count
    · decide
    · simp only [List.take_succ_cons, List.take_zero, List.map_cons, debt]
      decide
    · simp only [List.take_succ_cons, List.take_nil, List.map_cons, debt, credit]
      decide
  have total := built.positions_enumerated.2.2.2.2 dai listed fits
  rw [positions] at total
  exact ⟨built, listed, fits, positions, total⟩

end Ledger

end IndexBasket
