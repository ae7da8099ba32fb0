import IndexBasket.Proofs.AddressMap
import IndexBasket.Proofs.Ledger.Readback

namespace IndexBasket

/-- The attributions of a component once a module has an entry. A module that is
new stands last. -/
def Attributions.put (attributions : Attributions) (module : Address) (entry : Attribution) : Attributions where
  modules := if module ∈ attributions.entries then attributions.modules else attributions.modules ++ [module]
  entries := attributions.entries.insert module entry

def Attributions.drop (attributions : Attributions) (module : Address) : Attributions where
  modules := attributions.modules.filter (· ≠ module)
  entries := attributions.entries.erase module

namespace Ledger

open IndexBasket.Action

/-- The attributions of a component, none where it has no table of them. -/
def attributionsOf (ledger : Ledger) (component : Address) : Attributions :=
  ledger.external.getD component {}

/-- The ledger in which a component is listed, at the end if it was not. -/
def enlist (ledger : Ledger) (component : Address) : Ledger :=
  if ledger.isComponent component then ledger else { ledger with components := ledger.components ++ [component] }

/-- The ledger in which a module has an entry for a component. -/
def withEntry (ledger : Ledger) (component module : Address) (entry : Attribution) : Ledger :=
  { ledger with external := ledger.external.insert component ((ledger.attributionsOf component).put module entry) }

/-- The ledger in which a module has no entry for a component any more. -/
def withoutEntry (ledger : Ledger) (component module : Address) : Ledger :=
  let left := (ledger.attributionsOf component).drop module
  { ledger with external :=
      if left.modules = [] then ledger.external.erase component else ledger.external.insert component left }

/-- The ledger in which a module's position has been ended. The component goes with the
last one if the basket holds none of it either. -/
def withoutPosition (ledger : Ledger) (component module : Address) : Ledger :=
  let left := ledger.withoutEntry component module
  if !left.hasExternalPosition component && left.defaultRealUnit component = Fixed.zero then
    { left with components := left.components.erase component }
  else left

variable {ledger after : Ledger} {component module : Address} {unit : Fixed} {data : List UInt8} {done : Unit}

theorem multiplier_withoutPosition (ledger : Ledger) (component module : Address) :
    (ledger.withoutPosition component module).multiplier = ledger.multiplier := by
  unfold withoutPosition
  dsimp only
  split <;> rfl

theorem multiplier_enlist (ledger : Ledger) (component : Address) :
    (ledger.enlist component).multiplier = ledger.multiplier := by
  unfold enlist
  split <;> rfl

theorem defaultUnits_enlist (ledger : Ledger) (component : Address) :
    (ledger.enlist component).defaultUnits = ledger.defaultUnits := by
  unfold enlist
  split <;> rfl

theorem external_enlist (ledger : Ledger) (component : Address) :
    (ledger.enlist component).external = ledger.external := by
  unfold enlist
  split <;> rfl

theorem mem_components_enlist (ledger : Ledger) (component other : Address) :
    other ∈ (ledger.enlist component).components ↔ component = other ∨ other ∈ ledger.components := by
  unfold enlist
  split
  · rename_i listed
    refine ⟨Or.inr, ?_⟩
    rintro (rfl | member)
    · exact List.contains_iff_mem.mp listed
    · exact member
  · rw [List.mem_append, List.mem_singleton, or_comm, eq_comm]

theorem attributionsOf_eq (ledger : Ledger) (component : Address) :
    ledger.attributionsOf component = ledger.external[component]?.getD {} :=
  Std.ExtTreeMap.getD_eq_getD_getElem?

theorem attributionsOf_of_getElem? {attributions : Attributions}
    (found : ledger.external[component]? = some attributions) : ledger.attributionsOf component = attributions := by
  rw [attributionsOf_eq, found]
  rfl

theorem attribution?_eq (ledger : Ledger) (component module : Address) :
    ledger.attribution? component module = (ledger.attributionsOf component).entries[module]? := by
  rw [attributionsOf_eq, attribution?]
  cases ledger.external[component]? with
  | none => exact Std.ExtTreeMap.getElem?_empty.symm
  | some => rfl

theorem externalModules_eq (ledger : Ledger) (component : Address) :
    ledger.externalModules component = (ledger.attributionsOf component).modules := by
  rw [attributionsOf_eq, externalModules]
  cases ledger.external[component]? <;> rfl

theorem isExternalModule_iff :
    ledger.isExternalModule component module = true ↔ module ∈ (ledger.attributionsOf component).entries := by
  rw [isExternalModule, attribution?_eq, Std.ExtTreeMap.mem_iff_isSome_getElem?]

theorem attributionsOf_withEntry (ledger : Ledger) (component module asset : Address) (entry : Attribution) :
    (ledger.withEntry component module entry).attributionsOf asset =
      if component = asset then (ledger.attributionsOf component).put module entry else ledger.attributionsOf asset := by
  rw [attributionsOf, withEntry, Std.ExtTreeMap.getD_insert]
  simp only [Std.LawfulEqCmp.compare_eq_iff_eq]
  rfl

theorem attributionsOf_withoutEntry (ledger : Ledger) (component module asset : Address) :
    (ledger.withoutEntry component module).attributionsOf asset =
      if component = asset then
        if ((ledger.attributionsOf component).drop module).modules = [] then {}
        else (ledger.attributionsOf component).drop module
      else ledger.attributionsOf asset := by
  rw [attributionsOf, withoutEntry]
  by_cases empty : ((ledger.attributionsOf component).drop module).modules = []
  · simp only [if_pos empty, Std.ExtTreeMap.getD_erase, Std.LawfulEqCmp.compare_eq_iff_eq]
    rfl
  · simp only [if_neg empty, Std.ExtTreeMap.getD_insert, Std.LawfulEqCmp.compare_eq_iff_eq]
    rfl

/-- A component with an attribution has a table. -/
theorem getElem?_external (attributed : ledger.isExternalModule component module = true) :
    ledger.external[component]? = some (ledger.attributionsOf component) := by
  cases found : ledger.external[component]? with
  | some attributions => rw [attributionsOf_of_getElem? found]
  | none =>
    rw [isExternalModule, attribution?, found] at attributed
    cases attributed

/-- To replace an entry is to put it where there is one already. -/
theorem withAttribution_eq (attributed : ledger.isExternalModule component module = true) (entry : Attribution) :
    ledger.withAttribution component module entry = ledger.withEntry component module entry := by
  rw [withAttribution, withEntry, AddressMap.modify_eq_insert (getElem?_external attributed), Attributions.put,
    if_pos (isExternalModule_iff.mp attributed)]

theorem isExternalModule_withEntry (ledger : Ledger) (component module : Address) (entry : Attribution) :
    (ledger.withEntry component module entry).isExternalModule component module = true := by
  rw [isExternalModule_iff, attributionsOf_withEntry, if_pos rfl]
  exact Std.ExtTreeMap.mem_insert_self

/-- The second entry of a module takes the place of the first. -/
theorem withEntry_withEntry (ledger : Ledger) (component module : Address) (first second : Attribution) :
    (ledger.withEntry component module first).withEntry component module second =
      ledger.withEntry component module second := by
  have inner := attributionsOf_withEntry ledger component module component first
  rw [if_pos rfl] at inner
  have outer : ((ledger.attributionsOf component).put module first).put module second =
      (ledger.attributionsOf component).put module second := by
    have listed : module ∈ ((ledger.attributionsOf component).put module first).entries := Std.ExtTreeMap.mem_insert_self
    rw [Attributions.put, if_pos listed]
    simp only [Attributions.put, AddressMap.insert_insert]
  rw [withEntry, inner, outer, withEntry, withEntry]
  simp only [AddressMap.insert_insert]

/-! What an edit leaves if it goes through. -/

theorem setDefaultUnit_eq_ok :
    setDefaultUnit component unit ledger = .ok done after ↔
      ∃ virtualUnit, ledger.toVirtual component unit = .ok virtualUnit ∧
        ledger.withDefault component virtualUnit = after := by
  simp only [setDefaultUnit, get_bind, bind_eq_ok, lift_eq_ok, modify_eq_ok]
  constructor
  · rintro ⟨virtualUnit, _, ⟨stored, rfl⟩, done⟩
    exact ⟨virtualUnit, stored, done⟩
  · rintro ⟨virtualUnit, stored, done⟩
    exact ⟨virtualUnit, ledger, ⟨stored, rfl⟩, done⟩

theorem addAttribution_eq_ok :
    addAttribution component module ledger = .ok done after ↔
      ¬ledger.isExternalModule component module = true ∧ ledger.withEntry component module {} = after := by
  have same : ({ ledger with external := ledger.external.insert component (ledger.external.getD component {}) } :
      Ledger).attributionsOf component = ledger.attributionsOf component := by
    rw [attributionsOf, Std.ExtTreeMap.getD_insert_self, attributionsOf]
  simp only [addAttribution, modify_bind, get_bind, guard_bind_eq_ok, modify_eq_ok, isExternalModule_iff, same,
    AddressMap.modify_insert]
  refine and_congr_right fun new => ?_
  rw [withEntry, Attributions.put, if_neg new]
  rfl

theorem removeAttribution_eq_ok :
    removeAttribution component module ledger = .ok done after ↔
      ledger.isExternalModule component module = true ∧ ledger.withoutEntry component module = after := by
  simp only [removeAttribution, modify_bind, get_bind, guard_bind_eq_ok, Bool.not_eq_true', Bool.not_eq_false]
  refine and_congr_right fun attributed => ?_
  have left : Ledger.externalModules { ledger with
      external := ledger.external.insert component ((ledger.attributionsOf component).drop module) } component =
      ((ledger.attributionsOf component).drop module).modules := by
    rw [externalModules_eq, attributionsOf, Std.ExtTreeMap.getD_insert_self]
  rw [Attributions.drop] at left
  simp only [AddressMap.modify_eq_insert (getElem?_external attributed), left, List.isEmpty_iff]
  rw [withoutEntry, Attributions.drop]
  split
  · rw [modify_eq_ok]
    simp only [AddressMap.erase_insert]
  · simp only [pure_eq_ok, true_and]

theorem setExternalUnit_eq_ok :
    setExternalUnit component module unit ledger = .ok done after ↔
      ∃ virtualUnit entry, ledger.toVirtual component unit = .ok virtualUnit ∧
        ledger.attribution? component module = some entry ∧
        ledger.withEntry component module { entry with virtualUnit } = after := by
  simp only [setExternalUnit, get_bind, bind_eq_ok, lift_eq_ok, Action.demand_eq_ok, modify_eq_ok]
  constructor
  · rintro ⟨virtualUnit, _, ⟨stored, rfl⟩, entry, _, ⟨found, rfl⟩, done⟩
    rw [withAttribution_eq (by rw [isExternalModule, found]; rfl)] at done
    exact ⟨virtualUnit, entry, stored, found, done⟩
  · rintro ⟨virtualUnit, entry, stored, found, done⟩
    rw [← withAttribution_eq (by rw [isExternalModule, found]; rfl)] at done
    exact ⟨virtualUnit, ledger, ⟨stored, rfl⟩, entry, ledger, ⟨found, rfl⟩, done⟩

theorem setExternalData_eq_ok :
    setExternalData component module data ledger = .ok done after ↔
      ∃ entry, ledger.attribution? component module = some entry ∧
        ledger.withEntry component module { entry with data } = after := by
  simp only [setExternalData, get_bind, bind_eq_ok, Action.demand_eq_ok, modify_eq_ok]
  constructor
  · rintro ⟨entry, _, ⟨found, rfl⟩, done⟩
    rw [withAttribution_eq (by rw [isExternalModule, found]; rfl)] at done
    exact ⟨entry, found, done⟩
  · rintro ⟨entry, found, done⟩
    rw [← withAttribution_eq (by rw [isExternalModule, found]; rfl)] at done
    exact ⟨entry, ledger, ⟨found, rfl⟩, done⟩

/-- The last steps of setting an external position: a module without an entry gets an
empty one, which the new one then replaces. -/
theorem putEntry_eq (ledger : Ledger) (component module : Address) (entry : Attribution) :
    (do
      if !(← get).isExternalModule component module then addAttribution component module
      modify (·.withAttribution component module entry) : Update) ledger =
    .ok () (ledger.withEntry component module entry) := by
  rw [get_bind]
  by_cases known : ledger.isExternalModule component module = true
  · rw [if_neg (by rw [known]; decide), ← withAttribution_eq known]
    rfl
  · have added : addAttribution component module ledger = .ok () (ledger.withEntry component module {}) :=
      addAttribution_eq_ok.mpr ⟨known, rfl⟩
    have replaced := withAttribution_eq (isExternalModule_withEntry ledger component module {}) entry
    rw [withEntry_withEntry] at replaced
    rw [if_pos (by simpa using known), bind_of_ok added, ← replaced]
    rfl

/-- A unit that is not zero lists the component and gives the module its entry, once
it has been found to be storable. -/
theorem setExternalPosition_of_ne (nonzero : unit ≠ Fixed.zero) :
    setExternalPosition component module unit data ledger =
      match ledger.toVirtual component unit with
      | .ok virtualUnit => .ok () ((ledger.enlist component).withEntry component module { virtualUnit, data })
      | .error failure => .error failure ledger := by
  rw [setExternalPosition, if_pos nonzero, get_bind]
  cases ledger.toVirtual component unit with
  | error failure => rw [lift_bind_error rfl]
  | ok virtualUnit =>
    rw [lift_bind_ok rfl, get_bind, enlist]
    by_cases listed : ledger.isComponent component = true
    · rw [if_pos listed, if_neg (by rw [listed]; decide)]
      exact putEntry_eq ledger component module { virtualUnit, data }
    · have added : addComponent component ledger = .ok () _ := addComponent_eq_ok.mpr ⟨listed, rfl⟩
      rw [if_neg listed, if_pos (by simpa using listed), bind_of_ok added]
      exact putEntry_eq _ component module { virtualUnit, data }

/-- A unit of zero ends the position where there is one. -/
theorem setExternalPosition_zero (ledger : Ledger) (component module : Address) (data : List UInt8) :
    setExternalPosition component module Fixed.zero data ledger =
      .ok () (if ledger.isExternalModule component module then ledger.withoutPosition component module else ledger) := by
  rw [setExternalPosition, if_neg (by simp), get_bind]
  split
  · rename_i attributed
    have removed : removeAttribution component module ledger = .ok () (ledger.withoutEntry component module) :=
      removeAttribution_eq_ok.mpr ⟨attributed, rfl⟩
    rw [bind_of_ok removed, get_bind, withoutPosition]
    generalize ledger.withoutEntry component module = left
    by_cases listed : left.isComponent component = true
    · have dropped : removeComponent component left = .ok () _ := removeComponent_eq_ok.mpr ⟨listed, rfl⟩
      simp only [listed, Bool.and_true]
      split
      · exact dropped
      · rfl
    · have absent : left.components.erase component = left.components :=
        List.erase_of_not_mem fun member => listed (List.contains_iff_mem.mpr member)
      simp only [listed, Bool.and_false, Bool.false_eq_true, if_false, absent, ite_self]
      rfl
  · rfl

theorem setExternalPosition_cases (run : setExternalPosition component module unit data ledger = .ok done after) :
    (∃ virtualUnit, ledger.toVirtual component unit = .ok virtualUnit ∧
        after = (ledger.enlist component).withEntry component module { virtualUnit, data }) ∨
      (ledger.isExternalModule component module = true ∧ after = ledger.withoutPosition component module) ∨
      after = ledger := by
  by_cases zero : unit = Fixed.zero
  · rw [zero, setExternalPosition_zero] at run
    cases run
    split
    · rename_i attributed
      exact Or.inr (Or.inl ⟨attributed, rfl⟩)
    · exact Or.inr (Or.inr rfl)
  · rw [setExternalPosition_of_ne zero] at run
    split at run
    · rename_i virtualUnit stored
      cases run
      exact Or.inl ⟨virtualUnit, stored, rfl⟩
    · cases run

theorem setMultiplier_eq_ok {multiplier : Fixed} :
    setMultiplier multiplier ledger = .ok done after ↔
      checkMultiplier ledger.virtualUnits multiplier = .ok () ∧ { ledger with multiplier } = after := by
  simp only [setMultiplier, get_bind, bind_eq_ok, lift_eq_ok, modify_eq_ok]
  constructor
  · rintro ⟨⟨⟩, _, ⟨passed, rfl⟩, done⟩
    exact ⟨passed, done⟩
  · rintro ⟨passed, done⟩
    exact ⟨⟨⟩, ledger, ⟨passed, rfl⟩, done⟩

/-! What an edit leaves if it fails: the ledger as it was. -/

theorem failsInPlace_addComponent (component : Address) : FailsInPlace (addComponent component) :=
  failsInPlace_bind moves_get fun _ => failsInPlace_guard (total_modify _).failsInPlace

theorem failsInPlace_removeComponent (component : Address) : FailsInPlace (removeComponent component) :=
  failsInPlace_bind moves_get fun _ => failsInPlace_guard (total_modify _).failsInPlace

theorem failsInPlace_setDefaultUnit (component : Address) (unit : Fixed) :
    FailsInPlace (setDefaultUnit component unit) :=
  failsInPlace_bind moves_get fun _ => failsInPlace_bind (moves_lift _) fun _ => (total_modify _).failsInPlace

/-- The unit is converted before the component is listed or dropped, and to store it
cannot fail. -/
theorem failsInPlace_setDefaultPosition (component : Address) (unit : Fixed) :
    FailsInPlace (setDefaultPosition component unit) := by
  refine failsInPlace_bind moves_get fun ledger => failsInPlace_bind (moves_lift _) fun virtualUnit => ?_
  refine failsInPlace_ite ?_ (failsInPlace_ite ?_ (total_modify _).failsInPlace)
  · exact (failsInPlace_addComponent component).bind_total fun _ => total_modify _
  · exact (failsInPlace_removeComponent component).bind_total fun _ => total_modify _

/-- The table that a component gets before its module is looked up is no new one if
the module is found in it. -/
theorem failsInPlace_addAttribution (component module : Address) :
    FailsInPlace (addAttribution component module) := by
  intro ledger after failure stopped
  have same : ledger.isExternalModule component module = true →
      ledger.external.insert component (ledger.external.getD component {}) = ledger.external := fun attributed =>
    AddressMap.insert_eq_self (getElem?_external attributed)
  by_cases attributed : ledger.isExternalModule component module = true
  · simp only [addAttribution, modify_bind, get_bind, same attributed, attributed, if_true] at stopped
    cases stopped
    rfl
  · have added : addAttribution component module ledger = .ok () (ledger.withEntry component module {}) :=
      addAttribution_eq_ok.mpr ⟨attributed, rfl⟩
    rw [added] at stopped
    cases stopped

theorem failsInPlace_removeAttribution (component module : Address) :
    FailsInPlace (removeAttribution component module) := by
  refine failsInPlace_bind moves_get fun _ => failsInPlace_guard (Total.failsInPlace ?_)
  exact total_bind (total_modify _) fun _ => total_bind total_get fun _ => total_ite (total_modify _) (total_pure _)

theorem failsInPlace_setExternalUnit (component module : Address) (unit : Fixed) :
    FailsInPlace (setExternalUnit component module unit) := by
  refine failsInPlace_bind moves_get fun _ => failsInPlace_bind (moves_lift _) fun _ => ?_
  refine failsInPlace_bind moves_get fun _ => failsInPlace_bind (moves_demand _ _) fun _ => ?_
  exact (total_modify _).failsInPlace

theorem failsInPlace_setExternalData (component module : Address) (data : List UInt8) :
    FailsInPlace (setExternalData component module data) := by
  refine failsInPlace_bind moves_get fun _ => failsInPlace_bind (moves_demand _ _) fun _ => ?_
  exact (total_modify _).failsInPlace

theorem failsInPlace_setExternalPosition (component module : Address) (unit : Fixed) (data : List UInt8) :
    FailsInPlace (setExternalPosition component module unit data) := by
  intro ledger after failure stopped
  by_cases zero : unit = Fixed.zero
  · rw [zero, setExternalPosition_zero] at stopped
    cases stopped
  · rw [setExternalPosition_of_ne zero] at stopped
    split at stopped
    · cases stopped
    · cases stopped
      rfl

theorem failsInPlace_setMultiplier (multiplier : Fixed) : FailsInPlace (setMultiplier multiplier) :=
  failsInPlace_bind moves_get fun _ => failsInPlace_bind (moves_lift _) fun _ => (total_modify _).failsInPlace

/-- No edit leaves anything behind when it fails. -/
theorem failsInPlace_edit (edit : Edit) : FailsInPlace edit.apply := by
  cases edit with
  | addComponent component => exact failsInPlace_addComponent component
  | removeComponent component => exact failsInPlace_removeComponent component
  | defaultUnit component unit => exact failsInPlace_setDefaultUnit component unit
  | defaultPosition component unit => exact failsInPlace_setDefaultPosition component unit
  | addAttribution component module => exact failsInPlace_addAttribution component module
  | removeAttribution component module => exact failsInPlace_removeAttribution component module
  | externalUnit component module unit => exact failsInPlace_setExternalUnit component module unit
  | externalData component module data => exact failsInPlace_setExternalData component module data
  | externalPosition component module unit data => exact failsInPlace_setExternalPosition component module unit data
  | rescale multiplier => exact failsInPlace_setMultiplier multiplier

/-! What is kept by every edit is kept from the start on. -/

theorem moves_openPositions {kept : Ledger → Prop} (each : ∀ edit : Edit, Moves (Preserves kept) edit.apply)
    (positions : List (Address × Fixed)) : Moves (Preserves kept) (openPositions positions) := by
  induction positions with
  | nil => exact moves_pure _
  | cons position rest ih =>
    obtain ⟨component, unit⟩ := position
    refine moves_bind moves_get fun _ => moves_guard (moves_ite ?_ ih)
    exact moves_bind (each (.addComponent component)) fun _ =>
      moves_bind (each (.defaultUnit component unit)) fun _ => ih

theorem kept_ofPositions {kept : Ledger → Prop} {positions : List (Address × Fixed)}
    (each : ∀ edit : Edit, Moves (Preserves kept) edit.apply) (start : kept empty)
    (run : ofPositions positions = .ok after) : kept after :=
  (moves_openPositions each positions).of_ok (ofPositions_eq_ok.mp run) start

end Ledger

end IndexBasket
