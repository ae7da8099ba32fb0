import IndexBasket.Proofs.Ledger.Sign
import Mathlib.Data.List.Nodup

namespace IndexBasket

theorem nodup_append_singleton {addresses : List Address} {address : Address} (nodup : addresses.Nodup)
    (new : address ∉ addresses) : (addresses ++ [address]).Nodup := by
  rw [← List.concat_eq_append]
  exact nodup.concat new

/-- The modules in their order are the modules with an entry, each of them once. -/
structure Attributions.Matched (attributions : Attributions) : Prop where
  nodup : attributions.modules.Nodup
  mem_iff : ∀ module, module ∈ attributions.modules ↔ module ∈ attributions.entries

namespace Attributions

variable {attributions : Attributions}

theorem Matched.empty : Matched {} :=
  ⟨List.nodup_nil, fun _ => iff_of_false List.not_mem_nil Std.ExtTreeMap.not_mem_empty⟩

theorem Matched.put (matched : attributions.Matched) (module : Address) (entry : Attribution) :
    (attributions.put module entry).Matched := by
  unfold Attributions.put
  by_cases known : module ∈ attributions.entries
  · rw [if_pos known]
    refine ⟨matched.nodup, fun other => ?_⟩
    rw [Std.ExtTreeMap.mem_insert, Std.LawfulEqCmp.compare_eq_iff_eq, matched.mem_iff]
    refine ⟨Or.inr, ?_⟩
    rintro (rfl | member)
    · exact known
    · exact member
  · rw [if_neg known]
    have new : module ∉ attributions.modules := fun listed => known ((matched.mem_iff module).mp listed)
    refine ⟨nodup_append_singleton matched.nodup new, fun other => ?_⟩
    rw [Std.ExtTreeMap.mem_insert, Std.LawfulEqCmp.compare_eq_iff_eq, List.mem_append, List.mem_singleton,
      matched.mem_iff, or_comm, eq_comm]

theorem Matched.put_modules_ne_nil (matched : attributions.Matched) (module : Address) (entry : Attribution) :
    (attributions.put module entry).modules ≠ [] := by
  have listed : module ∈ (attributions.put module entry).modules :=
    ((matched.put module entry).mem_iff module).mpr Std.ExtTreeMap.mem_insert_self
  exact List.ne_nil_of_mem listed

theorem Matched.drop (matched : attributions.Matched) (module : Address) : (attributions.drop module).Matched := by
  refine ⟨matched.nodup.filter _, fun other => ?_⟩
  rw [Attributions.drop, List.mem_filter, Std.ExtTreeMap.mem_erase, matched.mem_iff, decide_eq_true_eq, and_comm,
    ne_eq, ne_eq, Std.LawfulEqCmp.compare_eq_iff_eq, eq_comm]

end Attributions

namespace Ledger

open IndexBasket.Action

variable {ledger after : Ledger} {component module : Address} {unit virtualUnit : Fixed} {done : Unit}

/-! What is stored. -/

/-- The virtual units of a ledger, default and attributed. -/
inductive Stores (ledger : Ledger) : Fixed → Prop
  | default {component : Address} {virtualUnit : Fixed}
      (found : ledger.defaultUnits[component]? = some virtualUnit) : Stores ledger virtualUnit
  | attributed {component module : Address} {entry : Attribution}
      (found : ledger.attribution? component module = some entry) : Stores ledger entry.virtualUnit

theorem mem_virtualUnits : virtualUnit ∈ ledger.virtualUnits ↔ ledger.Stores virtualUnit := by
  simp only [virtualUnits, List.mem_append, List.mem_flatMap, List.mem_map, AddressMap.mem_values_iff]
  constructor
  · rintro (⟨component, found⟩ | ⟨attributions, ⟨component, table⟩, entry, ⟨module, found⟩, rfl⟩)
    · exact .default found
    · have entered : ledger.attribution? component module = some entry := by
        rw [attribution?, table]
        exact found
      exact .attributed entered
  · rintro (⟨found⟩ | @⟨component, module, entry, found⟩)
    · exact Or.inl ⟨_, found⟩
    · obtain ⟨attributions, table, entered⟩ := Option.bind_eq_some_iff.mp found
      exact Or.inr ⟨attributions, ⟨component, table⟩, entry, ⟨module, entered⟩, rfl⟩

theorem not_stores_empty : ¬empty.Stores virtualUnit := by
  rintro (found | found)
  · rw [empty, Std.ExtTreeMap.getElem?_empty] at found
    cases found
  · rw [attribution?, empty, Std.ExtTreeMap.getElem?_empty] at found
    cases found

theorem stores_withComponents {components : List Address} (stores : Stores { ledger with components } virtualUnit) :
    ledger.Stores virtualUnit := by
  cases stores with
  | default found => exact .default found
  | attributed found => exact .attributed found

theorem stores_rescaled {multiplier : Fixed} :
    Stores { ledger with multiplier } virtualUnit ↔ ledger.Stores virtualUnit := by
  rw [← mem_virtualUnits, ← mem_virtualUnits]
  rfl

theorem getElem?_withDefault (ledger : Ledger) (component asset : Address) (virtualUnit : Fixed) :
    (ledger.withDefault component virtualUnit).defaultUnits[asset]? =
      if component = asset then if virtualUnit = Fixed.zero then none else some virtualUnit
      else ledger.defaultUnits[asset]? := by
  unfold withDefault
  by_cases zero : virtualUnit = Fixed.zero
  · simp only [if_pos zero, Std.ExtTreeMap.getElem?_erase, Std.LawfulEqCmp.compare_eq_iff_eq]
  · simp only [if_neg zero, Std.ExtTreeMap.getElem?_insert, Std.LawfulEqCmp.compare_eq_iff_eq]

theorem external_withDefault (ledger : Ledger) (component : Address) (virtualUnit : Fixed) :
    (ledger.withDefault component virtualUnit).external = ledger.external := by
  unfold withDefault
  split <;> rfl

theorem components_withDefault (ledger : Ledger) (component : Address) (virtualUnit : Fixed) :
    (ledger.withDefault component virtualUnit).components = ledger.components := by
  unfold withDefault
  split <;> rfl

theorem stores_withDefault {stored : Fixed} (stores : (ledger.withDefault component virtualUnit).Stores stored) :
    stored = virtualUnit ∨ ledger.Stores stored := by
  cases stores with
  | default found =>
    rw [getElem?_withDefault] at found
    split at found
    · split at found
      · cases found
      · exact Or.inl (Option.some.inj found).symm
    · exact Or.inr (.default found)
  | attributed found =>
    rw [attribution?, external_withDefault] at found
    exact Or.inr (.attributed found)

theorem stores_withEntry {stored : Fixed} {entry : Attribution}
    (stores : (ledger.withEntry component module entry).Stores stored) :
    stored = entry.virtualUnit ∨ ledger.Stores stored := by
  cases stores with
  | default found => exact Or.inr (.default found)
  | @attributed asset owner other found =>
    rw [attribution?_eq, attributionsOf_withEntry] at found
    split at found
    · rename_i same
      rw [Attributions.put, Std.ExtTreeMap.getElem?_insert, same, ← attribution?_eq] at found
      split at found
      · exact Or.inl (congrArg Attribution.virtualUnit (Option.some.inj found).symm)
      · exact Or.inr (.attributed found)
    · rw [← attribution?_eq] at found
      exact Or.inr (.attributed found)

theorem stores_withoutEntry {stored : Fixed} (stores : (ledger.withoutEntry component module).Stores stored) :
    ledger.Stores stored := by
  cases stores with
  | default found => exact .default found
  | @attributed asset owner other found =>
    rw [attribution?_eq, attributionsOf_withoutEntry] at found
    split at found
    · rename_i same
      split at found
      · rw [Std.ExtTreeMap.getElem?_empty] at found
        cases found
      · rw [Attributions.drop, Std.ExtTreeMap.getElem?_erase, same, ← attribution?_eq] at found
        split at found
        · cases found
        · exact .attributed found
    · rw [← attribution?_eq] at found
      exact .attributed found

/-! What every edit keeps. -/

/-- The invariant of the ledgers that can be made: listed components and modules are
listed once, nothing that has been emptied leaves an entry, and every unit can be
read back. -/
structure Consistent (ledger : Ledger) : Prop where
  readable : ledger.Readable
  nodup : ledger.components.Nodup
  default_ne_zero : ∀ {component : Address} {virtualUnit : Fixed}, ledger.defaultUnits[component]? = some virtualUnit →
    virtualUnit ≠ Fixed.zero
  matched : ∀ component, (ledger.attributionsOf component).Matched
  modules_ne_nil : ∀ {component : Address}, component ∈ ledger.external → (ledger.attributionsOf component).modules ≠ []
  signKept : ∀ {virtualUnit : Fixed}, ledger.Stores virtualUnit → ledger.SignKept virtualUnit

theorem consistent_empty : empty.Consistent where
  readable := readable_empty
  nodup := List.nodup_nil
  default_ne_zero found := by
    rw [empty, Std.ExtTreeMap.getElem?_empty] at found
    cases found
  matched component := by
    rw [attributionsOf_eq, empty, Std.ExtTreeMap.getElem?_empty]
    exact .empty
  modules_ne_nil member := absurd member Std.ExtTreeMap.not_mem_empty
  signKept stores := absurd stores not_stores_empty

theorem Consistent.withComponents (consistent : ledger.Consistent) {components : List Address}
    (nodup : components.Nodup) : Consistent { ledger with components } where
  readable := consistent.readable
  nodup := nodup
  default_ne_zero := consistent.default_ne_zero
  matched := consistent.matched
  modules_ne_nil := consistent.modules_ne_nil
  signKept stores := consistent.signKept (stores_withComponents stores)

theorem Consistent.append (consistent : ledger.Consistent) (absent : ¬ledger.isComponent component = true) :
    Consistent { ledger with components := ledger.components ++ [component] } := by
  have new : component ∉ ledger.components := fun member => absent (List.contains_iff_mem.mpr member)
  exact consistent.withComponents (nodup_append_singleton consistent.nodup new)

theorem Consistent.erase (consistent : ledger.Consistent) (component : Address) :
    Consistent { ledger with components := ledger.components.erase component } :=
  consistent.withComponents (consistent.nodup.erase component)

theorem Consistent.enlist (consistent : ledger.Consistent) (component : Address) :
    (ledger.enlist component).Consistent := by
  unfold Ledger.enlist
  split
  · exact consistent
  · rename_i absent
    exact consistent.append absent

theorem Consistent.withDefault (consistent : ledger.Consistent) (component : Address)
    (kept : ledger.SignKept virtualUnit) : (ledger.withDefault component virtualUnit).Consistent where
  readable := by
    unfold Readable
    rw [multiplier_withDefault]
    exact consistent.readable
  nodup := by
    rw [components_withDefault]
    exact consistent.nodup
  default_ne_zero found := by
    rw [getElem?_withDefault] at found
    split at found
    · split at found
      · cases found
      · rename_i nonzero
        exact Option.some.inj found ▸ nonzero
    · exact consistent.default_ne_zero found
  matched asset := by
    rw [attributionsOf, external_withDefault]
    exact consistent.matched asset
  modules_ne_nil member := by
    rw [external_withDefault] at member
    rw [attributionsOf, external_withDefault]
    exact consistent.modules_ne_nil member
  signKept stores := by
    unfold SignKept
    rw [toReal_congr (multiplier_withDefault ledger component virtualUnit)]
    rcases stores_withDefault stores with rfl | before
    · exact kept
    · exact consistent.signKept before

theorem Consistent.withEntry (consistent : ledger.Consistent) (component module : Address) {entry : Attribution}
    (kept : ledger.SignKept entry.virtualUnit) : (ledger.withEntry component module entry).Consistent where
  readable := consistent.readable
  nodup := consistent.nodup
  default_ne_zero := consistent.default_ne_zero
  matched asset := by
    rw [attributionsOf_withEntry]
    split
    · exact (consistent.matched component).put module entry
    · exact consistent.matched asset
  modules_ne_nil {asset} member := by
    rw [attributionsOf_withEntry]
    split
    · exact (consistent.matched component).put_modules_ne_nil module entry
    · rename_i different
      rw [Ledger.withEntry, Std.ExtTreeMap.mem_insert, Std.LawfulEqCmp.compare_eq_iff_eq] at member
      exact consistent.modules_ne_nil (member.resolve_left different)
  signKept stores := by
    rcases stores_withEntry stores with rfl | before
    · exact kept
    · exact consistent.signKept before

theorem mem_external_withoutEntry (ledger : Ledger) (component module asset : Address) :
    asset ∈ (ledger.withoutEntry component module).external ↔
      if component = asset then ((ledger.attributionsOf component).drop module).modules ≠ []
      else asset ∈ ledger.external := by
  rw [Ledger.withoutEntry]
  by_cases same : component = asset
  · rw [if_pos same]
    split
    · rename_i last
      rw [Std.ExtTreeMap.mem_erase, ne_eq, Std.LawfulEqCmp.compare_eq_iff_eq]
      exact iff_of_false (fun kept => kept.1 same) (fun kept => kept last)
    · rename_i left
      rw [Std.ExtTreeMap.mem_insert, Std.LawfulEqCmp.compare_eq_iff_eq]
      exact iff_of_true (Or.inl same) left
  · rw [if_neg same]
    split
    · rw [Std.ExtTreeMap.mem_erase, ne_eq, Std.LawfulEqCmp.compare_eq_iff_eq]
      exact and_iff_right same
    · rw [Std.ExtTreeMap.mem_insert, Std.LawfulEqCmp.compare_eq_iff_eq]
      exact or_iff_right same

theorem Consistent.withoutEntry (consistent : ledger.Consistent) (component module : Address) :
    (ledger.withoutEntry component module).Consistent where
  readable := consistent.readable
  nodup := consistent.nodup
  default_ne_zero := consistent.default_ne_zero
  matched asset := by
    rw [attributionsOf_withoutEntry]
    split
    · split
      · exact .empty
      · exact (consistent.matched component).drop module
    · exact consistent.matched asset
  modules_ne_nil {asset} member := by
    rw [mem_external_withoutEntry] at member
    rw [attributionsOf_withoutEntry]
    split at member
    · rw [if_pos ‹_›, if_neg member]
      exact member
    · rw [if_neg ‹_›]
      exact consistent.modules_ne_nil member
  signKept stores := consistent.signKept (stores_withoutEntry stores)

theorem Consistent.withoutPosition (consistent : ledger.Consistent) (component module : Address) :
    (ledger.withoutPosition component module).Consistent := by
  unfold Ledger.withoutPosition
  dsimp only
  split
  · exact (consistent.withoutEntry component module).erase component
  · exact consistent.withoutEntry component module

theorem Consistent.rescaled (consistent : ledger.Consistent) {multiplier : Fixed}
    (passed : checkMultiplier ledger.virtualUnits multiplier = .ok ()) :
    Consistent { ledger with multiplier } where
  readable := checkMultiplier_pos passed
  nodup := consistent.nodup
  default_ne_zero := consistent.default_ne_zero
  matched := consistent.matched
  modules_ne_nil := consistent.modules_ne_nil
  signKept {virtualUnit} stores := by
    have stored := mem_virtualUnits.mpr (stores_rescaled.mp stores)
    refine signKept_of_pos (checkMultiplier_pos passed) fun positive zero => ?_
    have read : 0 < (toReal { ledger with multiplier } virtualUnit).toInt :=
      toReal_pos (checkMultiplier_worth passed stored positive) positive
    rw [zero] at read
    exact absurd read (by decide)

/-- An edit that goes through keeps the invariant: what it stores has been converted
from a real unit at the multiplier of the ledger, or was stored before. -/
theorem Consistent.edit (consistent : ledger.Consistent) {edit : Edit} (run : edit.apply ledger = .ok done after) :
    after.Consistent := by
  have readable := consistent.readable
  cases edit with
  | addComponent component =>
    obtain ⟨absent, rfl⟩ := addComponent_eq_ok.mp run
    exact consistent.append absent
  | removeComponent component =>
    obtain ⟨_, rfl⟩ := removeComponent_eq_ok.mp run
    exact consistent.erase component
  | defaultUnit component unit =>
    obtain ⟨virtualUnit, stored, rfl⟩ := setDefaultUnit_eq_ok.mp run
    exact consistent.withDefault component (signKept_toVirtual readable stored)
  | defaultPosition component unit =>
    obtain ⟨virtualUnit, components, stored, rfl, listing⟩ := setDefaultPosition_cases run
    have kept : SignKept { ledger with components } virtualUnit := signKept_toVirtual readable stored
    rcases listing with ⟨_, absent, _, rfl⟩ | ⟨_, _, _, rfl⟩ | ⟨rfl, _⟩
    · exact (consistent.append fun listed => absent (List.contains_iff_mem.mp listed)).withDefault component kept
    · exact (consistent.erase component).withDefault component kept
    · exact consistent.withDefault component kept
  | addAttribution component module =>
    obtain ⟨_, rfl⟩ := addAttribution_eq_ok.mp run
    exact consistent.withEntry component module (by unfold SignKept; rw [toReal_zero])
  | removeAttribution component module =>
    obtain ⟨_, rfl⟩ := removeAttribution_eq_ok.mp run
    exact consistent.withoutEntry component module
  | externalUnit component module unit =>
    obtain ⟨virtualUnit, entry, stored, _, rfl⟩ := setExternalUnit_eq_ok.mp run
    exact consistent.withEntry component module (signKept_toVirtual readable stored)
  | externalData component module data =>
    obtain ⟨entry, found, rfl⟩ := setExternalData_eq_ok.mp run
    have kept : ledger.SignKept entry.virtualUnit := consistent.signKept (.attributed found)
    exact consistent.withEntry component module kept
  | externalPosition component module unit data =>
    obtain ⟨virtualUnit, stored, rfl⟩ | ⟨_, rfl⟩ | rfl := setExternalPosition_cases run
    · refine (consistent.enlist component).withEntry component module ?_
      unfold SignKept
      rw [toReal_congr (multiplier_enlist ledger component)]
      exact signKept_toVirtual readable stored
    · exact consistent.withoutPosition component module
    · exact consistent
  | rescale multiplier =>
    obtain ⟨passed, rfl⟩ := setMultiplier_eq_ok.mp run
    exact consistent.rescaled passed

theorem moves_edit_consistent (edit : Edit) : Moves (Preserves Consistent) edit.apply :=
  (failsInPlace_edit edit).moves fun run consistent => consistent.edit run

/-- The ledgers that can be made: empty or opened with positions, and edited since by
any edits, of which some may have failed. -/
inductive Built : Ledger → Prop
  | empty : Built empty
  | opened {ledger : Ledger} (positions : List (Address × Fixed)) (run : ofPositions positions = .ok ledger) :
      Built ledger
  | edit {ledger : Ledger} (built : Built ledger) (edit : Edit) : Built (edit.apply.final ledger)

/-- What the empty ledger has and every edit keeps, failed or not, holds of all of them. -/
theorem Built.keeps {kept : Ledger → Prop} (each : ∀ edit : Edit, Moves (Preserves kept) edit.apply)
    (start : kept Ledger.empty) (built : ledger.Built) : kept ledger := by
  induction built with
  | empty => exact start
  | opened positions run => exact kept_ofPositions each start run
  | edit _ edit ih => exact each edit _ ih

theorem Built.of_ok (built : ledger.Built) {edit : Edit} (run : edit.apply ledger = .ok done after) : after.Built := by
  rw [← final_of_ok run]
  exact built.edit edit

theorem Built.consistent (built : ledger.Built) : ledger.Consistent :=
  built.keeps moves_edit_consistent consistent_empty

/-- What the stored parts of a ledger agree on, however it has been edited. A unit that
is not zero stays so under the multiplier, with its sign. -/
theorem Built.storage_agrees (built : ledger.Built) :
    0 < ledger.multiplier.toInt ∧ ledger.components.Nodup ∧
      (∀ (component : Address) (virtualUnit : Fixed), ledger.defaultUnits[component]? = some virtualUnit →
        virtualUnit ≠ Fixed.zero) ∧
      (∀ (component : Address) (attributions : Attributions), ledger.external[component]? = some attributions →
        attributions.modules ≠ [] ∧ attributions.modules.Nodup ∧
          ∀ module, module ∈ attributions.modules ↔ module ∈ attributions.entries) ∧
      ∀ virtualUnit, ledger.Stores virtualUnit → virtualUnit ≠ Fixed.zero →
        ledger.toReal virtualUnit ≠ Fixed.zero ∧
          (ledger.toReal virtualUnit).toInt.sign = virtualUnit.toInt.sign := by
  have consistent := built.consistent
  refine ⟨consistent.readable, consistent.nodup, fun _ _ => consistent.default_ne_zero, ?_, ?_⟩
  · intro component attributions found
    have table := attributionsOf_of_getElem? found
    have matched := consistent.matched component
    have filled := consistent.modules_ne_nil (Std.ExtTreeMap.mem_iff_isSome_getElem?.mpr (by rw [found]; rfl))
    rw [table] at matched filled
    exact ⟨filled, matched.nodup, matched.mem_iff⟩
  · intro virtualUnit stores nonzero
    have kept : (ledger.toReal virtualUnit).toInt.sign = virtualUnit.toInt.sign := consistent.signKept stores
    refine ⟨fun vanished => nonzero (Fixed.ext ?_), kept⟩
    have unsigned : virtualUnit.toInt.sign = 0 := by
      rw [← kept, vanished]
      rfl
    exact Int.sign_eq_zero_iff_zero.mp unsigned

theorem Built.storage_agrees_short :
    let dai : Address := ⟨"dai", by decide, by decide⟩
    let lender : Address := ⟨"lender", by decide, by decide⟩
    let ledger := (Edit.rescale (Fixed.ofInt 400_000_000_000_000_000)).apply.final
      ((Edit.externalPosition dai lender (Fixed.ofInt (-1)) []).apply.final
        ((Edit.defaultPosition dai (Fixed.ofInt 5)).apply.final Ledger.empty))
    ledger.Built ∧ ledger.components = [dai] ∧ ledger.externalModules dai = [lender] ∧
      ledger.defaultRealUnit dai = Fixed.ofInt 2 ∧ ledger.Stores (Fixed.ofInt (-1)) ∧
      (ledger.toReal (Fixed.ofInt (-1))).toInt.sign = -1 := by
  intro dai lender ledger
  have built : ledger.Built := .edit (.edit (.edit .empty _) _) _
  have entered : ledger.attribution? dai lender = some { virtualUnit := Fixed.ofInt (-1) } := by decide +kernel
  have stores : ledger.Stores (Fixed.ofInt (-1)) := .attributed entered
  obtain ⟨_, _, _, _, read⟩ := built.storage_agrees
  have kept := (read _ stores (by decide)).2
  exact ⟨built, by decide +kernel, by decide +kernel, by decide +kernel, stores, kept⟩

end Ledger

end IndexBasket
