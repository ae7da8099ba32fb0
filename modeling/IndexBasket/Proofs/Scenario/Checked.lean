import IndexBasket.Proofs.Action
import IndexBasket.Proofs.Number.Fixed
import IndexBasket.Scenario.Basic
import Mathlib.Data.List.Perm.Basic

/-!
What the lists of a scenario say once they have been checked: they are read entry by entry
as they are written, and the order in which targets are listed does not matter.
-/

namespace IndexBasket

/-- An entry of a list names an asset and writes out a number of base units. -/
def QuantityDraft.Reads (draft : QuantityDraft) (asset : Address) (number : Int) : Prop :=
  draft.asset = asset.name ∧ (Fixed.parse? 18 draft.quantity).map Fixed.toInt = some number

/-- A scenario whose numbers and lists are read as they are written. -/
structure ScenarioDraft.Lists (draft : ScenarioDraft) (scenario : Scenario) : Prop where
  totalSupply : (Fixed.parse? 18 draft.totalSupply).map Fixed.toInt = some (scenario.totalSupply.toNat : Int)
  positions : List.Forall₂ (fun draft position => draft.Reads position.1 position.2.toInt)
    draft.positions scenario.positions
  excess : List.Forall₂ (fun draft balance => draft.Reads balance.1 (balance.2.toNat : Int))
    draft.excess scenario.excess
  targets : List.Forall₂ (fun draft target => draft.Reads target.1 target.2.toInt) draft.targets scenario.targets
  newComponents : List.Forall₂ (fun draft target => draft.Reads target.1 target.2.toInt)
    draft.newComponents scenario.newComponents

theorem Address.ofString?_eq_some {text : String} {address : Address} :
    Address.ofString? text = some address ↔ text = address.name := by
  unfold Address.ofString?
  constructor
  · intro found
    split at found
    · cases found
      rfl
    · cases found
  · rintro rfl
    exact dif_pos ⟨address.nonempty, address.short⟩

theorem Fixed.toAmount?_eq_some {unit : Fixed} {amount : Amount} :
    unit.toAmount? = some amount ↔ unit.toInt = amount.toNat := by
  unfold Fixed.toAmount?
  split
  · exact iff_of_false nofun (by omega)
  · rw [Option.some.injEq, Amount.ext_iff, Fixed.magnitude_toNat]
    omega

namespace Scenario

theorem address_eq_ok {text : String} {asset : Address} : address text = .ok asset ↔ text = asset.name := by
  rw [address, demand_eq_ok, Address.ofString?_eq_some]

theorem unit_eq_ok {text : String} {quantity : Fixed} :
    unit text = .ok quantity ↔ (Fixed.parse? 18 text).map Fixed.toInt = some quantity.toInt := by
  rw [unit, demand_eq_ok, Option.map_eq_some_iff]
  constructor
  · exact fun read => ⟨quantity, read, rfl⟩
  · rintro ⟨found, read, same⟩
    rwa [Fixed.ext same] at read

theorem amount_eq_ok {text : String} {quantity : Amount} :
    amount text = .ok quantity ↔ (Fixed.parse? 18 text).map Fixed.toInt = some (quantity.toNat : Int) := by
  simp only [amount, unit, Except.bind_eq_ok, demand_eq_ok, Fixed.toAmount?_eq_some, Option.map_eq_some_iff]

end Scenario

namespace ScenarioDraft

open Scenario

variable {draft : ScenarioDraft} {scenario : Scenario} {drafts : List QuantityDraft} {seen : List Address}

theorem checkPositions_eq_ok {positions : List (Address × Fixed)} (run : checkPositions seen drafts = .ok positions) :
    List.Forall₂ (fun draft position => draft.Reads position.1 position.2.toInt) drafts positions ∧
      (positions.map Prod.fst).Nodup ∧ ∀ position ∈ positions, position.1 ∉ seen ∧ Fixed.zero < position.2 := by
  induction drafts generalizing seen positions with
  | nil =>
    cases run
    exact ⟨.nil, .nil, fun _ => nofun⟩
  | cons position rest ih =>
    simp only [checkPositions, Except.bind_eq_ok, Except.guard_bind_eq_ok, address_eq_ok, unit_eq_ok] at run
    obtain ⟨asset, named, new, unit, read, positive, positions, others, ⟨⟩⟩ := run
    obtain ⟨each, distinct, later⟩ := ih others
    rw [List.contains_iff_mem] at new
    refine ⟨.cons ⟨named, read⟩ each, List.nodup_cons.mpr ⟨fun again => ?_, distinct⟩, fun other member => ?_⟩
    · obtain ⟨other, member, same⟩ := List.mem_map.mp again
      exact (later other member).1 (same ▸ List.mem_cons_self)
    · rcases List.mem_cons.mp member with rfl | member
      · exact ⟨new, Int.not_le.mp positive⟩
      · exact ⟨fun before => (later other member).1 (List.mem_cons_of_mem _ before), (later other member).2⟩

/-- Targets pass exactly where each of them can be read and none is named twice. -/
theorem checkTargets_eq_ok {targets : List (Address × Fixed)} :
    checkTargets seen drafts = .ok targets ↔
      List.Forall₂ (fun draft target => draft.Reads target.1 target.2.toInt) drafts targets ∧
        (targets.map Prod.fst).Nodup ∧ ∀ target ∈ targets, target.1 ∉ seen := by
  induction drafts generalizing seen targets with
  | nil =>
    rw [checkTargets, List.forall₂_nil_left_iff]
    constructor
    · rintro ⟨⟩
      exact ⟨rfl, .nil, fun _ => nofun⟩
    · rintro ⟨rfl, _⟩
      rfl
  | cons draft rest ih =>
    simp only [checkTargets, Except.bind_eq_ok, Except.guard_bind_eq_ok, address_eq_ok, unit_eq_ok,
      List.contains_iff_mem, ih]
    constructor
    · rintro ⟨asset, named, new, unit, read, targets, ⟨each, distinct, later⟩, ⟨⟩⟩
      refine ⟨.cons ⟨named, read⟩ each, List.nodup_cons.mpr ⟨fun again => ?_, distinct⟩, fun other member => ?_⟩
      · obtain ⟨other, member, same⟩ := List.mem_map.mp again
        exact later other member (same ▸ List.mem_cons_self)
      · rcases List.mem_cons.mp member with rfl | member
        · exact new
        · exact fun before => later other member (List.mem_cons_of_mem _ before)
    · rintro ⟨each, distinct, new⟩
      cases each with
      | @cons _ target _ targets first each =>
        rw [List.map_cons, List.nodup_cons] at distinct
        refine ⟨target.1, first.1, new target List.mem_cons_self, target.2, first.2, targets,
          ⟨each, distinct.2, fun other member => ?_⟩, rfl⟩
        rw [List.mem_cons, not_or]
        exact ⟨fun same => distinct.1 (same ▸ List.mem_map_of_mem member), new other (List.mem_cons_of_mem _ member)⟩

theorem checkBalance_eq_ok {draft : QuantityDraft} {balance : Address × Amount} :
    checkBalance draft = .ok balance ↔ draft.Reads balance.1 (balance.2.toNat : Int) := by
  simp only [checkBalance, Except.bind_eq_ok, address_eq_ok, amount_eq_ok]
  constructor
  · rintro ⟨asset, named, amount, read, ⟨⟩⟩
    exact ⟨named, read⟩
  · rintro ⟨named, read⟩
    exact ⟨_, named, _, read, rfl⟩

theorem forall₂_checkBalance {excess : List (Address × Amount)} (run : drafts.mapM checkBalance = .ok excess) :
    List.Forall₂ (fun draft balance => draft.Reads balance.1 (balance.2.toNat : Int)) drafts excess := by
  induction drafts generalizing excess with
  | nil =>
    cases run
    exact .nil
  | cons draft rest ih =>
    simp only [List.mapM_cons, Except.bind_eq_ok, checkBalance_eq_ok] at run
    obtain ⟨balance, first, balances, others, ⟨⟩⟩ := run
    exact .cons first (ih others)

/-- What a scenario that has been checked says. -/
theorem lists_of_check (checked : draft.check = .ok scenario) :
    draft.Lists scenario ∧ (scenario.positions.map Prod.fst).Nodup ∧
      (∀ position ∈ scenario.positions, Fixed.zero < position.2) ∧ (scenario.targets.map Prod.fst).Nodup := by
  simp only [check, Except.bind_eq_ok, Except.guard_bind_eq_ok] at checked
  obtain ⟨basket, _, manager, _, totalSupply, supply, _, _, positions, listed, excess, balances, venues, _,
    targets, olds, newComponents, news, ⟨⟩⟩ := checked
  obtain ⟨eachPosition, distinct, positive⟩ := checkPositions_eq_ok listed
  obtain ⟨eachTarget, apart, _⟩ := checkTargets_eq_ok.mp olds
  obtain ⟨eachNew, _, _⟩ := checkTargets_eq_ok.mp news
  exact ⟨⟨amount_eq_ok.mp supply, eachPosition, forall₂_checkBalance balances, eachTarget, eachNew⟩, distinct,
    fun position member => (positive position member).2, apart⟩

/-- A scenario with its targets in another order passes as well, and says the same. -/
theorem check_of_perm (checked : draft.check = .ok scenario) {drafts : List QuantityDraft}
    (order : drafts.Perm draft.targets) :
    ∃ targets, targets.Perm scenario.targets ∧
      check { draft with targets := drafts } = .ok { scenario with targets } := by
  simp only [check, Except.bind_eq_ok, Except.guard_bind_eq_ok] at checked
  obtain ⟨basket, based, manager, managed, totalSupply, supply, some, listed, positions, held, excess, balances, venues,
    opened, targets, olds, newComponents, news, ⟨⟩⟩ := checked
  obtain ⟨each, distinct, new⟩ := checkTargets_eq_ok.mp olds
  obtain ⟨eachNew, apart, later⟩ := checkTargets_eq_ok.mp news
  obtain ⟨targets', each', same⟩ := List.perm_comp_forall₂ order each
  have names := same.map Prod.fst
  refine ⟨targets', same, ?_⟩
  simp only [check, Except.bind_eq_ok, Except.guard_bind_eq_ok]
  refine ⟨basket, based, manager, managed, totalSupply, supply, some, listed, positions, held, excess, balances,
    venues, opened, targets', checkTargets_eq_ok.mpr ⟨each', names.nodup_iff.mpr distinct, ?_⟩, newComponents,
    checkTargets_eq_ok.mpr ⟨eachNew, apart, ?_⟩, rfl⟩
  · exact fun target member => new target (same.mem_iff.mp member)
  · intro target member
    rw [List.mem_reverse, names.mem_iff, ← List.mem_reverse]
    exact later target member

end ScenarioDraft

end IndexBasket
