import IndexBasket.Proofs.Action
import IndexBasket.Proofs.Lookup
import IndexBasket.Scenario.Build

/-!
Targets are listed by name, and the components of a basket have an order of their own. How
the two are brought together does not depend on the order of the list.
-/

namespace IndexBasket

namespace Address

instance : LE Address := ⟨fun a b => (compare a b).isLE⟩

instance : Std.IsLinearOrder Address where
  le_refl _ := Std.ReflCmp.isLE_rfl
  le_trans _ _ _ := Std.TransCmp.isLE_trans
  le_antisymm _ _ below above := Std.LawfulEqCmp.eq_of_compare (Std.OrientedCmp.isLE_antisymm below above)
  le_total a b := by
    change (compare a b).isLE = true ∨ (compare b a).isLE = true
    have swapped : compare b a = (compare a b).swap := Std.OrientedCmp.eq_swap
    rw [swapped]
    cases compare a b <;> decide

instance : Std.LawfulOrderLeftLeaningMin Address where
  min_eq_left _ _ below := if_pos below
  min_eq_right _ _ above := if_neg above

theorem min?_of_perm {addresses others : List Address} (order : addresses.Perm others) :
    addresses.min? = others.min? := by
  refine Option.ext fun least => ?_
  simp only [List.min?_eq_some_iff, order.mem_iff]

end Address

namespace Scenario

variable {targets others : List (Address × Fixed)} {components : List Address}

/-- The targets of the components are the listed ones, in the order of the components. -/
theorem heldTargets_eq_ok (distinct : (targets.map Prod.fst).Nodup) {units : List Fixed} :
    heldTargets targets components = .ok units ↔
      components.length = units.length ∧ (components.zip units).Perm targets := by
  induction components generalizing targets units with
  | nil =>
    rw [heldTargets, List.zip_nil_left, List.nil_perm]
    cases least : (targets.map Prod.fst).min? with
    | some extra =>
      refine iff_of_false nofun fun none => ?_
      rw [none.2] at least
      cases least
    | none =>
      have empty : targets = [] := List.map_eq_nil_iff.mp (List.min?_eq_none_iff.mp least)
      dsimp only
      rw [Except.ok.injEq, and_iff_left empty]
      cases units with
      | nil => exact iff_of_true rfl rfl
      | cons => exact iff_of_false nofun nofun
  | cons component rest ih =>
    have others : ((targets.filter (·.1 ≠ component)).map Prod.fst).Nodup := distinct.sublist
      (List.filter_sublist.map _)
    simp only [heldTargets, Except.bind_eq_ok, demand_eq_ok, lookup_eq_some_iff_mem distinct, ih others]
    constructor
    · rintro ⟨target, listed, units, ⟨length, order⟩, ⟨⟩⟩
      refine ⟨congrArg (· + 1) length, ?_⟩
      rw [List.zip_cons_cons]
      exact (order.cons _).trans (perm_cons_filter_ne distinct listed)
    · rintro ⟨length, order⟩
      cases units with
      | nil => cases length
      | cons target units =>
        rw [List.zip_cons_cons] at order
        have listed : (component, target) ∈ targets := order.mem_iff.mp List.mem_cons_self
        have later := order.trans (perm_cons_filter_ne distinct listed).symm
        exact ⟨target, listed, units, ⟨Nat.succ.inj length, later.cons_inv⟩, rfl⟩

/-- The order of the targets decides neither what they are nor what is said against them. -/
theorem heldTargets_of_perm (order : targets.Perm others) (distinct : (targets.map Prod.fst).Nodup)
    (components : List Address) : heldTargets targets components = heldTargets others components := by
  induction components generalizing targets others with
  | nil => rw [heldTargets, heldTargets, Address.min?_of_perm (order.map Prod.fst)]
  | cons component rest ih =>
    rw [heldTargets, heldTargets, lookup_of_perm order distinct,
      ih (order.filter _) (distinct.sublist (List.filter_sublist.map _))]

end Scenario

end IndexBasket
