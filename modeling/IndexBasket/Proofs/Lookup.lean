import Mathlib.Data.List.Nodup
import Mathlib.Data.List.Perm.Basic

/-! Lists of entries in which every key stands once. -/

namespace IndexBasket

variable {α β : Type} [DecidableEq α] {entries others : List (α × β)} {key : α} {value : β}

/-- Where every key stands once, the entries under a key are found by a lookup. -/
theorem filter_key_eq_lookup (distinct : (entries.map Prod.fst).Nodup) (key : α) :
    entries.filter (·.1 = key) = ((entries.lookup key).map (key, ·)).toList := by
  induction entries with
  | nil => rfl
  | cons entry rest ih =>
    obtain ⟨name, value⟩ := entry
    rw [List.map_cons, List.nodup_cons] at distinct
    rw [List.lookup_cons]
    by_cases same : name = key
    · subst same
      have later : rest.filter (·.1 = name) = [] := by
        refine List.filter_eq_nil_iff.mpr fun other member again => distinct.1 ?_
        exact List.mem_map.mpr ⟨other, member, of_decide_eq_true again⟩
      rw [List.filter_cons_of_pos (by simp), later, beq_self_eq_true]
      rfl
    · rw [List.filter_cons_of_neg (by simpa using same), ih distinct.2, beq_eq_false_iff_ne.mpr (Ne.symm same)]

theorem lookup_eq_some_iff_mem (distinct : (entries.map Prod.fst).Nodup) :
    entries.lookup key = some value ↔ (key, value) ∈ entries := by
  have listed := filter_key_eq_lookup distinct key
  constructor
  · intro found
    rw [found, Option.map_some, Option.toList_some] at listed
    exact List.mem_of_mem_filter (listed ▸ List.mem_singleton_self (key, value))
  · intro member
    have kept : (key, value) ∈ entries.filter (·.1 = key) := List.mem_filter.mpr ⟨member, decide_eq_true rfl⟩
    rw [listed, Option.mem_toList, Option.map_eq_some_iff] at kept
    obtain ⟨_, found, ⟨⟩⟩ := kept
    exact found

theorem lookup_of_perm (order : entries.Perm others) (distinct : (entries.map Prod.fst).Nodup) (key : α) :
    entries.lookup key = others.lookup key := by
  refine Option.ext fun value => ?_
  rw [lookup_eq_some_iff_mem distinct, lookup_eq_some_iff_mem ((order.map Prod.fst).nodup_iff.mp distinct),
    order.mem_iff]

/-- The entry under a key and the entries under other keys are all of them. -/
theorem perm_cons_filter_ne (distinct : (entries.map Prod.fst).Nodup) (member : (key, value) ∈ entries) :
    ((key, value) :: entries.filter (·.1 ≠ key)).Perm entries := by
  have split := List.filter_append_perm (·.1 = key) entries
  rw [filter_key_eq_lookup distinct, (lookup_eq_some_iff_mem distinct).mpr member, Option.map_some,
    Option.toList_some, List.singleton_append] at split
  simpa only [ne_eq, decide_not] using split

end IndexBasket
