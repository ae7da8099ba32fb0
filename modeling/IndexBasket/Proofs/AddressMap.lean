import IndexBasket.Address

namespace IndexBasket

namespace AddressMap

variable {β : Type}

theorem modify_insert (map : AddressMap β) (key : Address) (value : β) (change : β → β) :
    (map.insert key value).modify key change = map.insert key (change value) := by
  refine Std.ExtTreeMap.ext_getElem? fun other => ?_
  rw [Std.ExtTreeMap.getElem?_modify, Std.ExtTreeMap.getElem?_insert_self, Std.ExtTreeMap.getElem?_insert,
    Std.ExtTreeMap.getElem?_insert]
  split
  · rfl
  · rfl

theorem insert_insert (map : AddressMap β) (key : Address) (first second : β) :
    (map.insert key first).insert key second = map.insert key second := by
  refine Std.ExtTreeMap.ext_getElem? fun other => ?_
  simp only [Std.ExtTreeMap.getElem?_insert]
  split
  · rfl
  · rfl

theorem erase_insert (map : AddressMap β) (key : Address) (value : β) :
    (map.insert key value).erase key = map.erase key := by
  refine Std.ExtTreeMap.ext_getElem? fun other => ?_
  simp only [Std.ExtTreeMap.getElem?_erase, Std.ExtTreeMap.getElem?_insert]
  split
  · rfl
  · rfl

theorem modify_eq_insert {map : AddressMap β} {key : Address} {value : β}
    (found : map[key]? = some value) (change : β → β) : map.modify key change = map.insert key (change value) := by
  refine Std.ExtTreeMap.ext_getElem? fun other => ?_
  rw [Std.ExtTreeMap.getElem?_modify, Std.ExtTreeMap.getElem?_insert, found]
  rfl

theorem insert_eq_self {map : AddressMap β} {key : Address} {value : β}
    (found : map[key]? = some value) : map.insert key value = map := by
  refine Std.ExtTreeMap.ext_getElem? fun other => ?_
  rw [Std.ExtTreeMap.getElem?_insert]
  split
  · rename_i same
    rw [← Std.LawfulEqCmp.compare_eq_iff_eq.mp same, found]
  · rfl

/-- The values of a map are what is found in it at some key. -/
theorem mem_values_iff {map : AddressMap β} {value : β} :
    value ∈ map.values ↔ ∃ key : Address, map[key]? = some value := by
  have listed : map.values = map.foldr (fun _ value rest => value :: rest) [] := by
    obtain ⟨inner⟩ := map
    exact inner.inductionOn fun _ => rfl
  have projected : ∀ entries : List (Address × β),
      entries.foldr (fun entry rest => entry.2 :: rest) [] = entries.map Prod.snd := by
    intro entries
    induction entries with
    | nil => rfl
    | cons entry rest ih => rw [List.foldr_cons, List.map_cons, ih]
  rw [listed, Std.ExtTreeMap.foldr_eq_foldr_toList, projected, List.mem_map]
  simp only [Prod.exists, Std.ExtTreeMap.mem_toList_iff_getElem?_eq_some, exists_eq_right]

end AddressMap

end IndexBasket
