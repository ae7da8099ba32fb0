import IndexBasket.Proofs.Json.Shuffled
import IndexBasket.Proofs.Number.Fixed
import IndexBasket.Stored.Basic

namespace IndexBasket

open Json (Keeps keeps_text keeps_natural keeps_list)

/-- A table is put together again from its entries in any order. -/
theorem foldl_insert_perm {κ β : Type} [DecidableEq κ] [Ord κ] [Std.TransOrd κ] [Std.LawfulEqOrd κ]
    {table : Std.ExtTreeMap κ β} {pairs : List (κ × β)} (order : pairs.Perm table.toList) :
    pairs.foldl (fun table (key, value) => table.insert key value) ∅ = table := by
  have distinct : pairs.Pairwise fun a b => ¬compare a.1 b.1 = .eq :=
    (order.pairwise_iff fun apart same => apart (Std.OrientedCmp.eq_symm same)).mpr table.distinct_keys_toList
  refine Eq.trans Std.ExtTreeMap.ofList_eq_foldl.symm (Std.ExtTreeMap.ext_getElem? fun key => ?_)
  cases found : table[key]? with
  | some value =>
    have listed : (key, value) ∈ pairs :=
      order.mem_iff.mpr (Std.ExtTreeMap.mem_toList_iff_getElem?_eq_some.mpr found)
    exact Std.ExtTreeMap.getElem?_ofList_of_mem Std.ReflCmp.compare_self distinct listed
  | none =>
    refine Std.ExtTreeMap.getElem?_ofList_of_contains_eq_false (Bool.eq_false_iff.mpr fun contained => ?_)
    obtain ⟨⟨_, value⟩, listed, rfl⟩ := List.mem_map.mp (List.contains_iff_mem.mp contained)
    rw [Std.ExtTreeMap.mem_toList_iff_getElem?_eq_some.mp (order.mem_iff.mp listed)] at found
    cases found

theorem table_of_perm {ι κ β : Type} [DecidableEq κ] [Ord κ] [Std.TransOrd κ] [Std.LawfulEqOrd κ]
    {f : ι → Option (κ × β)} {table : Std.ExtTreeMap κ β} {items others : List ι}
    (each : List.Forall₂ (fun item entry => f item = some entry) items table.toList) (order : items.Perm others) :
    ((others.mapM f).bind fun entries => some (entries.foldl (fun table (key, value) => table.insert key value) ∅)) =
      some table := by
  obtain ⟨entries, read, same⟩ := mapM_of_perm each order
  rw [read, Option.bind_some, foldl_insert_perm same]

theorem Amount.stored (amount : Amount) : Keeps Json.amount? amount.toJson amount :=
  (keeps_natural (Nat.le_pred_of_lt amount.lt_size)).bind (Amount.ofNat?_eq_some.mpr rfl)

theorem stored_byte (byte : UInt8) : Keeps Json.byte? (.ofNat byte.toNat) byte := by
  have small : byte.toNat ≤ 255 := Nat.le_pred_of_lt byte.toNat_lt
  refine ⟨Json.legible_ofNat byte.toNat, fun other shuffled => ?_⟩
  rw [Json.byte?, (keeps_natural small).read shuffled, Option.map_some, UInt8.ofNat_toNat]

theorem Fixed.stored (value : Fixed) : Keeps Json.fixed? value.toJson value := by
  refine ⟨Json.legible_ofInt value.toInt, fun other shuffled => ?_⟩
  unfold Fixed.toJson Json.ofInt at shuffled
  split at shuffled
  · rename_i negative
    cases shuffled
    rw [Json.fixed?, String.toList_ofList]
    change (Digits.natural? _).bind _ = _
    rw [Json.natural?_toDigits, Option.bind_some, Fixed.ofInt?_eq_some]
    omega
  · rename_i nonnegative
    cases shuffled
    rw [Json.fixed?, String.toList_ofList]
    split
    · rename_i digits
      have digit := Digits.all_toDigits value.toInt.natAbs '-' (by rw [digits]; exact List.mem_cons_self)
      cases digit
    · rw [Json.natural?_toDigits, Option.bind_some, Fixed.ofInt?_eq_some]
      omega

theorem Address.stored (address : Address) : Keeps Address.ofJson? address.toJson address :=
  (keeps_text address.name).bind (dif_pos ⟨address.nonempty, address.short⟩)

theorem stored_bytes (data : List UInt8) : Keeps (Json.list? Json.byte?) (bytesToJson data) data :=
  keeps_list stored_byte data

namespace Json

variable {α : Type} {decode : Json → Option α} {value : α}

theorem keeps_addressMap {encode : α → Json} (each : ∀ value, Keeps decode (encode value) value)
    (table : AddressMap α) : Keeps (addressMap? decode) (ofAddressMap encode table) table := by
  refine ⟨legible_record fun field member => ?_, fun other shuffled => ?_⟩
  · obtain ⟨entry, _, rfl⟩ := List.mem_map.mp member
    exact (each entry.2).legible
  · obtain ⟨same, entries, found, order, fields, _⟩ := entries?_shuffled shuffled
    have read : List.Forall₂ (fun entry pair =>
        (do return (← Address.ofString? entry.1, ← decode entry.2) : Option (Address × α)) = some pair)
        same table.toList := by
      rw [List.forall₂_map_left_iff] at fields
      refine (fields.imp fun pair entry field => ?_).flip
      obtain ⟨address, value⟩ := pair
      change _ = some (address, value)
      have named : Address.ofString? entry.1 = some address := by
        rw [← field.1]
        exact dif_pos ⟨address.nonempty, address.short⟩
      simp only [named, (each value).read field.2, Option.bind_eq_bind, Option.bind_some, Option.pure_def]
    rw [addressMap?, found]
    exact table_of_perm read order.symm

/-- A set is put together again from its addresses in any order. -/
theorem keeps_addressSet {addresses : AddressSet} {listed : List Address} (order : listed.Perm addresses.toList) :
    Keeps addressSet? (ofAddresses listed) addresses := by
  refine (keeps_list Address.stored listed).bind (congrArg some ?_)
  refine Eq.trans Std.ExtTreeSet.ofList_eq_foldl.symm (Std.ExtTreeSet.ext_mem fun address => ?_)
  rw [Std.ExtTreeSet.mem_ofList, List.contains_iff_mem, order.mem_iff, Std.ExtTreeSet.mem_toList]

theorem keeps_choice {choices : List (String × α)} {name : String} (found : choices.lookup name = some value) :
    Keeps (choice? choices) (ofText name) value := by
  refine ⟨legible_ofText name, fun other shuffled => ?_⟩
  cases shuffled
  change (unescape? (escape name)).bind (List.lookup · choices) = some value
  rw [unescape?_escape, Option.bind_some, found]

end Json

end IndexBasket
