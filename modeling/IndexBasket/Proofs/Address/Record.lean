import IndexBasket.Proofs.Text.ByteOrder
import IndexBasket.Venue.Swap
import Mathlib.Data.Sym.Sym2

/-!
An address fits a record of fixed size, with zero bytes after its name. Two names of which
one continues the other with zero bytes have the same bytes in their records, and the
lengths decide between them. That is the order that the bytes of the names have alone.
-/

namespace IndexBasket

namespace Address

/-- What an address takes up: the bytes of its name, filled up with zero bytes, and how many
of them are the name's. -/
structure Record where
  bytes : List UInt8
  length : UInt8
  filled : bytes.length = room
  within : length.toNat ≤ room
deriving DecidableEq

namespace Record

/-- Records are ordered by all their bytes first and by the length of the name after that. -/
instance : Ord Record := ⟨compareLex (compareOn bytes) (compareOn length)⟩

def text (record : Record) : String :=
  (String.fromUTF8? (record.bytes.take record.length.toNat).toByteArray).getD ""

end Record

def zeroFilled (size : Nat) (bytes : List UInt8) : List UInt8 :=
  bytes ++ List.replicate (size - bytes.length) 0

theorem length_zeroFilled {size : Nat} {bytes : List UInt8} (fits : bytes.length ≤ size) :
    (zeroFilled size bytes).length = size := by
  rw [zeroFilled, List.length_append, List.length_replicate]
  exact Nat.add_sub_of_le fits

theorem zeroFilled_cons (size : Nat) (byte : UInt8) (rest : List UInt8) :
    zeroFilled (size + 1) (byte :: rest) = byte :: zeroFilled size rest := by
  rw [zeroFilled, List.length_cons, Nat.add_sub_add_right, List.cons_append, zeroFilled]

theorem isLE_compare_zeros (bytes : List UInt8) : (compare (List.replicate bytes.length 0) bytes).isLE := by
  induction bytes with
  | nil => rfl
  | cons byte rest ih =>
    have least : (compare 0 byte).isLE := Std.isLE_compare.mpr UInt8.zero_le
    rw [List.length_cons, List.replicate_succ, List.compare_cons_cons]
    obtain less | same := Ordering.isLE_iff_eq_lt_or_eq_eq.mp least
    · rw [less]
      rfl
    · rw [same]
      exact ih

theorem compare_zeroFilled_nil {size : Nat} {bytes : List UInt8} (fits : bytes.length ≤ size) :
    (compare (zeroFilled size []) (zeroFilled size bytes)).then (compare 0 bytes.length) = compare [] bytes := by
  have least := isLE_compare_zeros (zeroFilled size bytes)
  rw [length_zeroFilled fits] at least
  change (compare (zeroFilled size []) (zeroFilled size bytes)).isLE at least
  cases bytes with
  | nil =>
    have same : compare (zeroFilled size []) (zeroFilled size []) = .eq := Std.ReflCmp.compare_self
    rw [same]
    rfl
  | cons byte rest =>
    rw [List.length_cons, Nat.compare_eq_lt.mpr (Nat.succ_pos rest.length)]
    obtain less | same := Ordering.isLE_iff_eq_lt_or_eq_eq.mp least
    · rw [less]
      rfl
    · rw [same]
      rfl

/-- Zero bytes at the end change the order of names at most where one continues the other, and
then the shorter one comes first again. -/
theorem compare_zeroFilled {size : Nat} {left right : List UInt8} (fits : left.length ≤ size)
    (otherFits : right.length ≤ size) :
    (compare (zeroFilled size left) (zeroFilled size right)).then (compare left.length right.length) =
      compare left right := by
  induction left generalizing size right with
  | nil => exact compare_zeroFilled_nil otherFits
  | cons byte rest ih =>
    cases right with
    | nil =>
      have swapped : compare (zeroFilled size (byte :: rest)) (zeroFilled size []) =
          (compare (zeroFilled size []) (zeroFilled size (byte :: rest))).swap := Std.OrientedCmp.eq_swap
      rw [swapped, ← Nat.compare_swap, ← Ordering.swap_then]
      exact congrArg Ordering.swap (compare_zeroFilled_nil fits)
    | cons other others =>
      obtain _ | size := size
      · cases fits
      · have tails := ih (Nat.le_of_succ_le_succ fits) (Nat.le_of_succ_le_succ otherFits)
        have lengths : compare (rest.length + 1) (others.length + 1) = compare rest.length others.length := by
          simp only [Nat.compare_eq_ite_lt, Nat.add_lt_add_iff_right]
        rw [zeroFilled_cons, zeroFilled_cons, List.compare_cons_cons, List.compare_cons_cons, Ordering.then_assoc,
          List.length_cons, List.length_cons, lengths, tails]

theorem length_name_le (a : Address) : a.name.toUTF8.toList.length ≤ room := by
  rw [Utf8.length_toUTF8]
  exact a.short

theorem padded_eq (a : Address) : a.padded = zeroFilled room a.name.toUTF8.toList := by
  rw [padded, zeroFilled, Utf8.length_toUTF8]

theorem toNat_length (a : Address) : a.name.utf8ByteSize.toUInt8.toNat = a.name.utf8ByteSize := by
  have short := a.short
  exact (UInt8.toNat_ofNat').trans (Nat.mod_eq_of_lt (by omega))

def record (a : Address) : Record where
  bytes := a.padded
  length := a.name.utf8ByteSize.toUInt8
  filled := by
    rw [padded_eq]
    exact length_zeroFilled a.length_name_le
  within := by
    rw [toNat_length]
    exact a.short

theorem text_record (a : Address) : a.record.text = a.name := by
  have named : a.record.bytes.take a.record.length.toNat = a.name.toUTF8.toList := by
    change a.padded.take a.name.utf8ByteSize.toUInt8.toNat = _
    rw [toNat_length, padded_eq, ← Utf8.length_toUTF8]
    exact List.take_left
  rw [Record.text, named, Utf8.toByteArray_toList, Utf8.fromUTF8?_toUTF8, Option.getD_some]

theorem record_eq_iff {a b : Address} : a.record = b.record ↔ a = b := by
  refine ⟨fun same => eq_of_name_eq ?_, fun same => by rw [same]⟩
  rw [← text_record a, same, text_record b]

theorem compare_record (a b : Address) :
    compare a.record b.record = compare a.name.toUTF8.toList b.name.toUTF8.toList := by
  have lengths : compare a.name.utf8ByteSize.toUInt8 b.name.utf8ByteSize.toUInt8 =
      compare a.name.utf8ByteSize b.name.utf8ByteSize := by
    have short := a.short
    have otherShort := b.short
    exact Utf8.compare_ofNat (by omega) (by omega)
  change (compare a.padded b.padded).then
    (compare a.name.utf8ByteSize.toUInt8 b.name.utf8ByteSize.toUInt8) = _
  rw [lengths, padded_eq, padded_eq, ← Utf8.length_toUTF8, ← Utf8.length_toUTF8]
  exact compare_zeroFilled a.length_name_le b.length_name_le

end Address

namespace AssetPair

/-- The two assets of a pair are read off its key, in one order or the other. -/
theorem assets_unordered (a b : Address) : s((unordered a b).first, (unordered a b).second) = s(a, b) := by
  unfold unordered
  split
  · rfl
  · exact Sym2.eq_swap

theorem unordered_eq_iff {a b c d : Address} : unordered a b = unordered c d ↔ s(a, b) = s(c, d) := by
  constructor
  · intro same
    rw [← assets_unordered a b, same, assets_unordered c d]
  · intro same
    obtain ⟨rfl, rfl⟩ | ⟨rfl, rfl⟩ := Sym2.eq_iff.mp same
    · rfl
    · exact unordered_comm _ _

end AssetPair

namespace Address

/-- Strings of 1 to 24 bytes are names of addresses, one each. Addresses give their names back
and are ordered as the bytes of the names are, by the names as by the records that hold them.
So a pair of assets has one key in both orders, and no other pair has it. -/
theorem ordered_by_bytes (name other : String) (fits : 0 < name.utf8ByteSize ∧ name.utf8ByteSize ≤ 24)
    (otherFits : 0 < other.utf8ByteSize ∧ other.utf8ByteSize ≤ 24) :
    ∃ a b : Address, ofString? name = some a ∧ ofString? other = some b ∧
      (a.name = name ∧ a.record.text = name) ∧ (b.name = other ∧ b.record.text = other) ∧
      (name ≠ other → a ≠ b ∧ a.record ≠ b.record) ∧
      compare a b = compare name.toUTF8.toList other.toUTF8.toList ∧
      compare a.record b.record = compare name.toUTF8.toList other.toUTF8.toList ∧
      AssetPair.unordered a b = .unordered b a ∧
      ∀ c d : Address, AssetPair.unordered a b = .unordered c d → s(a, b) = s(c, d) := by
  let a : Address := ⟨name, fits.1, fits.2⟩
  let b : Address := ⟨other, otherFits.1, otherFits.2⟩
  have distinct (differ : name ≠ other) : a ≠ b := fun same => differ (congrArg Address.name same)
  refine ⟨a, b, dif_pos fits, dif_pos otherFits, ⟨rfl, a.text_record⟩, ⟨rfl, b.text_record⟩, ?_, ?_,
    compare_record a b, AssetPair.unordered_comm a b, ?_⟩
  · intro differ
    exact ⟨distinct differ, fun same => distinct differ (record_eq_iff.mp same)⟩
  · exact (Utf8.compare_toUTF8 name other).symm
  · intro c d same
    exact AssetPair.unordered_eq_iff.mp same

/-- A name and the same name with a zero byte behind it: all bytes of the records agree. -/
theorem ordered_by_bytes_continued :
    ∃ a b : Address, ofString? "dai" = some a ∧ ofString? "dai\x00" = some b ∧
      a.padded = b.padded ∧ a.record ≠ b.record ∧ b.record.text = "dai\x00" ∧
      compare a b = .lt ∧ compare a.record b.record = .lt ∧ AssetPair.unordered b a = ⟨a, b⟩ := by
  obtain ⟨a, b, found, continued, ⟨named, _⟩, ⟨otherNamed, text⟩, distinct, names, records, swapped, _⟩ :=
    ordered_by_bytes "dai" "dai\x00" (by decide) (by decide)
  have less : compare "dai".toUTF8.toList "dai\x00".toUTF8.toList = .lt := by decide +kernel
  rw [less] at names records
  have filled : a.padded = b.padded := by
    rw [padded_eq, padded_eq, named, otherNamed]
    decide +kernel
  refine ⟨a, b, found, continued, filled, (distinct (by decide)).2, text, names, records, ?_⟩
  rw [← swapped, AssetPair.unordered, names]
  rfl

end Address

end IndexBasket
