import Mathlib.Algebra.Group.Nat.Defs
import Mathlib.Tactic.SplitIfs

/-!
Texts are ordered by their characters. The order of their bytes in UTF-8 is the same one: of
two characters the greater has the greater first byte, or after equal first bytes as many and
greater ones.
-/

namespace IndexBasket

namespace Utf8

/-- How many bytes of a character follow the first one. -/
def trailing (code : Nat) : Nat :=
  if code ≤ 0x7f then 0 else if code ≤ 0x7ff then 1 else if code ≤ 0xffff then 2 else 3

/-- What is added to the first byte to tell how many follow. -/
def mark : Nat → Nat
  | 0 => 0
  | 1 => 0xc0
  | 2 => 0xe0
  | _ => 0xf0

def lead (code : Nat) : Nat := code / 64 ^ trailing code + mark (trailing code)

/-- The last groups of six bits, each in a byte of its own. -/
def trail : Nat → Nat → List UInt8
  | 0, _ => []
  | count + 1, code => UInt8.ofNat (code / 64 ^ count % 64 + 0x80) :: trail count code

theorem toNat_lt (c : Char) : c.toNat < 0x110000 := by
  have valid : c.toNat < 0xd800 ∨ 0xdfff < c.toNat ∧ c.toNat < 0x110000 := c.valid
  omega

theorem lead_lt_256 (c : Char) : lead c.toNat < 256 := by
  have bound := toNat_lt c
  unfold lead trailing
  split_ifs <;> simp only [mark] <;> omega

theorem utf8EncodeChar_eq (c : Char) :
    String.utf8EncodeChar c = UInt8.ofNat (lead c.toNat) :: trail (trailing c.toNat) c.toNat := by
  have bound := toNat_lt c
  simp only [String.utf8EncodeChar, Char.toNat_val, lead, trailing]
  generalize c.toNat = code at bound
  -- The first byte takes all bits that the others leave, so that no remainder is needed.
  split_ifs with one two three
  · simp only [mark, trail, Nat.pow_zero, Nat.div_one, Nat.add_zero]
  · have first : code / 64 < 0x20 := by omega
    simp only [mark, trail, Nat.pow_zero, Nat.div_one, Nat.reducePow, Nat.mod_eq_of_lt first]
  · have first : code / 4096 < 0x10 := by omega
    simp only [mark, trail, Nat.pow_zero, Nat.div_one, Nat.reducePow, Nat.mod_eq_of_lt first]
  · have first : code / 262144 < 0x08 := by omega
    simp only [mark, trail, Nat.pow_zero, Nat.div_one, Nat.reducePow, Nat.mod_eq_of_lt first]

/-- Of two numbers the greater has the greater quotient, or after equal quotients the greater
remainder. -/
theorem quotient_cases {m n : Nat} (less : m < n) (divisor : Nat) :
    m / divisor < n / divisor ∨ m / divisor = n / divisor ∧ m % divisor < n % divisor := by
  obtain below | same := Nat.lt_or_eq_of_le (Nat.div_le_div_right (c := divisor) (Nat.le_of_lt less))
  · exact .inl below
  · have whole := Nat.div_add_mod m divisor
    have larger := Nat.div_add_mod n divisor
    rw [same] at whole
    exact .inr ⟨same, by omega⟩

theorem compare_ofNat {m n : Nat} (first : m < 256) (second : n < 256) :
    compare (UInt8.ofNat m) (UInt8.ofNat n) = compare m n := by
  simp only [compare, compareOfLessAndEq, UInt8.lt_iff_toNat_lt, ← UInt8.toNat_inj, UInt8.toNat_ofNat',
    Nat.mod_eq_of_lt first, Nat.mod_eq_of_lt second]

/-- Of numbers of as many groups the first group in which they differ decides. -/
theorem compare_trail {count code other : Nat} (less : code % 64 ^ count < other % 64 ^ count)
    (left right : List UInt8) : compare (trail count code ++ left) (trail count other ++ right) = .lt := by
  induction count with
  | zero => omega
  | succ count ih =>
    have groups := quotient_cases less (64 ^ count)
    simp only [Nat.pow_succ, Nat.mod_mul_right_div_self, Nat.mod_mul_right_mod] at groups
    rw [trail, trail, List.cons_append, List.cons_append, List.compare_cons_cons,
      compare_ofNat (by omega) (by omega)]
    obtain below | ⟨same, rest⟩ := groups
    · rw [Nat.compare_eq_lt.mpr (by omega), Ordering.lt_then]
    · rw [same, Nat.compare_eq_eq.mpr rfl, Ordering.eq_then, ih rest]

theorem trailing_le {code other : Nat} (less : code ≤ other) : trailing code ≤ trailing other := by
  unfold trailing
  split_ifs <;> omega

/-- A character with more bytes has the greater first byte. -/
theorem lead_lt {code other : Nat} (longer : trailing code < trailing other) : lead code < lead other := by
  unfold lead trailing at *
  split_ifs at * <;> simp only [mark] <;> omega

theorem lead_cases {code other : Nat} (less : code < other) :
    lead code < lead other ∨ lead code = lead other ∧ trailing code = trailing other ∧
      code % 64 ^ trailing code < other % 64 ^ trailing code := by
  obtain longer | same := Nat.lt_or_eq_of_le (trailing_le (Nat.le_of_lt less))
  · exact .inl (lead_lt longer)
  · unfold lead
    rw [← same]
    obtain below | ⟨equal, rest⟩ := quotient_cases less (64 ^ trailing code)
    · exact .inl (Nat.add_lt_add_right below _)
    · exact .inr ⟨by rw [equal], rfl, rest⟩

theorem compare_of_lt {c d : Char} (less : c < d) (left right : List UInt8) :
    compare (String.utf8EncodeChar c ++ left) (String.utf8EncodeChar d ++ right) = .lt := by
  rw [utf8EncodeChar_eq, utf8EncodeChar_eq, List.cons_append, List.cons_append, List.compare_cons_cons,
    compare_ofNat (lead_lt_256 c) (lead_lt_256 d)]
  obtain below | ⟨same, alike, rest⟩ := lead_cases (show c.toNat < d.toNat from less)
  · rw [Nat.compare_eq_lt.mpr below, Ordering.lt_then]
  · rw [Nat.compare_eq_eq.mpr same, Ordering.eq_then, ← alike, compare_trail rest]

theorem compare_append_self (front left right : List UInt8) :
    compare (front ++ left) (front ++ right) = compare left right := by
  induction front with
  | nil => rfl
  | cons byte rest ih =>
    have same : compare byte byte = .eq := Std.ReflCmp.compare_self
    rw [List.cons_append, List.cons_append, List.compare_cons_cons, same, Ordering.eq_then, ih]

/-- What follows two characters counts only if they are the same. -/
theorem compare_utf8EncodeChar (c d : Char) (left right : List UInt8) :
    compare (String.utf8EncodeChar c ++ left) (String.utf8EncodeChar d ++ right) =
      (compare c d).then (compare left right) := by
  cases order : compare c d with
  | lt =>
    have less : c < d := compareOfLessAndEq_eq_lt.mp order
    rw [compare_of_lt less, Ordering.lt_then]
  | eq => rw [Std.LawfulEqCmp.eq_of_compare order, compare_append_self, Ordering.eq_then]
  | gt =>
    have swapped : compare d c = .lt := Std.OrientedCmp.lt_of_gt order
    have less : d < c := compareOfLessAndEq_eq_lt.mp swapped
    rw [Std.OrientedCmp.gt_of_lt (compare_of_lt less right left), Ordering.gt_then]

theorem compare_flatMap (left right : List Char) :
    compare (left.flatMap String.utf8EncodeChar) (right.flatMap String.utf8EncodeChar) = compare left right := by
  induction left generalizing right with
  | nil =>
    cases right with
    | nil => rfl
    | cons d others =>
      rw [List.flatMap_cons, utf8EncodeChar_eq]
      rfl
  | cons c rest ih =>
    cases right with
    | nil =>
      rw [List.flatMap_cons, utf8EncodeChar_eq]
      rfl
    | cons d others =>
      rw [List.flatMap_cons, List.flatMap_cons, compare_utf8EncodeChar, ih, List.compare_cons_cons]

theorem toList_loop (bytes : ByteArray) (i : Nat) (seen : List UInt8) :
    ByteArray.toList.loop bytes i seen = seen.reverse ++ bytes.data.toList.drop i := by
  fun_induction ByteArray.toList.loop bytes i seen with
  | case1 i seen within ih =>
    have listed : i < bytes.data.toList.length := within
    rw [ih, List.drop_eq_getElem_cons listed]
    simp [ByteArray.get!, getElem!_pos bytes.data i within]
  | case2 i seen beyond => rw [List.drop_eq_nil_of_le (Nat.le_of_not_lt beyond), List.append_nil]

theorem toList_eq_data (bytes : ByteArray) : bytes.toList = bytes.data.toList := toList_loop bytes 0 []

theorem toByteArray_toList (bytes : ByteArray) : bytes.toList.toByteArray = bytes := by
  refine ByteArray.ext ?_
  rw [List.data_toByteArray, toList_eq_data]

theorem length_toUTF8 (text : String) : text.toUTF8.toList.length = text.utf8ByteSize := by
  rw [toList_eq_data]
  exact text.size_toByteArray

theorem fromUTF8?_toUTF8 (text : String) : String.fromUTF8? text.toUTF8 = some text :=
  dif_pos text.isValidUTF8

theorem toList_toUTF8 (text : String) : text.toUTF8.toList = text.toList.flatMap String.utf8EncodeChar := by
  rw [toList_eq_data, String.toUTF8_eq_toByteArray, ← String.utf8Encode_toList, List.utf8Encode,
    List.toList_data_toByteArray]

/-- Two lists of characters compare as one stands before the other. -/
theorem compare_eq_compareOfLessAndEq (left right : List Char) :
    compare left right = compareOfLessAndEq left right := by
  induction left generalizing right with
  | nil =>
    cases right with
    | nil => rfl
    | cons => rfl
  | cons c rest ih =>
    cases right with
    | nil => rfl
    | cons d others =>
      rw [List.compare_cons_cons, ih]
      change (compareOfLessAndEq c d).then _ = _
      simp only [compareOfLessAndEq, List.cons_lt_cons_iff, List.cons.injEq]
      by_cases less : c < d
      · simp only [less, true_or, if_true, Ordering.lt_then]
      by_cases same : c = d
      · subst same
        simp only [less, true_and, false_or, if_false, if_true, Ordering.eq_then]
      · simp only [less, same, false_and, false_or, if_false, Ordering.gt_then]

/-- A text stands before another one exactly if its bytes do. -/
theorem compare_toUTF8 (left right : String) :
    compare left.toUTF8.toList right.toUTF8.toList = compare left right := by
  rw [toList_toUTF8, toList_toUTF8, compare_flatMap, compare_eq_compareOfLessAndEq]
  change _ = compareOfLessAndEq left right
  simp only [compareOfLessAndEq, String.toList_inj]
  rfl

end Utf8

end IndexBasket
