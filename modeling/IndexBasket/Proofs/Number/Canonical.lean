import IndexBasket.Proofs.Number.Decimal

/-!
Decimal text as it is written: for every quantity the canonical numeral, and one that is
read back.
-/

namespace IndexBasket

namespace Decimal

variable {places : Nat}

/-- Zeros in front fill up to the full number of places. -/
theorem number_leftpad (count n : Nat) : Digits.number ((Nat.toDigits 10 n).leftpad count '0') = n := by
  rw [List.leftpad, Digits.number_append, Digits.number_zeros, Nat.zero_mul, Nat.zero_add, Digits.number_toDigits]

theorem length_leftpad {n : Nat} (positive : 0 < n) (small : n < 10 ^ places) :
    ((Nat.toDigits 10 n).leftpad places '0').length = places := by
  have some : 0 < places := by
    by_contra none
    rw [Nat.eq_zero_of_not_pos none] at small
    omega
  have short := (Nat.length_toDigits_le_iff (by omega) some).mpr small
  rw [List.length_leftpad]
  omega

/-- Zeros removed at the end are made up for by the scale. -/
theorem number_trimmed (digits : List Char) :
    Digits.number (dropEndWhile (· == '0') digits) *
      10 ^ (digits.length - (dropEndWhile (· == '0') digits).length) = Digits.number digits := by
  have joined : dropEndWhile (· == '0') digits ++ digits.rtakeWhile (· == '0') = digits :=
    List.rdropWhile_append_rtakeWhile
  have zeros : digits.rtakeWhile (· == '0') = List.replicate (digits.rtakeWhile (· == '0')).length '0' := by
    refine List.eq_replicate_of_mem fun c member => ?_
    have zero := List.mem_rtakeWhile_imp (p := (· == '0')) member
    exact eq_of_beq zero
  generalize dropEndWhile (· == '0') digits = kept at *
  generalize digits.rtakeWhile (· == '0') = removed at *
  subst joined
  rw [List.length_append, Nat.add_sub_cancel_left, Digits.number_append]
  conv_rhs => rw [zeros, Digits.number_zeros, List.length_replicate, Nat.add_zero]

theorem head_toDigits_of_zero {n : Nat} (zero : (Nat.toDigits 10 n).head? = some '0') :
    Nat.toDigits 10 n = ['0'] := by
  cases n with
  | zero => rfl
  | succ n =>
    obtain ⟨c, tail, digits, nonzero⟩ := Digits.head_toDigits (Nat.succ_pos n)
    rw [digits] at zero
    exact absurd (Option.some.inj zero) nonzero

/-- The digits behind the point of a number that is not whole. -/
theorem fraction_written {rest : Nat} (positive : 0 < rest) (small : rest < 10 ^ places) :
    ∃ fraction, fraction = dropEndWhile (· == '0') ((Nat.toDigits 10 rest).leftpad places '0') ∧
      (∀ c ∈ fraction, c.isDigit = true) ∧ fraction ≠ [] ∧ fraction.length ≤ places ∧
      fraction.getLast? ≠ some '0' ∧ Digits.number fraction * 10 ^ (places - fraction.length) = rest := by
  have full := length_leftpad positive small
  have value := number_leftpad places rest
  have trimmed := number_trimmed ((Nat.toDigits 10 rest).leftpad places '0')
  have all : ∀ c ∈ (Nat.toDigits 10 rest).leftpad places '0', c.isDigit = true := by
    intro c member
    rcases List.mem_append.mp member with zero | digit
    · rw [List.eq_of_mem_replicate zero]
      rfl
    · exact Digits.all_toDigits rest c digit
  generalize (Nat.toDigits 10 rest).leftpad places '0' = padded at *
  have front : dropEndWhile (· == '0') padded <+: padded := List.rdropWhile_prefix _ _
  rw [full, value] at trimmed
  refine ⟨_, rfl, fun c member => all c (front.subset member), fun none => ?_, full ▸ front.length_le, fun zero => ?_,
    trimmed⟩
  · rw [none, show Digits.number [] = 0 from rfl, Nat.zero_mul] at trimmed
    omega
  · have last := List.rdropWhile_last_not (· == '0') padded (List.ne_nil_of_mem (List.mem_of_getLast? zero))
    rw [List.getLast?_eq_some_getLast (List.ne_nil_of_mem (List.mem_of_getLast? zero))] at zero
    exact last (beq_iff_eq.mpr (Option.some.inj zero))

theorem scale?_eq_some {scale : Amount} : scale? places = some scale ↔ scale.toNat = 10 ^ places :=
  Amount.ofNat?_eq_some.trans eq_comm

/-- Wholes of up to 38 places have base units that 128 bits hold. -/
theorem exists_scale (few : places ≤ 38) : ∃ scale, scale? places = some scale := by
  have small : 10 ^ places < 2 ^ 128 := (Nat.pow_le_pow_right (by decide) few).trans_lt (by decide)
  exact ⟨⟨10 ^ places, small⟩, scale?_eq_some.mpr rfl⟩

theorem scale?_eq_none (many : 38 < places) : scale? places = none := by
  have large : 10 ^ 39 ≤ 10 ^ places := Nat.pow_le_pow_right (by decide) many
  exact Amount.ofNat?_eq_none.mpr ((by decide : 2 ^ 128 ≤ 10 ^ 39).trans large)

/-- What is written for a magnitude is its canonical numeral. -/
theorem digits_canonical {scale : Amount} (full : scale.toNat = 10 ^ places) (magnitude : Amount) :
    ∃ numeral : Numeral, numeral.text = digits places scale magnitude ∧ numeral.Canonical places ∧
      numeral.size places = magnitude.toNat := by
  unfold digits
  rw [full]
  generalize magnitude.toNat = magnitude
  have division := Nat.div_add_mod' magnitude (10 ^ places)
  have whole := Digits.all_toDigits (magnitude / 10 ^ places)
  have value := Digits.number_toDigits (magnitude / 10 ^ places)
  have filled : Nat.toDigits 10 (magnitude / 10 ^ places) ≠ [] := Nat.toDigits_ne_nil
  by_cases exact : magnitude % 10 ^ places = 0
  · refine ⟨⟨Nat.toDigits 10 (magnitude / 10 ^ places), none, by simpa using whole, by simp⟩,
      ?_, ⟨filled, head_toDigits_of_zero, nofun, Nat.zero_le _, nofun⟩, ?_⟩
    · exact (List.append_nil _).trans (if_pos exact).symm
    · rw [Numeral.size, value, show Digits.number (Numeral.fractional _) = 0 from rfl]
      omega
  · obtain ⟨fraction, written, behind, nonempty, within, last, rest⟩ :=
      fraction_written (Nat.pos_of_ne_zero exact) (Nat.mod_lt magnitude (Nat.pow_pos (by omega)))
    refine ⟨⟨Nat.toDigits 10 (magnitude / 10 ^ places), some fraction, List.forall_mem_append.mpr ⟨whole, behind⟩,
      List.append_ne_nil_of_left_ne_nil filled _⟩, ?_,
      ⟨filled, head_toDigits_of_zero, fun empty => nonempty (Option.some.inj empty), within, last⟩, ?_⟩
    · subst written
      exact (if_neg exact).symm
    · rw [Numeral.size, value]
      change _ + Digits.number fraction * 10 ^ (places - fraction.length) = magnitude
      omega

end Decimal

namespace Fixed

open Decimal

/-- What is written for a quantity is a canonical numeral behind its sign. -/
theorem format_canonical {places : Nat} {scale : Amount} (full : scale.toNat = 10 ^ places) (a : Fixed) :
    ∃ numeral : Numeral, (a.format places scale).toList = numeral.spelling (a.toInt < 0) ∧
      numeral.Canonical places ∧ numeral.size places = a.toInt.natAbs := by
  obtain ⟨numeral, spelled, canonical, size⟩ := digits_canonical full a.magnitude
  refine ⟨numeral, ?_, canonical, size.trans a.magnitude_toNat⟩
  rw [format, String.toList_ofList, ← spelled, Numeral.spelling]
  simp only [decide_eq_true_eq]

theorem text_canonical (a : Fixed) :
    ∃ numeral : Numeral, a.text.toList = numeral.spelling (a.toInt < 0) ∧ numeral.Canonical 18 ∧
      numeral.size 18 = a.toInt.natAbs :=
  format_canonical rfl a

/-- At a scale of at most 38 places a quantity is written as the canonical numeral that
denotes it, with a minus sign if it is negative. That text is read back as the quantity,
except for the least one, whose magnitude does not fit. At a larger scale there is no text. -/
theorem written_read_back (places : Nat) (a : Fixed) :
    (places ≤ 38 → ∃ text, a.format? places = some text ∧
      (∃ numeral : Numeral, text.toList = numeral.spelling (a.toInt < 0) ∧ numeral.Canonical places ∧
        a.toInt = signed (a.toInt < 0) (numeral.size places)) ∧
      parse? places text = if a = least then none else some a) ∧
    (38 < places → a.format? places = none) := by
  refine ⟨fun few => ?_, fun many => by rw [format?, scale?_eq_none many, Option.map_none]⟩
  obtain ⟨scale, found⟩ := exists_scale few
  obtain ⟨numeral, spelled, canonical, size⟩ := format_canonical (scale?_eq_some.mp found) a
  have denoted : a.toInt = signed (a.toInt < 0) (numeral.size places) := by
    rw [size]
    exact eq_signed a.toInt
  refine ⟨_, by rw [format?, found, Option.map_some], ⟨numeral, spelled, canonical, denoted⟩, ?_⟩
  have trimmed : trimBlank (a.format places scale).toList = numeral.spelling (a.toInt < 0) := by
    have blank : ∀ c ∈ ([] : List Char) ++ [], isBlank c = true := nofun
    rw [spelled]
    simpa using trimBlank_surrounded blank (numeral.spelling_plain (a.toInt < 0))
  have read : ∀ value : Fixed, parse? places (a.format places scale) = some value ↔
      value.toInt = signed (a.toInt < 0) (numeral.size places) ∧ value.toInt.natAbs < 2 ^ 127 :=
    fun _ => parse?_spelled few trimmed canonical.fractional_le
  have smallest := a.ge_min
  have largest := a.le_max
  split
  · rename_i extreme
    rw [Option.eq_none_iff_forall_ne_some]
    intro value found
    obtain ⟨same, small⟩ := (read value).mp found
    rw [same, ← denoted, extreme] at small
    exact absurd small (by decide)
  · rename_i other
    have apart : a.toInt ≠ -0x80000000_00000000_00000000_00000000 := fun same => other (Fixed.ext same)
    exact (read a).mpr ⟨denoted, by omega⟩

/-- The largest scale with both ends of the range, and the scale beyond it. -/
theorem written_read_back_extreme :
    (38 ≤ 38 ∧ greatest.format? 38 = some "1.70141183460469231731687303715884105727" ∧
      parse? 38 "1.70141183460469231731687303715884105727" = some greatest) ∧
    (least.format? 38 = some "-1.70141183460469231731687303715884105728" ∧
      parse? 38 "-1.70141183460469231731687303715884105728" = none) ∧
    38 < 39 ∧ greatest.format? 39 = none := by
  have largest : greatest.format? 38 = some "1.70141183460469231731687303715884105727" := by decide +kernel
  have smallest : least.format? 38 = some "-1.70141183460469231731687303715884105728" := by decide +kernel
  obtain ⟨_, written, _, read⟩ := (written_read_back 38 greatest).1 (by decide)
  obtain ⟨_, written', _, read'⟩ := (written_read_back 38 least).1 (by decide)
  cases largest.symm.trans written
  cases smallest.symm.trans written'
  exact ⟨⟨by decide, largest, read.trans (if_neg (by decide))⟩, ⟨smallest, read'.trans (if_pos rfl)⟩, by decide,
    (written_read_back 39 greatest).2 (by decide)⟩

end Fixed

end IndexBasket
