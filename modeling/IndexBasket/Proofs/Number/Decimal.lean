import IndexBasket.Number.Decimal
import IndexBasket.Proofs.Number.Digits
import IndexBasket.Proofs.Number.Fixed
import Mathlib.Data.List.DropRight
import Mathlib.Data.List.TakeWhile

/-!
Decimal text, read and written. A numeral is unsigned decimal text with its digits in
their places; reading decides exactly which texts are numerals between blanks, and what
is written is the one canonical numeral of a quantity.
-/

namespace IndexBasket

theorem dropEndWhile_eq_rdropWhile {α : Type} (test : α → Bool) (items : List α) :
    dropEndWhile test items = items.rdropWhile test := rfl

/-- Trimming removes blanks only. -/
theorem trimBlank_removed (text : List Char) :
    ∃ before after, text = before ++ trimBlank text ++ after ∧ ∀ c ∈ before ++ after, isBlank c = true := by
  refine ⟨text.takeWhile isBlank, (text.dropWhile isBlank).rtakeWhile isBlank, ?_, fun c member => ?_⟩
  · rw [trimBlank, dropEndWhile_eq_rdropWhile, List.append_assoc, List.rdropWhile_append_rtakeWhile,
      List.takeWhile_append_dropWhile]
  · rcases List.mem_append.mp member with first | last
    · exact List.mem_takeWhile_imp first
    · exact List.mem_rtakeWhile_imp last

/-- Between blanks, a text without blanks is what trimming leaves. -/
theorem trimBlank_surrounded {before core after : List Char} (blank : ∀ c ∈ before ++ after, isBlank c = true)
    (plain : ∀ c ∈ core, isBlank c = false) : trimBlank (before ++ core ++ after) = core := by
  rw [List.forall_mem_append] at blank
  have front : (core ++ after).dropWhile isBlank = core ++ after ∨ core = [] := by
    cases core with
    | nil => exact Or.inr rfl
    | cons c rest => exact Or.inl (List.dropWhile_cons_of_neg (by simp [plain]))
  have back : (core ++ after).rdropWhile isBlank = core := by
    have kept : core.rdropWhile isBlank = core :=
      List.rdropWhile_eq_self_iff.mpr fun filled => by simp [plain _ (List.getLast_mem filled)]
    rw [List.rdropWhile, List.reverse_append,
      List.dropWhile_append_of_pos fun c member => blank.2 c (List.mem_reverse.mp member)]
    exact kept
  rw [trimBlank, dropEndWhile_eq_rdropWhile, List.append_assoc, List.dropWhile_append_of_pos blank.1]
  obtain untouched | rfl := front
  · rw [untouched, back]
  · rw [List.nil_append, List.dropWhile_eq_nil_iff.mpr blank.2, List.rdropWhile_nil]

theorem isBlank_of_isDigit {c : Char} (digit : c.isDigit = true) : isBlank c = false := by
  obtain ⟨least, most⟩ := Char.isDigit_iff_toNat.mp digit
  rw [show '0'.toNat = 48 from rfl] at least
  rw [show '9'.toNat = 57 from rfl] at most
  simp only [isBlank, Bool.or_eq_false_iff, Bool.and_eq_false_iff, decide_eq_false_iff_not, beq_eq_false_iff_ne]
  omega

namespace Decimal

/-- Unsigned decimal text: whole digits, and fractional ones behind a point if there is
one. Either of the two may be missing. -/
structure Numeral where
  whole : List Char
  fraction : Option (List Char)
  digits : ∀ c ∈ whole ++ fraction.getD [], c.isDigit = true
  nonempty : whole ++ fraction.getD [] ≠ []

/-- A fraction with the point in front of it. -/
def pointed : Option (List Char) → List Char
  | none => []
  | some fraction => '.' :: fraction

namespace Numeral

def text (numeral : Numeral) : List Char := numeral.whole ++ pointed numeral.fraction

def spelling (negative : Bool) (numeral : Numeral) : List Char :=
  if negative then '-' :: numeral.text else numeral.text

/-- The digits behind the point. -/
def fractional (numeral : Numeral) : List Char := numeral.fraction.getD []

/-- The base units of a numeral when a whole has so many places. -/
def size (places : Nat) (numeral : Numeral) : Nat :=
  Digits.number numeral.whole * 10 ^ places +
    Digits.number numeral.fractional * 10 ^ (places - numeral.fractional.length)

/-- No zero that could be left out, and no point without digits behind it. -/
structure Canonical (places : Nat) (numeral : Numeral) : Prop where
  whole_ne_nil : numeral.whole ≠ []
  whole_of_zero : numeral.whole.head? = some '0' → numeral.whole = ['0']
  fraction_ne_nil : numeral.fraction ≠ some []
  fractional_le : numeral.fractional.length ≤ places
  fractional_last : numeral.fractional.getLast? ≠ some '0'

variable (numeral : Numeral)

theorem whole_digits : ∀ c ∈ numeral.whole, c.isDigit = true :=
  fun c member => numeral.digits c (List.mem_append_left _ member)

theorem fractional_digits : ∀ c ∈ numeral.fractional, c.isDigit = true :=
  fun c member => numeral.digits c (List.mem_append_right _ member)

theorem mem_text {numeral : Numeral} {c : Char} (member : c ∈ numeral.text) : c.isDigit = true ∨ c = '.' := by
  rcases List.mem_append.mp member with whole | fraction
  · exact Or.inl (numeral.whole_digits c whole)
  · have digits := numeral.fractional_digits
    unfold fractional at digits
    cases found : numeral.fraction with
    | none =>
      rw [found] at fraction
      exact absurd fraction List.not_mem_nil
    | some behind =>
      rw [found] at fraction digits
      rcases List.mem_cons.mp fraction with rfl | later
      · exact Or.inr rfl
      · exact Or.inl (digits c later)

theorem head?_text_ne_minus : numeral.text.head? ≠ some '-' := by
  intro minus
  rcases mem_text (List.mem_of_mem_head? minus) with digit | point
  · cases digit
  · cases point

theorem spelling_plain (negative : Bool) : ∀ c ∈ numeral.spelling negative, isBlank c = false := by
  have plain : ∀ c ∈ numeral.text, isBlank c = false := by
    intro c member
    obtain digit | rfl := mem_text member
    · exact isBlank_of_isDigit digit
    · rfl
  cases negative with
  | false => exact plain
  | true => exact List.forall_mem_cons.mpr ⟨rfl, plain⟩

end Numeral

/-! Reading. -/

theorem splitPoint_text (numeral : Numeral) : splitPoint numeral.text = (numeral.whole, numeral.fractional) := by
  have plain : ∀ c ∈ numeral.whole, (c != '.') = true := by
    intro c member
    have digit := numeral.whole_digits c member
    rw [bne_iff_ne]
    rintro rfl
    cases digit
  unfold splitPoint Numeral.text Numeral.fractional
  rw [List.takeWhile_append_of_pos plain, List.dropWhile_append_of_pos plain]
  cases numeral.fraction <;> simp [pointed]

/-- A text is put together again from what stands before its first point and behind it. -/
theorem splitPoint_joined (text : List Char) :
    ∃ fraction, text = (splitPoint text).1 ++ pointed fraction ∧ (splitPoint text).2 = fraction.getD [] := by
  unfold splitPoint
  cases behind : text.dropWhile (· != '.') with
  | nil =>
    refine ⟨none, ?_, rfl⟩
    rw [pointed, ← behind, List.takeWhile_append_dropWhile]
  | cons c rest =>
    have point : c = '.' := by
      have stopped := List.head?_dropWhile_not (· != '.') text
      rw [behind] at stopped
      simpa using stopped
    subst point
    refine ⟨some rest, ?_, rfl⟩
    rw [pointed, ← behind, List.takeWhile_append_dropWhile]

/-- The texts with a magnitude are the numerals with few enough places. -/
theorem magnitude?_eq_some {places size : Nat} {text : List Char} :
    magnitude? places text = some size ↔
      ∃ numeral : Numeral, numeral.text = text ∧ numeral.fractional.length ≤ places ∧
        numeral.size places = size := by
  constructor
  · intro read
    obtain ⟨fraction, joined, behind⟩ := splitPoint_joined text
    unfold magnitude? at read
    generalize splitPoint text = parts at *
    obtain ⟨whole, rest⟩ := parts
    dsimp only at joined behind read
    subst behind
    split at read
    · cases read
    rename_i filled
    split at read
    · cases read
    rename_i few
    split at read
    · rename_i digits
      rw [Bool.and_eq_true, List.all_eq_true, List.all_eq_true] at digits
      refine ⟨⟨whole, fraction, List.forall_mem_append.mpr digits, fun none => filled (List.append_eq_nil_iff.mp none)⟩,
        joined.symm, Nat.not_lt.mp few, ?_⟩
      rw [← Option.some.inj read, ← Digits.number_eq_ofDigitChars, ← Digits.number_eq_ofDigitChars]
      rfl
    · cases read
  · rintro ⟨numeral, rfl, few, rfl⟩
    have filled : ¬(numeral.whole = [] ∧ numeral.fractional = []) :=
      fun none => numeral.nonempty (List.append_eq_nil_iff.mpr none)
    have digits : (numeral.whole.all Char.isDigit && numeral.fractional.all Char.isDigit) = true := by
      rw [Bool.and_eq_true, List.all_eq_true, List.all_eq_true]
      exact ⟨numeral.whole_digits, numeral.fractional_digits⟩
    rw [magnitude?, splitPoint_text]
    dsimp only
    rw [if_neg filled, if_neg (Nat.not_lt.mpr few), if_pos digits, ← Digits.number_eq_ofDigitChars,
      ← Digits.number_eq_ofDigitChars]
    rfl

/-- The text stands for a number of base units: it is a numeral with at most so many
places, with or without a minus sign, between blanks. -/
def Denotes (places : Nat) (text : List Char) (units : Int) : Prop :=
  ∃ (before after : List Char) (negative : Bool) (numeral : Numeral),
    text = before ++ numeral.spelling negative ++ after ∧ (∀ c ∈ before ++ after, isBlank c = true) ∧
      numeral.fractional.length ≤ places ∧ units = Fixed.signed negative (numeral.size places)

theorem Numeral.spelling_inj {negative negative' : Bool} {numeral numeral' : Numeral}
    (same : numeral.spelling negative = numeral'.spelling negative') :
    negative = negative' ∧ numeral.text = numeral'.text := by
  cases negative with
  | false =>
    cases negative' with
    | false => exact ⟨rfl, same⟩
    | true =>
      refine absurd ?_ numeral.head?_text_ne_minus
      exact congrArg List.head? same
  | true =>
    cases negative' with
    | false =>
      refine absurd ?_ numeral'.head?_text_ne_minus
      exact congrArg List.head? same.symm
    | true => exact ⟨rfl, (List.cons.inj same).2⟩

/-- Neither the blanks nor the way in which digits are split leave a choice of what is denoted. -/
theorem Denotes.unique {places : Nat} {text : List Char} {units units' : Int} (denoted : Denotes places text units)
    (denoted' : Denotes places text units') : units = units' := by
  obtain ⟨before, after, negative, numeral, joined, blank, _, rfl⟩ := denoted
  obtain ⟨before', after', negative', numeral', joined', blank', _, rfl⟩ := denoted'
  have trimmed : trimBlank text = numeral.spelling negative := by
    rw [joined, trimBlank_surrounded blank (numeral.spelling_plain negative)]
  have trimmed' : trimBlank text = numeral'.spelling negative' := by
    rw [joined', trimBlank_surrounded blank' (numeral'.spelling_plain negative')]
  obtain ⟨rfl, same⟩ := Numeral.spelling_inj (trimmed.symm.trans trimmed')
  have parts := (splitPoint_text numeral).symm.trans ((congrArg splitPoint same).trans (splitPoint_text numeral'))
  obtain ⟨whole, fractional⟩ := Prod.mk.inj parts
  rw [Numeral.size, Numeral.size, whole, fractional]

end Decimal

namespace Fixed

open Decimal

variable {places : Nat} {text : String} {negative : Bool} {numeral : Numeral} {value : Fixed}

/-- A magnitude has to fit on the positive side before it gets its sign. -/
theorem bind_ofInt?_neg (size : Nat) :
    ((ofInt? size).bind fun positive => ofInt? (-positive.toInt)) =
      if size < 2 ^ 127 then ofInt? (-size) else none := by
  cases found : ofInt? size with
  | none =>
    rw [Option.bind_none, if_neg]
    intro small
    rw [ofInt?, dif_pos (by omega)] at found
    cases found
  | some positive =>
    have same := ofInt?_eq_some.mp found
    have most := positive.le_max
    rw [Option.bind_some, if_pos (by omega), same]

theorem ofInt?_natCast (size : Nat) : ofInt? size = if size < 2 ^ 127 then ofInt? size else none := by
  split
  · rfl
  · rw [ofInt?, dif_neg (by omega)]

/-- What reading makes of a text whose blanks have been removed. -/
theorem parse?_trimmed (few : places ≤ 38) (trimmed : trimBlank text.toList = numeral.spelling negative) :
    parse? places text = (magnitude? places numeral.text).bind fun size =>
      if size < 2 ^ 127 then ofInt? (signed negative size) else none := by
  rw [parse?, if_neg (Nat.not_lt.mpr few), trimmed]
  cases negative with
  | true => simp only [Numeral.spelling, if_true, bind_ofInt?_neg, signed]
  | false =>
    simp only [Numeral.spelling, signed, Bool.false_eq_true, if_false, ← ofInt?_natCast]
    split
    · rename_i digits same
      exact absurd (by rw [same]; rfl) numeral.head?_text_ne_minus
    · rfl

/-- What has been read is a numeral. -/
theorem numeral_of_parse? (read : parse? places text = some value) :
    places ≤ 38 ∧ ∃ (negative : Bool) (numeral : Numeral),
      trimBlank text.toList = numeral.spelling negative ∧ numeral.fractional.length ≤ places := by
  rw [parse?] at read
  split at read
  · cases read
  rename_i few
  refine ⟨Nat.not_lt.mp few, ?_⟩
  split at read
  · rename_i digits trimmed
    obtain ⟨size, found, _⟩ := Option.bind_eq_some_iff.mp read
    obtain ⟨numeral, rfl, within, _⟩ := magnitude?_eq_some.mp found
    exact ⟨true, numeral, trimmed, within⟩
  · obtain ⟨size, found, _⟩ := Option.bind_eq_some_iff.mp read
    obtain ⟨numeral, spelled, within, _⟩ := magnitude?_eq_some.mp found
    exact ⟨false, numeral, spelled.symm, within⟩

theorem natAbs_signed (negative : Bool) (size : Nat) : (signed negative size).natAbs = size := by
  cases negative
  · exact Int.natAbs_natCast size
  · exact (Int.natAbs_neg _).trans (Int.natAbs_natCast size)

/-- A numeral between blanks is read as its size with its sign, if that size fits. -/
theorem parse?_spelled (few : places ≤ 38) (trimmed : trimBlank text.toList = numeral.spelling negative)
    (within : numeral.fractional.length ≤ places) :
    parse? places text = some value ↔
      value.toInt = signed negative (numeral.size places) ∧ value.toInt.natAbs < 2 ^ 127 := by
  rw [parse?_trimmed few trimmed, magnitude?_eq_some.mpr ⟨numeral, rfl, within, rfl⟩, Option.bind_some]
  constructor
  · intro read
    split at read
    · rename_i small
      have same := ofInt?_eq_some.mp read
      rw [← same, natAbs_signed]
      exact ⟨rfl, small⟩
    · cases read
  · rintro ⟨same, small⟩
    rw [same, natAbs_signed] at small
    rw [if_pos small, ofInt?_eq_some, same]

theorem parse?_eq_some :
    parse? places text = some value ↔
      places ≤ 38 ∧ Denotes places text.toList value.toInt ∧ value.toInt.natAbs < 2 ^ 127 := by
  constructor
  · intro read
    obtain ⟨few, negative, numeral, trimmed, within⟩ := numeral_of_parse? read
    obtain ⟨same, small⟩ := (parse?_spelled few trimmed within).mp read
    obtain ⟨before, after, joined, blank⟩ := trimBlank_removed text.toList
    rw [trimmed] at joined
    exact ⟨few, ⟨before, after, negative, numeral, joined, blank, within, same⟩, small⟩
  · rintro ⟨few, ⟨before, after, negative, numeral, joined, blank, within, same⟩, small⟩
    have trimmed : trimBlank text.toList = numeral.spelling negative := by
      rw [joined, trimBlank_surrounded blank (numeral.spelling_plain negative)]
    exact (parse?_spelled few trimmed within).mpr ⟨same, small⟩

/-- Decimal text is read exactly if it denotes a quantity at a scale of at most 38
places and that quantity fits with either sign; then it is read as what it denotes. -/
theorem reading_decided (places : Nat) (text : String) :
    (∀ value : Fixed, parse? places text = some value ↔
      places ≤ 38 ∧ Denotes places text.toList value.toInt ∧ value.toInt.natAbs < 2 ^ 127) ∧
    (parse? places text = none ↔
      ¬(places ≤ 38 ∧ ∃ units, Denotes places text.toList units ∧ units.natAbs < 2 ^ 127)) := by
  refine ⟨fun value => parse?_eq_some, ?_⟩
  rw [Option.eq_none_iff_forall_ne_some]
  constructor
  · rintro refused ⟨few, units, denoted, small⟩
    exact refused ⟨units, by omega, by omega⟩ (parse?_eq_some.mpr ⟨few, denoted, small⟩)
  · intro none value read
    obtain ⟨few, denoted, small⟩ := parse?_eq_some.mp read
    exact none ⟨few, value.toInt, denoted, small⟩

example : parse? 2 " -.5\n" = some (ofInt (-50)) ∧ parse? 2 "1.005" = none := by decide +kernel

end Fixed

end IndexBasket
