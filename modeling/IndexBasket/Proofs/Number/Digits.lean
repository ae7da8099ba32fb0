import Mathlib.Data.Nat.Digits.Defs

namespace IndexBasket

/-! Digits as characters, most significant first. -/

namespace Digits

theorem digitChar_ne_zero : ∀ n < 10, 0 < n → n.digitChar ≠ '0' := by decide

/-- Only zero is written with a zero in front. -/
theorem head_toDigits {n : Nat} (positive : 0 < n) : ∃ c tail, Nat.toDigits 10 n = c :: tail ∧ c ≠ '0' := by
  induction n using Nat.strongRecOn with
  | _ n ih =>
    rw [Nat.toDigits_eq_if (by omega)]
    split
    · rename_i small
      exact ⟨_, [], rfl, digitChar_ne_zero n small positive⟩
    · obtain ⟨c, tail, digits, nonzero⟩ := ih (n / 10) (by omega) (by omega)
      rw [digits]
      exact ⟨c, _, rfl, nonzero⟩

theorem all_toDigits (n : Nat) : ∀ c ∈ Nat.toDigits 10 n, c.isDigit = true :=
  fun _ => Nat.isDigit_of_mem_toDigits (by omega) (Nat.le_refl 10)

/-- The number that digits denote, by the place of each. -/
def number (digits : List Char) : Nat :=
  Nat.ofDigits 10 (digits.reverse.map fun c => c.toNat - '0'.toNat)

theorem number_append (left right : List Char) :
    number (left ++ right) = number left * 10 ^ right.length + number right := by
  rw [number, List.reverse_append, List.map_append, Nat.ofDigits_append, List.length_map, List.length_reverse]
  change number right + 10 ^ right.length * number left = _
  ring

theorem number_eq_ofDigitChars (digits : List Char) : number digits = Nat.ofDigitChars 10 digits 0 := by
  induction digits with
  | nil => rfl
  | cons c rest ih =>
    rw [Nat.ofDigitChars_cons, Nat.ofDigitChars_eq_ofDigitChars_zero, ← ih, ← List.singleton_append, number_append,
      show number [c] = c.toNat - '0'.toNat from Nat.ofDigits_singleton]
    ring

theorem number_toDigits (n : Nat) : number (Nat.toDigits 10 n) = n := by
  rw [number_eq_ofDigitChars, Nat.ofDigitChars_ten_toDigits]

theorem number_zeros (count : Nat) : number (List.replicate count '0') = 0 := by
  rw [number_eq_ofDigitChars, Nat.ofDigitChars_replicate_zero, Nat.mul_zero]

end Digits

end IndexBasket
