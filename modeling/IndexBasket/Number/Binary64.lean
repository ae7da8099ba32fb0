namespace IndexBasket

namespace Binary64

/-- Halfway from the largest finite binary number of 64 bits to the next power of
two. What reaches it is rounded to infinity. -/
def limit : Nat := Nat.pow 2 1024 - Nat.pow 2 970

/-- Whether `digits * 10 ^ exponent`, rounded once to the nearest binary number,
is beyond the finite ones. The number of digits decides all other cases, so the
power is only computed where it is small. -/
def exceeds (digits : Nat) (exponent : Int) : Bool :=
  let magnitude := (Nat.toDigits 10 digits).length + exponent
  if digits = 0 ∨ magnitude < 309 then false
  else if 309 < magnitude then true
  else limit * Nat.pow 10 (-exponent).toNat ≤ digits * Nat.pow 10 exponent.toNat

/-- The nearest integer with at most 53 binary digits before its final zeros. Of
two that are equally near, the one whose digits are even is taken. -/
def nearest (n : Nat) : Nat :=
  let dropped := n.log2 - 52
  let kept := n >>> dropped
  let rest := n % 1 <<< dropped
  if 2 * rest < 1 <<< dropped ∨ (2 * rest = 1 <<< dropped ∧ kept % 2 = 0) then kept <<< dropped
  else (kept + 1) <<< dropped

theorem nearest_eq_self {n : Nat} (short : n.log2 ≤ 52) : nearest n = n := by
  simp [nearest, Nat.sub_eq_zero_of_le short, Nat.mod_one]

/-- Whether `significand * 10 ^ exponent` is beyond the finite numbers when both
factors are rounded before their product is. No power of ten above the 308th is
finite itself, and a negative one never makes a number larger. -/
def productExceeds (significand : Nat) (exponent : Int) : Bool :=
  if significand = 0 ∨ exponent < 0 then false
  else if 308 < exponent then true
  else limit ≤ nearest significand * nearest (Nat.pow 10 exponent.toNat)

end Binary64

end IndexBasket
