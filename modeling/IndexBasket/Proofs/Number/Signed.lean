import IndexBasket.Proofs.Number.Fixed
import IndexBasket.Proofs.Number.Registers
import Mathlib.Algebra.Order.Floor.Ring
import Mathlib.Data.Rat.Floor

namespace IndexBasket

namespace Fixed

namespace Registers

/-- What a register of 128 bits keeps of a number, with the highest bit read as the sign. -/
def wrap (i : Int) : Fixed where
  toInt := i.bmod (2 ^ 128)
  ge_min := (show (_ : Int) ≤ -((2 ^ 128 : Nat) / 2 : Int) by decide).trans (Int.le_bmod (by decide))
  le_max := Int.le_of_lt_add_one (Int.bmod_lt (by decide))

/-- The signed quotient once more, in registers. The magnitude of a negative quotient is
first read as a signed quantity and then negated, and both may wrap. -/
def mulDivFloor (a b d : Fixed) : Option (Option Fixed) := do
  let negative := ((decide (a.toInt < 0)).xor (decide (b.toInt < 0))).xor (decide (d.toInt < 0))
  let division ← Amount.Registers.mulDivMod a.magnitude b.magnitude d.magnitude
  return division.bind fun (quotient, remainder) =>
    if negative then
      (if remainder = Amount.zero then some quotient else quotient.add? Amount.baseUnit).bind fun size =>
        if least.magnitude < size then none else some (wrap (-(wrap size.toNat).toInt))
    else quotient.toFixed?

theorem toInt_wrap_of_fits {i : Int} (least : -2 ^ 127 ≤ i) (most : i < 2 ^ 127) : (wrap i).toInt = i :=
  Int.bmod_eq_of_le (by omega) (by omega)

/-- Only the magnitude of the least quantity wraps: once where it is read, and back where
it is negated. -/
theorem wrap_neg_wrap {size : Amount} (fits : size.toNat ≤ 2 ^ 127) :
    ofInt? (-size.toNat) = some (wrap (-(wrap size.toNat).toInt)) := by
  rw [ofInt?_eq_some]
  by_cases extreme : size.toNat = 2 ^ 127
  · rw [extreme]
    rfl
  · rw [toInt_wrap_of_fits (i := size.toNat) (by omega) (by omega), toInt_wrap_of_fits (by omega) (by omega)]

theorem mulDivFloor_eq (a b d : Fixed) : mulDivFloor a b d = some (a.mulDivFloor b d) := by
  have negated : ∀ size : Amount, (if least.magnitude < size then none else
      some (wrap (-(wrap size.toNat).toInt))) = ofInt? (-size.toNat) := by
    intro size
    split
    · rename_i beyond
      refine (Option.eq_none_iff_forall_ne_some.mpr fun value found => ?_).symm
      have bound : 2 ^ 127 < size.toNat := beyond
      have same := ofInt?_eq_some.mp found
      have least := value.ge_min
      omega
    · rename_i within
      exact (wrap_neg_wrap (Nat.le_of_not_lt within)).symm
  rw [mulDivFloor, Amount.Registers.mulDivMod_eq, Option.bind_eq_bind, Option.bind_some, Fixed.mulDivFloor]
  simp only [negated]
  rfl

end Registers

theorem floor_div_eq_fdiv (n d : Int) : ⌊(n : ℚ) / d⌋ = n.fdiv d := by
  rcases Int.le_total 0 d with nonneg | nonpos
  · rw [Int.floor_div_cast_of_nonneg nonneg, Int.floor_intCast, Int.fdiv_eq_ediv_of_nonneg _ nonneg]
  · have opposite : 0 ≤ -d := Int.neg_nonneg.mpr nonpos
    rw [← neg_div_neg_eq, ← Int.cast_neg, ← Int.cast_neg, Int.floor_div_cast_of_nonneg opposite, Int.floor_intCast,
      ← Int.fdiv_eq_ediv_of_nonneg _ opposite, Int.neg_fdiv_neg]

/-- A signed product divided: the floor of the exact quotient, whatever the signs, wherever
there is one and it fits, and nothing else. No register is exceeded on the way, and to
negate the magnitude in one comes to the same. -/
theorem mulDivFloor_exact (a b d : Fixed) :
    (a.mulDivFloor b d =
      if fits : d.toInt ≠ 0 ∧ -2 ^ 127 ≤ ⌊(a.toInt * b.toInt : ℚ) / d.toInt⌋ ∧
          ⌊(a.toInt * b.toInt : ℚ) / d.toInt⌋ ≤ 2 ^ 127 - 1 then
        some ⟨⌊(a.toInt * b.toInt : ℚ) / d.toInt⌋, fits.2.1, fits.2.2⟩
      else none) ∧
    Registers.mulDivFloor a b d = some (a.mulDivFloor b d) := by
  refine ⟨?_, Registers.mulDivFloor_eq a b d⟩
  have floor : ⌊(a.toInt * b.toInt : ℚ) / d.toInt⌋ = (a.toInt * b.toInt).fdiv d.toInt := by
    rw [← Int.cast_mul, floor_div_eq_fdiv]
  split
  · rename_i fits
    exact mulDivFloor_eq_some.mpr ⟨fits.1, floor⟩
  · rename_i unfit
    refine Option.eq_none_iff_forall_ne_some.mpr fun quotient found => unfit ?_
    obtain ⟨nonzero, value⟩ := mulDivFloor_eq_some.mp found
    rw [floor, ← value]
    exact ⟨nonzero, quotient.ge_min, quotient.le_max⟩

/-- The least quantity is an answer, its opposite is not, and zero has no sign. -/
example : least.mulDivFloor one one = some least ∧ least.mulDivFloor (ofInt (-1)) (ofInt 1) = none ∧
    zero.mulDivFloor (ofInt (-1)) one = some zero := by decide +kernel

end Fixed

end IndexBasket
