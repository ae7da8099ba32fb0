import IndexBasket.Number.Fixed
import IndexBasket.Proofs.Number.Division

namespace IndexBasket

namespace Fixed

theorem ofInt?_eq_some {i : Int} {a : Fixed} : ofInt? i = some a ↔ i = a.toInt := by
  unfold ofInt?
  constructor
  · intro found
    split at found
    · cases found; rfl
    · cases found
  · rintro rfl
    exact dif_pos ⟨a.ge_min, a.le_max⟩

theorem magnitude_toNat (a : Fixed) : a.magnitude.toNat = a.toInt.natAbs := rfl

theorem fdiv_natCast (n m : Nat) : (n : Int).fdiv m = (n / m : Nat) := by
  rw [Int.fdiv_eq_ediv_of_nonneg _ (Int.natCast_nonneg m), Int.natCast_ediv]

/-- The floor of a negative quotient is the ceiling of its magnitude, negated. -/
theorem fdiv_neg_natCast {n m : Nat} (positive : 0 < m) :
    (-n : Int).fdiv m = -((n + (m - 1)) / m : Nat) := by
  have division := Nat.div_add_mod (n + (m - 1)) m
  have small := Nat.mod_lt (n + (m - 1)) positive
  rw [Int.fdiv_eq_ediv_of_nonneg _ (Int.natCast_nonneg m), Int.ediv_eq_iff_of_pos (by omega), Int.neg_mul]
  generalize (n + (m - 1)) / m = quotient at *
  generalize (n + (m - 1)) % m = remainder at *
  have product : (quotient : Int) * m = (m * quotient : Nat) := by push_cast; ring
  omega

/-- The integer with a given sign and magnitude. -/
def signed (negative : Bool) (n : Nat) : Int := if negative then -n else n

theorem eq_signed (i : Int) : i = signed (i < 0) i.natAbs := by
  by_cases negative : i < 0
  · simp only [signed, negative, decide_true, if_true]
    omega
  · simp only [signed, negative, decide_false, Bool.false_eq_true, if_false]
    omega

theorem signed_mul (s t : Bool) (n m : Nat) : signed s n * signed t m = signed (s.xor t) (n * m) := by
  cases s <;> cases t <;> simp [signed]

/-- The exact quotient has the sign that its operands give it, and its floor is
found from magnitudes: down for a quotient that is not negative, up and then
negated for one that is. -/
theorem signed_fdiv (s t : Bool) (n : Nat) {m : Nat} (positive : 0 < m) :
    (signed s n).fdiv (signed t m) =
      if s.xor t then -(((n + (m - 1)) / m : Nat) : Int) else ((n / m : Nat) : Int) := by
  have down := fdiv_natCast n m
  have up := fdiv_neg_natCast (n := n) positive
  have upper : (n : Int).fdiv (-m) = -((n + (m - 1)) / m : Nat) := by
    rw [← Int.neg_fdiv_neg, Int.neg_neg, up]
  cases s <;> cases t <;> simp only [signed, Bool.xor_true, Bool.xor_false, Bool.not_true, Bool.not_false,
    if_true, if_false, Bool.false_eq_true, Int.neg_fdiv_neg, down, up, upper]

/-- A negative quotient takes its magnitude rounded up, any other one rounded down. -/
theorem mulDivFloor_eq (a b d : Fixed) :
    a.mulDivFloor b d =
      if ((decide (a.toInt < 0)).xor (decide (b.toInt < 0))).xor (decide (d.toInt < 0)) then
        (a.magnitude.mulDivCeil b.magnitude d.magnitude).bind fun size => ofInt? (-size.toNat)
      else (a.magnitude.mulDivFloor b.magnitude d.magnitude).bind fun size => ofInt? size.toNat := by
  unfold mulDivFloor Amount.mulDivCeil Amount.mulDivFloor
  split <;> cases a.magnitude.mulDivMod b.magnitude d.magnitude <;> rfl

/-- The signed quotient is given exactly where the divisor is not zero and the
floor of the exact quotient fits. -/
theorem mulDivFloor_eq_some {a b d quotient : Fixed} :
    a.mulDivFloor b d = some quotient ↔
      d.toInt ≠ 0 ∧ quotient.toInt = (a.toInt * b.toInt).fdiv d.toInt := by
  have sign : 0 < d.magnitude.toNat ↔ d.toInt ≠ 0 := Int.natAbs_pos
  have least := quotient.ge_min
  have most := quotient.le_max
  rw [mulDivFloor_eq]
  by_cases zeroDivisor : d.toInt = 0
  · simp only [Option.bind_eq_some_iff, Amount.mulDivCeil_eq_some, Amount.mulDivFloor_eq_some, sign, zeroDivisor,
      ne_eq, not_true, false_and, exists_false, ite_self, apply_ite (· = some quotient)]
  have positive : 0 < d.toInt.natAbs := Int.natAbs_pos.mpr zeroDivisor
  have value := signed_fdiv ((a.toInt < 0 : Bool).xor (b.toInt < 0)) (d.toInt < 0)
    (a.toInt.natAbs * b.toInt.natAbs) positive
  rw [← signed_mul, ← eq_signed, ← eq_signed, ← eq_signed] at value
  rw [value]
  split
  · simp only [Option.bind_eq_some_iff, Amount.mulDivCeil_eq_some, ofInt?_eq_some, magnitude_toNat]
    constructor
    · rintro ⟨size, ⟨_, up⟩, negated⟩
      exact ⟨zeroDivisor, by rw [← negated, up]⟩
    · rintro ⟨_, floor⟩
      generalize (a.toInt.natAbs * b.toInt.natAbs + (d.toInt.natAbs - 1)) / d.toInt.natAbs = size at *
      exact ⟨⟨size, by omega⟩, ⟨positive, rfl⟩, floor.symm⟩
  · simp only [Option.bind_eq_some_iff, Amount.mulDivFloor_eq_some, ofInt?_eq_some, magnitude_toNat]
    constructor
    · rintro ⟨size, ⟨_, down⟩, same⟩
      exact ⟨zeroDivisor, by rw [← same, down]⟩
    · rintro ⟨_, floor⟩
      generalize a.toInt.natAbs * b.toInt.natAbs / d.toInt.natAbs = size at *
      exact ⟨⟨size, by omega⟩, ⟨positive, rfl⟩, floor.symm⟩

theorem preciseMul_eq_some {a b product : Fixed} :
    a.preciseMul b = some product ↔ product.toInt = a.toInt * b.toInt / 10 ^ 18 := by
  rw [preciseMul, mulDivFloor_eq_some, show one.toInt = 10 ^ 18 from rfl,
    Int.fdiv_eq_ediv_of_nonneg _ (by decide)]
  exact and_iff_right (by decide)

theorem preciseDiv_eq_some {a b quotient : Fixed} (positive : 0 < b.toInt) :
    a.preciseDiv b = some quotient ↔ quotient.toInt = a.toInt * 10 ^ 18 / b.toInt := by
  rw [preciseDiv, mulDivFloor_eq_some, show one.toInt = 10 ^ 18 from rfl,
    Int.fdiv_eq_ediv_of_nonneg _ positive.le]
  exact and_iff_right positive.ne'

/-- What a supply holds at a unit: nothing at a unit that is not positive. -/
theorem notionalFloor_eq_some {unit : Fixed} {supply notional : Amount} :
    unit.notionalFloor supply = some notional ↔
      notional.toNat = unit.toInt.toNat * supply.toNat / 10 ^ 18 := by
  unfold notionalFloor
  split
  · rename_i nonpositive
    have none : unit.toInt.toNat = 0 := Int.toNat_of_nonpos (le_def.mp nonpositive)
    rw [none, Nat.zero_mul, Nat.zero_div, Option.some.injEq, Amount.ext_iff, eq_comm]
    rfl
  · rename_i positive
    have size : unit.magnitude.toNat = unit.toInt.toNat := by
      have : ¬unit.toInt ≤ 0 := positive
      rw [magnitude_toNat]
      omega
    rw [Amount.preciseMul, Amount.mulDivFloor_eq_some, size]
    exact and_iff_right (by decide)

theorem notionalCeil_eq_some {unit : Fixed} {supply notional : Amount} :
    unit.notionalCeil supply = some notional ↔
      notional.toNat = (unit.toInt.toNat * supply.toNat + (10 ^ 18 - 1)) / 10 ^ 18 := by
  unfold notionalCeil
  split
  · rename_i nonpositive
    have none : unit.toInt.toNat = 0 := Int.toNat_of_nonpos (le_def.mp nonpositive)
    rw [none, Nat.zero_mul, Option.some.injEq, Amount.ext_iff, eq_comm]
    rfl
  · rename_i positive
    have size : unit.magnitude.toNat = unit.toInt.toNat := by
      have : ¬unit.toInt ≤ 0 := positive
      rw [magnitude_toNat]
      omega
    rw [Amount.preciseMulCeil, Amount.mulDivCeil_eq_some, size]
    exact and_iff_right (by decide)

end Fixed

end IndexBasket
