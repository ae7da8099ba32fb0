import IndexBasket.Number.Division
import Mathlib.Tactic.Linarith
import Mathlib.Tactic.Ring

namespace IndexBasket

namespace Amount

theorem toNat_wrap_of_lt {n : Nat} (fits : n < 2 ^ 128) : (wrap n).toNat = n :=
  Nat.mod_eq_of_lt fits

theorem toNat_lt (a : Amount) : a.toNat < 2 ^ 128 := a.lt_size

/-- Schoolbook multiplication in base `half`, with the carry of the middle
column split off. It is stated over plain numbers, so that the registers below
only have to show that none of them is exceeded. -/
theorem halves_mul (half a₁ a₀ b₁ b₀ : Nat) :
    (a₁ * half + a₀) * (b₁ * half + b₀) =
      (a₁ * b₁ + a₀ * b₁ / half + a₁ * b₀ / half +
        (a₀ * b₀ / half + a₀ * b₁ % half + a₁ * b₀ % half) / half) * (half * half) +
      (a₀ * b₀ / half + a₀ * b₁ % half + a₁ * b₀ % half) % half * half + a₀ * b₀ % half := by
  have ll := Nat.div_add_mod (a₀ * b₀) half
  have lh := Nat.div_add_mod (a₀ * b₁) half
  have hl := Nat.div_add_mod (a₁ * b₀) half
  have middle := Nat.div_add_mod (a₀ * b₀ / half + a₀ * b₁ % half + a₁ * b₀ % half) half
  generalize (a₀ * b₀ / half + a₀ * b₁ % half + a₁ * b₀ % half) / half = carry at *
  generalize (a₀ * b₀ / half + a₀ * b₁ % half + a₁ * b₀ % half) % half = column at *
  calc (a₁ * half + a₀) * (b₁ * half + b₀)
      = a₁ * b₁ * (half * half) + (a₀ * b₁ + a₁ * b₀) * half + a₀ * b₀ := by ring
    _ = (a₁ * b₁ + a₀ * b₁ / half + a₁ * b₀ / half) * (half * half) +
        (a₀ * b₀ / half + a₀ * b₁ % half + a₁ * b₀ % half) * half + a₀ * b₀ % half := by
      nth_rewrite 1 [← lh, ← hl, ← ll]
      ring
    _ = _ := by
      rw [← middle]
      ring

theorem half_mul_lt {x y : Nat} (hx : x < 2 ^ 64) (hy : y < 2 ^ 64) : x * y < 2 ^ 128 - 2 ^ 64 := by
  have product : x * y ≤ (2 ^ 64 - 1) * (2 ^ 64 - 1) := Nat.mul_le_mul (by omega) (by omega)
  omega

/-- The two words of a product are the product: no register on the way is
exceeded, and the high word cannot be because the whole product fits. -/
theorem wideMul_toNat (a b : Amount) :
    (a.wideMul b).1.toNat * 2 ^ 128 + (a.wideMul b).2.toNat = a.toNat * b.toNat := by
  have aHigh : a.toNat / 2 ^ 64 < 2 ^ 64 := by have := a.toNat_lt; omega
  have bHigh : b.toNat / 2 ^ 64 < 2 ^ 64 := by have := b.toNat_lt; omega
  have aLow : a.toNat % 2 ^ 64 < 2 ^ 64 := Nat.mod_lt _ (by decide)
  have bLow : b.toNat % 2 ^ 64 < 2 ^ 64 := Nat.mod_lt _ (by decide)
  have whole := halves_mul (2 ^ 64) (a.toNat / 2 ^ 64) (a.toNat % 2 ^ 64) (b.toNat / 2 ^ 64) (b.toNat % 2 ^ 64)
  rw [Nat.div_add_mod', Nat.div_add_mod'] at whole
  have llFits := half_mul_lt aLow bLow
  have lhFits := half_mul_lt aLow bHigh
  have hlFits := half_mul_lt aHigh bLow
  have hhFits := half_mul_lt aHigh bHigh
  have bound : a.toNat * b.toNat < 2 ^ 256 := by
    calc a.toNat * b.toNat ≤ (2 ^ 128 - 1) * (2 ^ 128 - 1) :=
          Nat.mul_le_mul (by have := a.toNat_lt; omega) (by have := b.toNat_lt; omega)
      _ < 2 ^ 256 := by norm_num
  simp only [wideMul, show (0x1_00000000_00000000 : Nat) = 2 ^ 64 from rfl]
  rw [toNat_wrap_of_lt (n := a.toNat % 2 ^ 64 * (b.toNat % 2 ^ 64)) (by omega),
    toNat_wrap_of_lt (n := a.toNat % 2 ^ 64 * (b.toNat / 2 ^ 64)) (by omega),
    toNat_wrap_of_lt (n := a.toNat / 2 ^ 64 * (b.toNat % 2 ^ 64)) (by omega),
    toNat_wrap_of_lt (n := a.toNat / 2 ^ 64 * (b.toNat / 2 ^ 64)) (by omega)]
  generalize a.toNat % 2 ^ 64 * (b.toNat % 2 ^ 64) = ll at *
  generalize a.toNat % 2 ^ 64 * (b.toNat / 2 ^ 64) = lh at *
  generalize a.toNat / 2 ^ 64 * (b.toNat % 2 ^ 64) = hl at *
  generalize a.toNat / 2 ^ 64 * (b.toNat / 2 ^ 64) = hh at *
  rw [toNat_wrap_of_lt (n := ll / 2 ^ 64 + lh % 2 ^ 64 + hl % 2 ^ 64) (by omega)]
  have column : (wrap ((ll / 2 ^ 64 + lh % 2 ^ 64 + hl % 2 ^ 64) * 2 ^ 64)).toNat =
      (ll / 2 ^ 64 + lh % 2 ^ 64 + hl % 2 ^ 64) % 2 ^ 64 * 2 ^ 64 := by
    simp only [wrap]
    omega
  rw [column, toNat_wrap_of_lt (by omega), toNat_wrap_of_lt (by omega)]
  omega

/-- One step of the long division keeps the balance: the bit that is shifted out
of the remainder is accounted for, because the divisor is given back exactly
when the doubled remainder reaches it. -/
theorem longDivision_step (low : Amount) {divisor remainder quotient : Amount} {bits : Nat}
    (small : remainder.toNat < divisor.toNat) (room : (quotient.toNat + 1) * 2 ^ (bits + 1) ≤ 2 ^ 128) :
    ∃ remainder' quotient' : Amount,
      longDivision low divisor (bits + 1) remainder quotient =
        longDivision low divisor bits remainder' quotient' ∧
      remainder'.toNat < divisor.toNat ∧ (quotient'.toNat + 1) * 2 ^ bits ≤ 2 ^ 128 ∧
      quotient'.toNat * divisor.toNat + remainder'.toNat =
        2 * (quotient.toNat * divisor.toNat + remainder.toNat) + low.toNat / 2 ^ bits % 2 := by
  have bit : low.toNat / 2 ^ bits % 2 < 2 := Nat.mod_lt _ (by decide)
  have divisorFits := divisor.toNat_lt
  have scale : 1 ≤ 2 ^ bits := Nat.one_le_two_pow
  have expanded : (quotient.toNat + 1) * 2 * 2 ^ bits ≤ 2 ^ 128 := by
    rwa [Nat.mul_assoc, ← Nat.pow_succ']
  have doubledFits : (quotient.toNat + 1) * 2 ≤ 2 ^ 128 := (Nat.le_mul_of_pos_right _ scale).trans expanded
  rw [longDivision]
  simp only [Nat.shiftRight_eq_div_pow, toNat_wrap_of_lt (n := 2 * quotient.toNat) (by omega)]
  generalize low.toNat / 2 ^ bits % 2 = next at *
  have shifted : (wrap (2 * remainder.toNat)).toNat + next =
      2 * remainder.toNat + next - remainder.toNat / 2 ^ 127 * 2 ^ 128 := by
    simp only [wrap]
    omega
  split
  · rename_i taken
    have value : (wrap ((wrap (2 * remainder.toNat)).toNat + next +
        (0x1_00000000_00000000_00000000_00000000 - divisor.toNat))).toNat =
        2 * remainder.toNat + next - divisor.toNat := by
      rw [shifted]
      simp only [wrap]
      omega
    refine ⟨_, _, rfl, ?_, ?_, ?_⟩
    · rw [value]
      omega
    · rw [toNat_wrap_of_lt (by omega)]
      exact (Nat.mul_le_mul_right _ (by omega)).trans expanded
    · rw [value, toNat_wrap_of_lt (by omega), Nat.add_mul, Nat.mul_assoc]
      omega
  · rename_i kept
    have value : (wrap ((wrap (2 * remainder.toNat)).toNat + next)).toNat = 2 * remainder.toNat + next := by
      rw [toNat_wrap_of_lt (by omega), shifted]
      omega
    refine ⟨_, _, rfl, ?_, ?_, ?_⟩
    · rw [value]
      omega
    · rw [toNat_wrap_of_lt (by omega)]
      exact (Nat.mul_le_mul_right _ (by omega)).trans expanded
    · rw [value, toNat_wrap_of_lt (by omega), Nat.mul_assoc]
      omega

/-- The whole run, by induction on the bits that are left: they are appended to
what has been divided so far. -/
theorem longDivision_balance (low : Amount) {divisor : Amount} (bits : Nat) {remainder quotient : Amount}
    (small : remainder.toNat < divisor.toNat) (room : (quotient.toNat + 1) * 2 ^ bits ≤ 2 ^ 128) :
    (longDivision low divisor bits remainder quotient).1.toNat * divisor.toNat +
        (longDivision low divisor bits remainder quotient).2.toNat =
      (quotient.toNat * divisor.toNat + remainder.toNat) * 2 ^ bits + low.toNat % 2 ^ bits ∧
    (longDivision low divisor bits remainder quotient).2.toNat < divisor.toNat := by
  induction bits generalizing remainder quotient with
  | zero =>
    simp only [longDivision, Nat.pow_zero, Nat.mul_one, Nat.mod_one, Nat.add_zero]
    exact ⟨trivial, small⟩
  | succ bits ih =>
    obtain ⟨remainder', quotient', run, small', room', step⟩ := longDivision_step low small room
    obtain ⟨balance, rest⟩ := ih small' room'
    rw [run]
    refine ⟨?_, rest⟩
    rw [balance, step, Nat.mod_pow_succ, Nat.pow_succ']
    ring

/-- Quotient and remainder of a product are given exactly where the divisor is
positive and the quotient fits. -/
theorem mulDivMod_eq_some {a b d quotient remainder : Amount} :
    a.mulDivMod b d = some (quotient, remainder) ↔
      0 < d.toNat ∧ quotient.toNat = a.toNat * b.toNat / d.toNat ∧
        remainder.toNat = a.toNat * b.toNat % d.toNat := by
  have product := wideMul_toNat a b
  have lowFits := (a.wideMul b).2.toNat_lt
  unfold mulDivMod wideDivMod
  generalize (a.wideMul b).1 = high at *
  generalize (a.wideMul b).2 = low at *
  rw [← product]
  split
  · rename_i refused
    refine ⟨nofun, fun ⟨positive, value, _⟩ => ?_⟩
    rcases refused with zeroDivisor | large
    · rw [zeroDivisor] at positive
      cases positive
    · have fits := quotient.toNat_lt
      rw [value, Nat.div_lt_iff_lt_mul positive] at fits
      have := Nat.mul_le_mul_right (2 ^ 128) (le_def.mp large)
      omega
  rename_i accepted
  obtain ⟨nonzero, small⟩ := not_or.mp accepted
  have small : high.toNat < d.toNat := Nat.lt_of_not_le small
  have positive : 0 < d.toNat := by omega
  split
  · rename_i narrow
    rw [narrow]
    simp only [show zero.toNat = 0 from rfl, Nat.zero_mul, Nat.zero_add, Option.some.injEq, Prod.mk.injEq,
      Amount.ext_iff, positive, true_and]
    rw [toNat_wrap_of_lt ((Nat.div_le_self _ _).trans_lt lowFits),
      toNat_wrap_of_lt ((Nat.mod_le _ _).trans_lt lowFits), eq_comm, eq_comm (b := remainder.toNat)]
  · obtain ⟨balance, rest⟩ := longDivision_balance low 128 small (show (zero.toNat + 1) * 2 ^ 128 ≤ 2 ^ 128 by decide)
    simp only [show zero.toNat = 0 from rfl, Nat.zero_mul, Nat.zero_add, Nat.mod_eq_of_lt lowFits] at balance
    have down : (high.toNat * 2 ^ 128 + low.toNat) / d.toNat = (longDivision low d 128 high zero).1.toNat := by
      rw [← balance, Nat.mul_comm, Nat.mul_add_div positive, Nat.div_eq_of_lt rest, Nat.add_zero]
    have left : (high.toNat * 2 ^ 128 + low.toNat) % d.toNat = (longDivision low d 128 high zero).2.toNat := by
      rw [← balance, Nat.mul_comm, Nat.mul_add_mod, Nat.mod_eq_of_lt rest]
    simp only [Option.some.injEq, Prod.ext_iff, Amount.ext_iff, positive, true_and, down, left]
    rw [eq_comm, eq_comm (b := remainder.toNat)]

theorem mulDivFloor_eq_some {a b d quotient : Amount} :
    a.mulDivFloor b d = some quotient ↔
      0 < d.toNat ∧ quotient.toNat = a.toNat * b.toNat / d.toNat := by
  unfold mulDivFloor
  rw [Option.map_eq_some_iff]
  constructor
  · rintro ⟨⟨quotient, remainder⟩, run, rfl⟩
    obtain ⟨positive, value, _⟩ := mulDivMod_eq_some.mp run
    exact ⟨positive, value⟩
  · rintro ⟨positive, value⟩
    have remainderFits : a.toNat * b.toNat % d.toNat < 2 ^ 128 := (Nat.mod_lt _ positive).trans d.toNat_lt
    exact ⟨(quotient, ⟨_, remainderFits⟩), mulDivMod_eq_some.mpr ⟨positive, value, rfl⟩, rfl⟩

/-- Rounding up is rounding down after all but one of the divisor has been added. -/
theorem ceil_eq_floor_add {n d : Nat} (positive : 0 < d) :
    (n + (d - 1)) / d = if n % d = 0 then n / d else n / d + 1 := by
  have division := Nat.div_add_mod n d
  have small := Nat.mod_lt n positive
  rw [Nat.mul_comm] at division
  split
  · rw [Nat.div_eq_iff positive]
    omega
  · rw [Nat.div_eq_iff positive, Nat.add_mul]
    omega

theorem mulDivCeil_eq_some {a b d quotient : Amount} :
    a.mulDivCeil b d = some quotient ↔
      0 < d.toNat ∧ quotient.toNat = (a.toNat * b.toNat + (d.toNat - 1)) / d.toNat := by
  unfold mulDivCeil
  rw [Option.bind_eq_some_iff]
  constructor
  · rintro ⟨⟨down, remainder⟩, run, rounded⟩
    obtain ⟨positive, value, rest⟩ := mulDivMod_eq_some.mp run
    refine ⟨positive, ?_⟩
    rw [ceil_eq_floor_add positive, ← value, ← rest]
    dsimp only at rounded
    split at rounded
    · rename_i even
      cases rounded
      rw [if_pos (by rw [even]; rfl)]
    · rename_i odd
      have positiveRest : ¬remainder.toNat = 0 := fun zeroRest => odd (Amount.ext zeroRest)
      rw [if_neg positiveRest]
      exact (ofNat?_eq_some.mp rounded).symm
  · rintro ⟨positive, value⟩
    rw [ceil_eq_floor_add positive] at value
    have remainderFits : a.toNat * b.toNat % d.toNat < 2 ^ 128 := (Nat.mod_lt _ positive).trans d.toNat_lt
    have quotientFits : a.toNat * b.toNat / d.toNat < 2 ^ 128 := by
      have := quotient.toNat_lt
      split at value <;> omega
    refine ⟨(⟨_, quotientFits⟩, ⟨_, remainderFits⟩), mulDivMod_eq_some.mpr ⟨positive, rfl, rfl⟩, ?_⟩
    dsimp only
    split at value
    · rename_i even
      rw [if_pos (Amount.ext even)]
      exact congrArg some (Amount.ext value.symm)
    · rename_i odd
      rw [if_neg (fun zeroRest => odd (congrArg toNat zeroRest))]
      exact ofNat?_eq_some.mpr value.symm

end Amount

end IndexBasket
