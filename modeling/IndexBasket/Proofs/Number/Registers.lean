import IndexBasket.Proofs.Number.Division
import Mathlib.Algebra.Order.Floor.Div

namespace IndexBasket

namespace Amount

/-! The product and the long division once more, in registers that have to hold whatever
is put into them. Where a number does not fit, there is no result. -/

namespace Registers

/-- Both words of a product, one sum after another. Of the middle column the lower half
goes into the low word and the upper half into the high one. -/
def wideMul (a b : Amount) : Option (Amount × Amount) := do
  let half := 0x1_00000000_00000000
  let ll ← ofNat? (a.toNat % half * (b.toNat % half))
  let lh ← ofNat? (a.toNat % half * (b.toNat / half))
  let hl ← ofNat? (a.toNat / half * (b.toNat % half))
  let hh ← ofNat? (a.toNat / half * (b.toNat / half))
  let column ← ofNat? (ll.toNat / half + lh.toNat % half)
  let middle ← ofNat? (column.toNat + hl.toNat % half)
  let low ← ofNat? (ll.toNat % half + middle.toNat % half * half)
  let top ← ofNat? (hh.toNat + lh.toNat / half)
  let top ← ofNat? (top.toNat + hl.toNat / half)
  let high ← ofNat? (top.toNat + middle.toNat / half)
  return (high, low)

/-- The long division. A remainder that has been doubled may have one bit more than a
register, but what is stored of it may not. -/
def longDivision (low divisor : Amount) : Nat → Amount → Amount → Option (Amount × Amount)
  | 0, remainder, quotient => some (quotient, remainder)
  | bits + 1, remainder, quotient => do
    let next := 2 * remainder.toNat + low.toNat / 2 ^ bits % 2
    let doubled ← ofNat? (2 * quotient.toNat)
    if divisor.toNat ≤ next then
      longDivision low divisor bits (← ofNat? (next - divisor.toNat)) (← ofNat? (doubled.toNat + 1))
    else
      longDivision low divisor bits (← ofNat? next) doubled

/-- Quotient and remainder of a product, if the division has any. -/
def mulDivMod (a b d : Amount) : Option (Option (Amount × Amount)) := do
  let (high, low) ← wideMul a b
  if d = zero ∨ d ≤ high then
    return none
  else if high = zero then
    return some (← ofNat? (low.toNat / d.toNat), ← ofNat? (low.toNat % d.toNat))
  else
    return some (← longDivision low d 128 high zero)

theorem bind_ofNat? {α : Type} {n : Nat} (fits : n < 2 ^ 128) (next : Amount → Option α) :
    (ofNat? n).bind next = next (wrap n) := by
  rw [ofNat?_eq_some.mpr (toNat_wrap_of_lt fits).symm, Option.bind_some]

/-- No register of a product is exceeded. For the high word this is seen from the product
itself: to what the words hold it is equal, and would not be if the high one had lost anything. -/
theorem wideMul_eq (a b : Amount) : wideMul a b = some (a.wideMul b) := by
  have product := wideMul_toNat a b
  have whole := halves_mul (2 ^ 64) (a.toNat / 2 ^ 64) (a.toNat % 2 ^ 64) (b.toNat / 2 ^ 64) (b.toNat % 2 ^ 64)
  rw [Nat.div_add_mod', Nat.div_add_mod'] at whole
  have aHigh : a.toNat / 2 ^ 64 < 2 ^ 64 := by have := a.toNat_lt; omega
  have bHigh : b.toNat / 2 ^ 64 < 2 ^ 64 := by have := b.toNat_lt; omega
  have aLow : a.toNat % 2 ^ 64 < 2 ^ 64 := Nat.mod_lt _ (by decide)
  have bLow : b.toNat % 2 ^ 64 < 2 ^ 64 := Nat.mod_lt _ (by decide)
  have llFits := half_mul_lt aLow bLow
  have lhFits := half_mul_lt aLow bHigh
  have hlFits := half_mul_lt aHigh bLow
  have hhFits := half_mul_lt aHigh bHigh
  unfold wideMul
  unfold Amount.wideMul at product ⊢
  simp only [show (0x1_00000000_00000000 : Nat) = 2 ^ 64 from rfl] at product ⊢
  generalize a.toNat % 2 ^ 64 * (b.toNat % 2 ^ 64) = ll at *
  generalize a.toNat % 2 ^ 64 * (b.toNat / 2 ^ 64) = lh at *
  generalize a.toNat / 2 ^ 64 * (b.toNat % 2 ^ 64) = hl at *
  generalize a.toNat / 2 ^ 64 * (b.toNat / 2 ^ 64) = hh at *
  simp (disch := omega) only [toNat_wrap_of_lt] at product ⊢
  have lowWord : ll % 2 ^ 64 + (wrap ((ll / 2 ^ 64 + lh % 2 ^ 64 + hl % 2 ^ 64) * 2 ^ 64)).toNat =
      ll % 2 ^ 64 + (ll / 2 ^ 64 + lh % 2 ^ 64 + hl % 2 ^ 64) % 2 ^ 64 * 2 ^ 64 := by
    simp only [wrap]
    omega
  rw [lowWord] at product ⊢
  have highWord : hh + lh / 2 ^ 64 + hl / 2 ^ 64 + (ll / 2 ^ 64 + lh % 2 ^ 64 + hl % 2 ^ 64) / 2 ^ 64 < 2 ^ 128 := by
    simp only [wrap] at product
    omega
  simp (disch := omega) only [Option.bind_eq_bind, bind_ofNat?, toNat_wrap_of_lt]
  rfl

/-- One step of the division in numbers without bound. What is left after the step is
again the remainder of a division, which leaves no choice of it. -/
theorem longDivision_next (low : Amount) {divisor remainder quotient : Amount} {bits : Nat}
    (small : remainder.toNat < divisor.toNat) (room : (quotient.toNat + 1) * 2 ^ (bits + 1) ≤ 2 ^ 128) :
    let next := 2 * remainder.toNat + low.toNat / 2 ^ bits % 2
    ∃ remainder' quotient' : Amount,
      Amount.longDivision low divisor (bits + 1) remainder quotient =
        Amount.longDivision low divisor bits remainder' quotient' ∧
      remainder'.toNat < divisor.toNat ∧ (quotient'.toNat + 1) * 2 ^ bits ≤ 2 ^ 128 ∧
      remainder'.toNat = next % divisor.toNat ∧ quotient'.toNat = 2 * quotient.toNat + next / divisor.toNat := by
  intro next
  obtain ⟨remainder', quotient', run, small', room', balance⟩ := longDivision_step low small room
  have positive : 0 < divisor.toNat := by omega
  have whole : divisor.toNat * quotient'.toNat + remainder'.toNat =
      divisor.toNat * (2 * quotient.toNat) + next := by
    rw [Nat.mul_comm, balance]
    ring
  refine ⟨remainder', quotient', run, small', room', ?_, ?_⟩
  · rw [← Nat.mul_add_mod divisor.toNat (2 * quotient.toNat) next, ← whole, Nat.mul_add_mod, Nat.mod_eq_of_lt small']
  · rw [← Nat.mul_add_div positive, ← whole, Nat.mul_add_div positive, Nat.div_eq_of_lt small', Nat.add_zero]

/-- No register of the division is exceeded in any of its steps, by induction on the bits
that are left. -/
theorem longDivision_eq (low : Amount) {divisor : Amount} (bits : Nat) {remainder quotient : Amount}
    (small : remainder.toNat < divisor.toNat) (room : (quotient.toNat + 1) * 2 ^ bits ≤ 2 ^ 128) :
    longDivision low divisor bits remainder quotient =
      some (Amount.longDivision low divisor bits remainder quotient) := by
  induction bits generalizing remainder quotient with
  | zero => rfl
  | succ bits ih =>
    have bit : low.toNat / 2 ^ bits % 2 < 2 := Nat.mod_lt _ (by decide)
    obtain ⟨remainder', quotient', run, small', room', rest, digit⟩ := longDivision_next low small room
    have doubled : 2 * quotient.toNat ≤ quotient'.toNat := digit ▸ Nat.le_add_right _ _
    have quotientFits := quotient'.toNat_lt
    rw [run, ← ih small' room', longDivision, Option.bind_eq_bind, bind_ofNat? (by omega), toNat_wrap_of_lt (by omega)]
    generalize low.toNat / 2 ^ bits % 2 = next at *
    split
    · rename_i taken
      have once : (2 * remainder.toNat + next) / divisor.toNat = 1 := Nat.div_eq_of_lt_le (by omega) (by omega)
      rw [once] at digit
      rw [Nat.mod_eq_sub_mod taken, Nat.mod_eq_of_lt (by omega)] at rest
      rw [← rest, ← digit, ofNat?_eq_some.mpr rfl, ofNat?_eq_some.mpr rfl]
      rfl
    · rename_i kept
      rw [Nat.mod_eq_of_lt (by omega)] at rest
      rw [Nat.div_eq_of_lt (by omega), Nat.add_zero] at digit
      have same : wrap (2 * quotient.toNat) = quotient' := Amount.ext (by rw [digit, toNat_wrap_of_lt (by omega)])
      rw [← rest, ofNat?_eq_some.mpr rfl, same]
      rfl

theorem mulDivMod_eq (a b d : Amount) : mulDivMod a b d = some (a.mulDivMod b d) := by
  rw [mulDivMod, wideMul_eq, Option.bind_eq_bind, Option.bind_some, Amount.mulDivMod, wideDivMod]
  generalize a.wideMul b = words
  obtain ⟨high, low⟩ := words
  dsimp only
  split
  · rfl
  rename_i accepted
  obtain ⟨nonzero, small⟩ := not_or.mp accepted
  have small : high.toNat < d.toNat := Nat.lt_of_not_le small
  split
  · simp only [Option.bind_eq_bind, bind_ofNat? ((Nat.div_le_self _ _).trans_lt low.toNat_lt),
      bind_ofNat? ((Nat.mod_le _ _).trans_lt low.toNat_lt)]
    rfl
  · rw [longDivision_eq low 128 small (by decide)]
    rfl

end Registers

/-- An answer that is known from when it is given: a number where it fits. -/
theorem eq_of_eq_some_iff {answer : Option Amount} {given : Prop} [Decidable given] {n : Nat}
    (known : ∀ {value : Amount}, answer = some value ↔ given ∧ value.toNat = n) :
    answer = if fits : given ∧ n < 2 ^ 128 then some ⟨n, fits.2⟩ else none := by
  split
  · rename_i fits
    exact known.mpr ⟨fits.1, rfl⟩
  · rename_i unfit
    refine Option.eq_none_iff_forall_ne_some.mpr fun value found => unfit ?_
    obtain ⟨holds, same⟩ := known.mp found
    exact ⟨holds, same ▸ value.toNat_lt⟩

/-- A product divided: the exact quotient, rounded down or up, wherever there is one and it
fits, and nothing else. No register is exceeded on the way. -/
theorem mulDiv_exact (a b d : Amount) :
    (a.mulDivFloor b d =
      if fits : 0 < d.toNat ∧ a.toNat * b.toNat / d.toNat < 2 ^ 128 then some ⟨_, fits.2⟩ else none) ∧
    (a.mulDivCeil b d =
      if fits : 0 < d.toNat ∧ (a.toNat * b.toNat) ⌈/⌉ d.toNat < 2 ^ 128 then some ⟨_, fits.2⟩ else none) ∧
    Registers.mulDivMod a b d = some (a.mulDivMod b d) := by
  refine ⟨eq_of_eq_some_iff mulDivFloor_eq_some, eq_of_eq_some_iff fun {quotient} => ?_, Registers.mulDivMod_eq a b d⟩
  rw [mulDivCeil_eq_some, Nat.ceilDiv_eq_add_pred_div]
  refine and_congr_right fun positive => ?_
  rw [Nat.add_sub_assoc positive]

end Amount

end IndexBasket
