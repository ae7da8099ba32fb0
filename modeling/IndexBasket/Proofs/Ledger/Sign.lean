import IndexBasket.Proofs.Ledger.Rescaling

namespace IndexBasket

instance : Std.LawfulOrderInf Amount where
  le_min_iff a b c := by
    change a.toNat ≤ (if b.toNat ≤ c.toNat then b else c).toNat ↔ a.toNat ≤ b.toNat ∧ a.toNat ≤ c.toNat
    split <;> omega

namespace Ledger

variable {ledger : Ledger} {component : Address} {unit virtualUnit : Fixed}

/-- A unit beyond the range is read as the end that it passed. -/
theorem toReal_cases (ledger : Ledger) (virtualUnit : Fixed) :
    (ledger.toReal virtualUnit).toInt = virtualUnit.toInt * ledger.multiplier.toInt / 10 ^ 18 ∨
      ledger.toReal virtualUnit = if virtualUnit.toInt < 0 then Fixed.least else Fixed.greatest := by
  cases found : virtualUnit.preciseMul ledger.multiplier with
  | some product =>
    rw [toReal, found]
    exact Or.inl (Fixed.preciseMul_eq_some.mp found)
  | none =>
    rw [toReal, found]
    exact Or.inr rfl

/-- A negative unit never vanishes, because it is rounded away from zero. -/
theorem toReal_neg (readable : ledger.Readable) (negative : virtualUnit.toInt < 0) :
    (ledger.toReal virtualUnit).toInt < 0 := by
  rcases toReal_cases ledger virtualUnit with exact | ending
  · have product := Int.mul_neg_of_neg_of_pos negative readable
    omega
  · rw [ending, if_pos negative]
    decide

theorem toReal_nonneg (readable : ledger.Readable) (nonneg : 0 ≤ virtualUnit.toInt) :
    0 ≤ (ledger.toReal virtualUnit).toInt := by
  rcases toReal_cases ledger virtualUnit with exact | ending
  · have product := Int.mul_nonneg nonneg readable.le
    omega
  · rw [ending, if_neg (Int.not_lt.mpr nonneg)]
    decide

theorem toReal_pos (worth : 10 ^ 18 ≤ virtualUnit.toInt * ledger.multiplier.toInt)
    (positive : 0 < virtualUnit.toInt) : 0 < (ledger.toReal virtualUnit).toInt := by
  rcases toReal_cases ledger virtualUnit with exact | ending
  · omega
  · rw [ending, if_neg (Int.not_lt.mpr positive.le)]
    decide

/-- A unit is read with the sign that it is stored with. -/
def SignKept (ledger : Ledger) (virtualUnit : Fixed) : Prop :=
  (ledger.toReal virtualUnit).toInt.sign = virtualUnit.toInt.sign

/-- Only a positive unit could lose its sign. -/
theorem signKept_of_pos (readable : ledger.Readable)
    (read : 0 < virtualUnit.toInt → ledger.toReal virtualUnit ≠ Fixed.zero) : ledger.SignKept virtualUnit := by
  unfold SignKept
  rcases Int.lt_trichotomy virtualUnit.toInt 0 with negative | zero | positive
  · rw [Int.sign_eq_neg_one_of_neg negative, Int.sign_eq_neg_one_of_neg (toReal_neg readable negative)]
  · have vanished : virtualUnit = Fixed.zero := Fixed.ext zero
    rw [vanished, toReal_zero]
  · have nonneg := toReal_nonneg readable positive.le
    have nonzero : (ledger.toReal virtualUnit).toInt ≠ 0 := fun zero => read positive (Fixed.ext zero)
    rw [Int.sign_eq_one_of_pos positive, Int.sign_eq_one_of_pos (by omega)]

/-- What a real unit is converted to keeps its sign: the conversion refuses it
otherwise. -/
theorem signKept_toVirtual (readable : ledger.Readable)
    (run : ledger.toVirtual component unit = .ok virtualUnit) : ledger.SignKept virtualUnit := by
  obtain ⟨found, kept⟩ := toVirtual_eq_ok run
  refine signKept_of_pos readable fun positive => kept fun zero => ?_
  have stored := (Fixed.preciseDiv_eq_some readable).mp found
  rw [zero, show Fixed.zero.toInt = 0 from rfl, Int.zero_mul, Int.zero_ediv] at stored
  omega

theorem toReal_congr {other : Ledger} (same : other.multiplier = ledger.multiplier) (virtualUnit : Fixed) :
    other.toReal virtualUnit = ledger.toReal virtualUnit := by
  rw [toReal, toReal, same]

/-- A conversion makes zero out of zero only, and what it makes is not negative if the
unit is not. -/
theorem toVirtual_sign (readable : ledger.Readable) (nonneg : 0 ≤ unit.toInt)
    (stored : ledger.toVirtual component unit = .ok virtualUnit) :
    0 ≤ virtualUnit.toInt ∧ (virtualUnit = Fixed.zero ↔ unit = Fixed.zero) := by
  obtain ⟨found, kept⟩ := toVirtual_eq_ok stored
  have value := (Fixed.preciseDiv_eq_some readable).mp found
  refine ⟨?_, fun zero => ?_, fun zero => ?_⟩
  · rw [value]
    exact Int.ediv_nonneg (by omega) readable.le
  · by_contra nonzero
    exact kept nonzero (by rw [zero, toReal_zero])
  · refine Fixed.ext ?_
    rw [value, zero, show Fixed.zero.toInt = 0 from rfl, Int.zero_mul, Int.zero_ediv]

/-! What the check of a multiplier makes sure of. -/

/-- No unit is below the smallest positive one. -/
theorem smallestPositive?_le {units : List Fixed} {smallest : Amount} (found : smallestPositive? units = some smallest)
    (member : virtualUnit ∈ units) (positive : 0 < virtualUnit.toInt) :
    (smallest.toNat : Int) ≤ virtualUnit.toInt := by
  have least : smallest ≤ virtualUnit.magnitude := by
    refine (List.le_min?_iff found).mp (Nat.le_refl _) _ (List.mem_map_of_mem ?_)
    exact List.mem_filter.mpr ⟨member, decide_eq_true positive⟩
  rw [Amount.le_def, Fixed.magnitude_toNat] at least
  omega

theorem smallestPositive?_isSome {units : List Fixed} (member : virtualUnit ∈ units)
    (positive : 0 < virtualUnit.toInt) : ∃ smallest, smallestPositive? units = some smallest := by
  cases found : smallestPositive? units with
  | some smallest => exact ⟨smallest, rfl⟩
  | none =>
    have empty := List.map_eq_nil_iff.mp (List.min?_eq_none_iff.mp found)
    have listed : virtualUnit ∈ units.filter (Fixed.zero < ·) := List.mem_filter.mpr ⟨member, decide_eq_true positive⟩
    rw [empty] at listed
    cases listed

/-- Under a multiplier that has passed its check every positive unit is worth a base
unit at least. -/
theorem checkMultiplier_worth {units : List Fixed} {multiplier : Fixed}
    (passed : checkMultiplier units multiplier = .ok ()) (member : virtualUnit ∈ units)
    (positive : 0 < virtualUnit.toInt) : 10 ^ 18 ≤ virtualUnit.toInt * multiplier.toInt := by
  have above := checkMultiplier_pos passed
  obtain ⟨smallest, found⟩ := smallestPositive?_isSome member positive
  have least := smallestPositive?_le found member positive
  unfold checkMultiplier at passed
  rw [found] at passed
  simp only [Except.guard_bind_eq_ok, Except.bind_eq_ok, demand_eq_ok, Amount.preciseMul,
    Amount.mulDivFloor_eq_some, Fixed.magnitude_toNat] at passed
  obtain ⟨_, realUnit, ⟨_, value⟩, nonzero, _⟩ := passed
  have read : realUnit.toNat ≠ 0 := fun zero => nonzero (Amount.ext zero)
  have worth : 10 ^ 18 ≤ smallest.toNat * multiplier.toInt.natAbs := by
    by_contra less
    exact read (value.trans (Nat.div_eq_of_lt (Nat.not_le.mp less)))
  have magnitude : (multiplier.toInt.natAbs : Int) = multiplier.toInt := Int.natAbs_of_nonneg above.le
  calc (10 ^ 18 : Int) ≤ (smallest.toNat * multiplier.toInt.natAbs : Nat) := by exact_mod_cast worth
    _ = smallest.toNat * multiplier.toInt := by rw [Int.natCast_mul, magnitude]
    _ ≤ virtualUnit.toInt * multiplier.toInt := Int.mul_le_mul_of_nonneg_right least above.le

end Ledger

end IndexBasket
