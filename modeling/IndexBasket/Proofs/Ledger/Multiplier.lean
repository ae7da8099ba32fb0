import IndexBasket.Proofs.Ledger.Consistency
import Mathlib.Algebra.Order.Group.Unbundled.Int
import Mathlib.Data.List.Induction

namespace IndexBasket

namespace Amount

instance : Std.MinEqOr Amount where
  min_eq_or a b := by
    change (if a ≤ b then a else b) = a ∨ (if a ≤ b then a else b) = b
    split
    · exact Or.inl rfl
    · exact Or.inr rfl

theorem toNat_max (a b : Amount) : (max a b).toNat = max a.toNat b.toNat := by
  change (if a.toNat ≤ b.toNat then b else a).toNat = max a.toNat b.toNat
  split
  · omega
  · omega

theorem preciseMul_eq (a b : Amount) : a.preciseMul b = ofNat? (a.toNat * b.toNat / 10 ^ 18) := by
  refine Option.ext fun product => ?_
  rw [preciseMul, mulDivFloor_eq_some, ofNat?_eq_some, eq_comm]
  exact and_iff_right (by decide)

end Amount

namespace Ledger

open IndexBasket.Action

variable {ledger : Ledger} {units : List Fixed} {multiplier virtualUnit : Fixed}

/-! A unit of the smallest size and one of the largest stand for all the others. -/

theorem smallestPositive?_mem {smallest : Amount} (found : smallestPositive? units = some smallest) :
    ∃ virtualUnit ∈ units, 0 < virtualUnit.toInt ∧ virtualUnit.magnitude = smallest := by
  obtain ⟨virtualUnit, listed, size⟩ := List.mem_map.mp (List.min?_mem found)
  obtain ⟨member, positive⟩ := List.mem_filter.mp listed
  exact ⟨virtualUnit, member, of_decide_eq_true positive, size⟩

theorem foldl_max_le_iff {sizes : List Amount} {start : Amount} {bound : Nat} :
    (sizes.foldl max start).toNat ≤ bound ↔ start.toNat ≤ bound ∧ ∀ size ∈ sizes, size.toNat ≤ bound := by
  induction sizes generalizing start with
  | nil => simp
  | cons size rest ih => rw [List.foldl_cons, ih, Amount.toNat_max, Nat.max_le, List.forall_mem_cons, and_assoc]

theorem largestMagnitude_le_iff {bound : Nat} :
    (largestMagnitude units).toNat ≤ bound ↔ ∀ virtualUnit ∈ units, virtualUnit.toInt.natAbs ≤ bound := by
  rw [largestMagnitude, foldl_max_le_iff, List.forall_mem_map]
  exact and_iff_right (Nat.zero_le bound)

/-- Under the multiplier a positive unit would be worth less than a base unit. Under one
that is not positive itself this is said of any ledger. -/
def Vanishing (ledger : Ledger) (multiplier : Fixed) : Prop :=
  multiplier.toInt ≤ 0 ∨ ∃ virtualUnit, ledger.Stores virtualUnit ∧ 0 < virtualUnit.toInt ∧
    virtualUnit.toInt * multiplier.toInt < 10 ^ 18

/-- Under the multiplier the size of a unit would leave the range. -/
def Exceeding (ledger : Ledger) (multiplier : Fixed) : Prop :=
  ∃ virtualUnit, ledger.Stores virtualUnit ∧ 2 ^ 127 - 1 < |virtualUnit.toInt| * multiplier.toInt / 10 ^ 18

theorem pos_of_not_vanishing (worth : ¬ledger.Vanishing multiplier) : 0 < multiplier.toInt :=
  Int.not_le.mp fun nonpositive => worth (Or.inl nonpositive)

theorem vanishing_iff_smallest (positive : 0 < multiplier.toInt) :
    ledger.Vanishing multiplier ↔ ∃ smallest, smallestPositive? ledger.virtualUnits = some smallest ∧
      smallest.toNat * multiplier.toInt.natAbs < 10 ^ 18 := by
  have worth : ∀ virtualUnit : Fixed, 0 < virtualUnit.toInt → (virtualUnit.toInt * multiplier.toInt < 10 ^ 18 ↔
      virtualUnit.magnitude.toNat * multiplier.toInt.natAbs < 10 ^ 18) := by
    intro virtualUnit above
    have product := Int.mul_pos above positive
    rw [Fixed.magnitude_toNat, ← Int.natAbs_mul]
    omega
  constructor
  · rintro (nonpositive | ⟨virtualUnit, stores, above, less⟩)
    · omega
    · have member := mem_virtualUnits.mpr stores
      obtain ⟨smallest, found⟩ := smallestPositive?_isSome member above
      have least := smallestPositive?_le found member above
      have below : smallest.toNat ≤ virtualUnit.magnitude.toNat := by
        rw [Fixed.magnitude_toNat]
        omega
      exact ⟨smallest, found, (Nat.mul_le_mul_right _ below).trans_lt ((worth virtualUnit above).mp less)⟩
  · rintro ⟨smallest, found, less⟩
    obtain ⟨virtualUnit, member, above, rfl⟩ := smallestPositive?_mem found
    exact Or.inr ⟨virtualUnit, mem_virtualUnits.mp member, above, (worth virtualUnit above).mpr less⟩

theorem exceeding_iff_largest (positive : 0 < multiplier.toInt) :
    ledger.Exceeding multiplier ↔
      2 ^ 127 ≤ (largestMagnitude ledger.virtualUnits).toNat * multiplier.toInt.natAbs / 10 ^ 18 := by
  have above : 0 < multiplier.toInt.natAbs := Int.natAbs_pos.mpr positive.ne'
  have size : ∀ virtualUnit : Fixed, |virtualUnit.toInt| * multiplier.toInt / 10 ^ 18 =
      (virtualUnit.toInt.natAbs * multiplier.toInt.natAbs / 10 ^ 18 : Nat) := by
    intro virtualUnit
    rw [Int.abs_eq_natAbs, ← Int.natAbs_of_nonneg positive.le]
    rfl
  -- A size is within the range where it is at most this one, whatever unit has it.
  have within : ∀ n : Nat, n * multiplier.toInt.natAbs / 10 ^ 18 < 2 ^ 127 ↔
      n ≤ (2 ^ 127 * 10 ^ 18 - 1) / multiplier.toInt.natAbs := by
    intro n
    rw [Nat.le_div_iff_mul_le above]
    omega
  rw [← Nat.not_lt, within, largestMagnitude_le_iff]
  push Not
  refine exists_congr fun virtualUnit => ?_
  rw [mem_virtualUnits, size, ← Nat.not_le, ← within]
  refine and_congr_right fun _ => ?_
  omega

/-! What the check comes to. -/

theorem checkLargest_eq (units : List Fixed) (multiplier : Fixed) :
    (do
      let realUnit ← demand .overflow ((largestMagnitude units).preciseMul multiplier.magnitude)
      if Fixed.greatest.magnitude < realUnit then throw .overflow : Except LedgerError Unit) =
    if 2 ^ 127 ≤ (largestMagnitude units).toNat * multiplier.toInt.natAbs / 10 ^ 18 then .error .overflow
    else .ok () := by
  rw [Amount.preciseMul_eq, Fixed.magnitude_toNat, Amount.ofNat?]
  generalize (largestMagnitude units).toNat * multiplier.toInt.natAbs / 10 ^ 18 = realUnit
  split
  · rename_i fits
    by_cases beyond : 2 ^ 127 ≤ realUnit
    · rw [if_pos beyond]
      exact if_pos (show 2 ^ 127 - 1 < realUnit by omega)
    · rw [if_neg beyond]
      exact if_neg (show ¬2 ^ 127 - 1 < realUnit by omega)
  · rename_i unfit
    rw [if_pos (by omega)]
    rfl

theorem checkMultiplier_of_vanishing (vanishing : ledger.Vanishing multiplier) :
    checkMultiplier ledger.virtualUnits multiplier = .error .multiplierTooSmall := by
  unfold checkMultiplier
  rw [Except.guard_bind_eq_error]
  by_cases positive : 0 < multiplier.toInt
  · refine Or.inr ⟨Int.not_le.mpr positive, ?_⟩
    obtain ⟨smallest, found, less⟩ := (vanishing_iff_smallest positive).mp vanishing
    have worthless : smallest.preciseMul multiplier.magnitude = some Amount.zero := by
      rw [Amount.preciseMul_eq, Fixed.magnitude_toNat, Nat.div_eq_of_lt less]
      rfl
    rw [found]
    dsimp only
    rw [worthless]
    rfl
  · exact Or.inl ⟨Int.not_lt.mp positive, rfl⟩

/-- Once no unit vanishes, the smallest one is read as something, or is too large like
the largest one. -/
theorem checkMultiplier_of_worth (worth : ¬ledger.Vanishing multiplier) :
    checkMultiplier ledger.virtualUnits multiplier =
      if 2 ^ 127 ≤ (largestMagnitude ledger.virtualUnits).toNat * multiplier.toInt.natAbs / 10 ^ 18 then
        .error .overflow
      else .ok () := by
  have positive := pos_of_not_vanishing worth
  dsimp only [checkMultiplier]
  rw [if_neg (show ¬multiplier ≤ Fixed.zero from Int.not_le.mpr positive)]
  cases found : smallestPositive? ledger.virtualUnits with
  | none => exact checkLargest_eq ledger.virtualUnits multiplier
  | some smallest =>
    have enough : 10 ^ 18 ≤ smallest.toNat * multiplier.toInt.natAbs :=
      Nat.not_lt.mp fun less => worth ((vanishing_iff_smallest positive).mpr ⟨smallest, found, less⟩)
    have below : smallest.toNat ≤ (largestMagnitude ledger.virtualUnits).toNat := by
      obtain ⟨virtualUnit, member, _, rfl⟩ := smallestPositive?_mem found
      exact largestMagnitude_le_iff.mp le_rfl virtualUnit member
    have product := Nat.mul_le_mul_right multiplier.toInt.natAbs below
    dsimp only
    rw [Amount.preciseMul_eq, Fixed.magnitude_toNat, Amount.ofNat?]
    split
    · rename_i fits
      have nonzero : (⟨_, fits⟩ : Amount) ≠ Amount.zero := fun zero => by
        have nothing : smallest.toNat * multiplier.toInt.natAbs / 10 ^ 18 = 0 := congrArg Amount.toNat zero
        omega
      rw [← checkLargest_eq]
      exact if_neg nonzero
    · rename_i unfit
      rw [if_pos (by omega)]
      rfl

theorem setMultiplier_eq (multiplier : Fixed) (ledger : Ledger) :
    setMultiplier multiplier ledger =
      match checkMultiplier ledger.virtualUnits multiplier with
      | .ok _ => .ok () { ledger with multiplier }
      | .error failure => .error failure ledger := by
  rw [setMultiplier, get_bind]
  cases checkMultiplier ledger.virtualUnits multiplier with
  | ok => rw [lift_bind_ok rfl]; rfl
  | error failure => rw [lift_bind_error rfl]

theorem setMultiplier_of_vanishing (vanishing : ledger.Vanishing multiplier) :
    setMultiplier multiplier ledger = .error .multiplierTooSmall ledger := by
  rw [setMultiplier_eq, checkMultiplier_of_vanishing vanishing]

theorem setMultiplier_of_exceeding (worth : ¬ledger.Vanishing multiplier) (exceeding : ledger.Exceeding multiplier) :
    setMultiplier multiplier ledger = .error .overflow ledger := by
  have positive := pos_of_not_vanishing worth
  rw [setMultiplier_eq, checkMultiplier_of_worth worth, if_pos ((exceeding_iff_largest positive).mp exceeding)]

theorem setMultiplier_of_fitting (worth : ¬ledger.Vanishing multiplier) (fitting : ¬ledger.Exceeding multiplier) :
    setMultiplier multiplier ledger = .ok () { ledger with multiplier } := by
  have positive := pos_of_not_vanishing worth
  rw [setMultiplier_eq, checkMultiplier_of_worth worth,
    if_neg fun beyond => fitting ((exceeding_iff_largest positive).mpr beyond)]

theorem setMultiplier_cases (ledger : Ledger) (multiplier : Fixed) :
    ledger.Vanishing multiplier ∧ setMultiplier multiplier ledger = .error .multiplierTooSmall ledger ∨
      ¬ledger.Vanishing multiplier ∧ ledger.Exceeding multiplier ∧
        setMultiplier multiplier ledger = .error .overflow ledger ∨
      ¬ledger.Vanishing multiplier ∧ ¬ledger.Exceeding multiplier ∧
        setMultiplier multiplier ledger = .ok () { ledger with multiplier } := by
  by_cases vanishing : ledger.Vanishing multiplier
  · exact Or.inl ⟨vanishing, setMultiplier_of_vanishing vanishing⟩
  · by_cases exceeding : ledger.Exceeding multiplier
    · exact Or.inr (Or.inl ⟨vanishing, exceeding, setMultiplier_of_exceeding vanishing exceeding⟩)
    · exact Or.inr (Or.inr ⟨vanishing, exceeding, setMultiplier_of_fitting vanishing exceeding⟩)

theorem setMultiplier_vanishing_iff :
    setMultiplier multiplier ledger = .error .multiplierTooSmall ledger ↔ ledger.Vanishing multiplier := by
  obtain ⟨vanishing, run⟩ | ⟨worth, _, run⟩ | ⟨worth, _, run⟩ := setMultiplier_cases ledger multiplier
  · exact iff_of_true run vanishing
  · exact iff_of_false (by rw [run]; nofun) worth
  · exact iff_of_false (by rw [run]; nofun) worth

theorem setMultiplier_exceeding_iff :
    setMultiplier multiplier ledger = .error .overflow ledger ↔
      ¬ledger.Vanishing multiplier ∧ ledger.Exceeding multiplier := by
  obtain ⟨vanishing, run⟩ | ⟨worth, exceeding, run⟩ | ⟨_, fitting, run⟩ := setMultiplier_cases ledger multiplier
  · exact iff_of_false (by rw [run]; nofun) fun both => both.1 vanishing
  · exact iff_of_true run ⟨worth, exceeding⟩
  · exact iff_of_false (by rw [run]; nofun) fun both => fitting both.2

theorem setMultiplier_fitting_iff :
    setMultiplier multiplier ledger = .ok () { ledger with multiplier } ↔
      ¬ledger.Vanishing multiplier ∧ ¬ledger.Exceeding multiplier := by
  obtain ⟨vanishing, run⟩ | ⟨_, exceeding, run⟩ | ⟨worth, fitting, run⟩ := setMultiplier_cases ledger multiplier
  · exact iff_of_false (by rw [run]; nofun) fun both => both.1 vanishing
  · exact iff_of_false (by rw [run]; nofun) fun both => both.2 exceeding
  · exact iff_of_true run ⟨worth, fitting⟩

/-- The size that has been checked is that of a floor toward zero. A floor toward negative
infinity may be one lower, and so reach the end of the range but not pass it. -/
theorem product_of_fitting (worth : ¬ledger.Vanishing multiplier) (fitting : ¬ledger.Exceeding multiplier)
    (stores : ledger.Stores virtualUnit) :
    -2 ^ 127 ≤ virtualUnit.toInt * multiplier.toInt / 10 ^ 18 ∧
      virtualUnit.toInt * multiplier.toInt / 10 ^ 18 ≤ 2 ^ 127 - 1 ∧
      (virtualUnit ≠ Fixed.zero → virtualUnit.toInt * multiplier.toInt / 10 ^ 18 ≠ 0) := by
  have positive := pos_of_not_vanishing worth
  have size : |virtualUnit.toInt| * multiplier.toInt / 10 ^ 18 ≤ 2 ^ 127 - 1 :=
    Int.not_lt.mp fun beyond => fitting ⟨virtualUnit, stores, beyond⟩
  have product : |virtualUnit.toInt| * multiplier.toInt = (virtualUnit.toInt * multiplier.toInt).natAbs := by
    rw [Int.natAbs_mul, Int.natCast_mul, Int.abs_eq_natAbs, Int.natAbs_of_nonneg positive.le]
  rw [product] at size
  refine ⟨by omega, by omega, fun nonzero => ?_⟩
  rcases Int.lt_trichotomy virtualUnit.toInt 0 with negative | zero | above
  · have below := Int.mul_neg_of_neg_of_pos negative positive
    omega
  · exact absurd (Fixed.ext zero) nonzero
  · have enough : ¬virtualUnit.toInt * multiplier.toInt < 10 ^ 18 := fun less =>
      worth (Or.inr ⟨virtualUnit, stores, above, less⟩)
    omega

/-! One multiplier after another. -/

/-- Whether a ledger takes a multiplier. -/
def accepts (ledger : Ledger) (multiplier : Fixed) : Bool :=
  (setMultiplier multiplier).succeeds (fun _ _ => true) ledger

/-- What comes of a multiplier does not depend on the one that it replaces. -/
theorem outcome_setMultiplier (ledger : Ledger) (old multiplier : Fixed) :
    (setMultiplier multiplier).outcome { ledger with multiplier := old } = (setMultiplier multiplier).outcome ledger := by
  have units : virtualUnits { ledger with multiplier := old } = ledger.virtualUnits := rfl
  rw [outcome, outcome, setMultiplier_eq, setMultiplier_eq, units]
  cases checkMultiplier ledger.virtualUnits multiplier <;> rfl

theorem final_setMultiplier (ledger : Ledger) (old multiplier : Fixed) :
    (setMultiplier multiplier).final { ledger with multiplier := old } =
      if ledger.accepts multiplier then { ledger with multiplier } else { ledger with multiplier := old } := by
  have units : virtualUnits { ledger with multiplier := old } = ledger.virtualUnits := rfl
  unfold final accepts Action.succeeds
  rw [setMultiplier_eq, setMultiplier_eq, units]
  cases checkMultiplier ledger.virtualUnits multiplier <;> rfl

/-- After a row of multipliers the last one that was taken stands. -/
theorem finalAll_setMultiplier (ledger : Ledger) (multipliers : List Fixed) :
    finalAll setMultiplier multipliers ledger =
      { ledger with multiplier := (multipliers.filter ledger.accepts).getLast?.getD ledger.multiplier } := by
  induction multipliers using List.reverseRecOn with
  | nil => rfl
  | append_singleton rest last ih =>
    rw [finalAll_append, ih, List.filter_append]
    change (setMultiplier last).final _ = _
    rw [final_setMultiplier]
    split
    · rename_i taken
      rw [List.filter_cons_of_pos taken, List.filter_nil, List.getLast?_concat, Option.getD_some]
    · rename_i refused
      rw [List.filter_cons_of_neg refused, List.filter_nil, List.append_nil]

/-- How a multiplier is decided on. It is refused as too small where it is not positive or
some positive unit would vanish, else as an overflow where some unit would be too large,
and else taken: nothing but the multiplier changes, and every unit is read within the
range, and as zero only if it is zero. Of many multipliers the last one taken is as good
as all of them, because none is judged by what came before it. -/
theorem setMultiplier_decided (ledger : Ledger) (multiplier : Fixed) :
    (setMultiplier multiplier ledger = .error .multiplierTooSmall ledger ↔ ledger.Vanishing multiplier) ∧
    (setMultiplier multiplier ledger = .error .overflow ledger ↔
      ¬ledger.Vanishing multiplier ∧ ledger.Exceeding multiplier) ∧
    (setMultiplier multiplier ledger = .ok () { ledger with multiplier } ↔
      ¬ledger.Vanishing multiplier ∧ ¬ledger.Exceeding multiplier) ∧
    (∀ after, setMultiplier multiplier ledger = .ok () after → ∀ virtualUnit, after.Stores virtualUnit →
      -2 ^ 127 ≤ virtualUnit.toInt * multiplier.toInt / 10 ^ 18 ∧
        virtualUnit.toInt * multiplier.toInt / 10 ^ 18 ≤ 2 ^ 127 - 1 ∧
        (virtualUnit ≠ Fixed.zero → virtualUnit.toInt * multiplier.toInt / 10 ^ 18 ≠ 0)) ∧
    (∀ earlier : List Fixed, (setMultiplier multiplier).outcome (finalAll setMultiplier earlier ledger) =
      (setMultiplier multiplier).outcome ledger) ∧
    ∀ multipliers : List Fixed, finalAll setMultiplier multipliers ledger =
      finalAll setMultiplier (multipliers.filter ledger.accepts).getLast?.toList ledger := by
  refine ⟨setMultiplier_vanishing_iff, setMultiplier_exceeding_iff, setMultiplier_fitting_iff, ?_, ?_, ?_⟩
  · intro after taken virtualUnit stores
    obtain ⟨passed, rfl⟩ := setMultiplier_eq_ok.mp taken
    obtain ⟨worth, fitting⟩ := setMultiplier_fitting_iff.mp taken
    exact product_of_fitting worth fitting (stores_rescaled.mp stores)
  · intro earlier
    rw [finalAll_setMultiplier, outcome_setMultiplier]
  · intro multipliers
    have last : ((multipliers.filter ledger.accepts).getLast?.toList.filter ledger.accepts).getLast? =
        (multipliers.filter ledger.accepts).getLast? := by
      cases found : (multipliers.filter ledger.accepts).getLast? with
      | none => rfl
      | some multiplier =>
        have taken := (List.mem_filter.mp (List.mem_of_getLast? found)).2
        rw [Option.toList_some, List.filter_cons_of_pos taken, List.filter_nil, List.getLast?_singleton]
    rw [finalAll_setMultiplier, finalAll_setMultiplier, last]

/-- A ledger that refuses a tenth for its smallest unit and the double for its largest. -/
theorem setMultiplier_decided_half :
    let dai : Address := ⟨"dai", by decide, by decide⟩
    let weth : Address := ⟨"weth", by decide, by decide⟩
    let ledger := (Edit.externalPosition dai weth (Fixed.ofInt 5) []).apply.final
      ((Edit.defaultPosition weth Fixed.greatest).apply.final Ledger.empty)
    let tenth := Fixed.ofInt 100_000_000_000_000_000
    let half := Fixed.ofInt 500_000_000_000_000_000
    let double := Fixed.ofInt 2_000_000_000_000_000_000
    ledger.Built ∧ setMultiplier tenth ledger = .error .multiplierTooSmall ledger ∧
      setMultiplier double ledger = .error .overflow ledger ∧
      finalAll setMultiplier [tenth, half, double, tenth] ledger = { ledger with multiplier := half } := by
  intro dai weth ledger tenth half double
  have built : ledger.Built := .edit (.edit .empty _) _
  have units : ledger.virtualUnits = [Fixed.greatest, Fixed.ofInt 5] := by decide +kernel
  have five : ledger.Stores (Fixed.ofInt 5) := by
    rw [← mem_virtualUnits, units]
    decide
  have greatest : ledger.Stores Fixed.greatest := by
    rw [← mem_virtualUnits, units]
    decide
  have vanishing : ledger.Vanishing tenth := Or.inr ⟨Fixed.ofInt 5, five, by decide, by decide⟩
  have worth : ¬ledger.Vanishing double := by
    rintro (nonpositive | ⟨virtualUnit, stores, positive, less⟩)
    · exact absurd nonpositive (by decide)
    · rw [← mem_virtualUnits, units, List.mem_pair] at stores
      rcases stores with rfl | rfl
      · exact absurd less (by decide)
      · exact absurd less (by decide)
  have exceeding : ledger.Exceeding double := ⟨Fixed.greatest, greatest, by decide⟩
  have last : ([tenth, half, double, tenth].filter ledger.accepts).getLast? = some half := by decide +kernel
  obtain ⟨_, _, _, _, _, sequence⟩ := setMultiplier_decided ledger half
  refine ⟨built, (setMultiplier_decided ledger tenth).1.mpr vanishing,
    (setMultiplier_decided ledger double).2.1.mpr ⟨worth, exceeding⟩, ?_⟩
  rw [sequence, last]
  decide +kernel

end Ledger

end IndexBasket
