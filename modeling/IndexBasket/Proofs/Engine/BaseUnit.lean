import IndexBasket.Proofs.Engine.WithinRounding

namespace IndexBasket

namespace Engine

section BaseUnit

variable {supply unit target held : Nat}

/-- No more is held than what a target asks for, rounded up, exactly where one base unit
less than what is held would be worth less than the target. -/
theorem le_ceil_iff_perToken_lt (positive : 0 < supply) :
    held ≤ (target * supply + (10 ^ 18 - 1)) / 10 ^ 18 ↔ held = 0 ∨ perToken supply (held - 1) < target := by
  rw [perToken, Nat.div_lt_iff_lt_mul positive]
  omega

/-- One base unit more lands above a target only from what the target asks for, rounded down. -/
theorem floor_eq_of_perToken_gt (below : unit < target)
    (above : target < perToken supply (unit * supply / 10 ^ 18 + 1)) :
    unit * supply / 10 ^ 18 = target * supply / 10 ^ 18 := by
  have less : unit * supply ≤ target * supply := Nat.mul_le_mul_right _ below.le
  by_contra apart
  have within := perToken_mono supply (show unit * supply / 10 ^ 18 + 1 ≤ target * supply / 10 ^ 18 by omega)
  have down := perToken_floor_le supply target
  omega

/-- Rounded up, the target of a larger unit asks for one base unit more than it does rounded down. -/
theorem ceil_eq_of_floor_eq (positive : 0 < supply) (below : unit < target)
    (same : unit * supply / 10 ^ 18 = target * supply / 10 ^ 18) :
    (target * supply + (10 ^ 18 - 1)) / 10 ^ 18 = unit * supply / 10 ^ 18 + 1 := by
  have less : unit * supply < target * supply := Nat.mul_lt_mul_of_pos_right below positive
  omega

end BaseUnit

variable {engine : Engine} {component : Address} {target : Fixed}

/-- A unit that no trade of a single base unit brings nearer to its target. It is at the
target; or it is above, and there is nothing to sell or a base unit less would be worth
less than the target; or it is below, and a base unit more would be farther above the
target than the unit is below it. -/
def Unimprovable (supply : Nat) (unit target : Int) : Prop :=
  let held := unit.toNat * supply / 10 ^ 18
  unit = target ∨
    target < unit ∧ (held = 0 ∨ perToken supply (held - 1) < target) ∨
    unit < target ∧ target - unit < perToken supply (held + 1) - target

theorem unimprovable_iff {supply : Nat} {unit target : Int} (positive : 0 < supply) (held : 0 ≤ unit)
    (aimed : 0 ≤ target) :
    Unimprovable supply unit target ↔ unit = target ∨ WithinRounding supply unit target := by
  obtain ⟨unit, rfl⟩ := Int.eq_ofNat_of_zero_le held
  obtain ⟨target, rfl⟩ := Int.eq_ofNat_of_zero_le aimed
  simp only [Unimprovable, WithinRounding, Int.toNat_natCast, Int.ofNat_lt]
  refine or_congr_right (or_congr (and_congr_right fun _ => ?_) (and_congr_right fun below => ?_))
  · exact (le_ceil_iff_perToken_lt positive).symm
  · rw [or_iff_right (by omega)]
    constructor
    · intro farther
      have same := floor_eq_of_perToken_gt below (show target < perToken supply _ by omega)
      exact ⟨same, by rwa [ceil_eq_of_floor_eq positive below same]⟩
    · rintro ⟨same, farther⟩
      rwa [ceil_eq_of_floor_eq positive below same] at farther

/-- A component is reported as met exactly where no trade of a single base unit would
bring its unit nearer to the target, however the supply divides. From any other unit a
trade is sized. -/
theorem tradeSize_met_iff_unimprovable (supplied : Amount.zero < engine.basket.totalSupply)
    (held : Fixed.zero ≤ engine.defaultRealUnit component)
    (scaled : engine.targetUnit component = .ok target) (aimed : Fixed.zero ≤ target)
    (fits : engine.tradeSize component ≠ .error (.ledger .overflow)) :
    (engine.tradeSize component = .error .targetAlreadyMet ↔
      Unimprovable engine.basket.totalSupply.toNat (engine.defaultRealUnit component).toInt target.toInt) ∧
    ((∃ direction quantity, engine.tradeSize component = .ok (direction, quantity)) ↔
      ¬Unimprovable engine.basket.totalSupply.toNat (engine.defaultRealUnit component).toInt target.toInt) := by
  rw [unimprovable_iff supplied held aimed, ← Fixed.ext_iff, ← tradeSize_met_iff supplied scaled fits]
  refine ⟨Iff.rfl, ?_⟩
  cases sized : engine.tradeSize component with
  | ok order => exact iff_of_true ⟨order.1, order.2, rfl⟩ nofun
  | error failure =>
    obtain rfl | ⟨rfl, _⟩ := tradeSize_eq_error supplied scaled sized
    · exact absurd sized fits
    · exact iff_of_false nofun fun unmet => unmet rfl

/-- The market at a given supply, with a given unit of dai and a target for it. -/
def Market.scarce (supply : Amount) (unit target : Fixed) : Engine :=
  let engine := Market.engine Fixed.one target Amount.one
  let basket := ((Basket.Edit.setTotalSupply supply).apply Market.registry).final engine.basket
  { engine with
    basket := ((Basket.Edit.ledger (.defaultPosition Market.dai unit)).apply Market.registry).final basket }

/-- With a tenth of a token, one base unit is worth ten units: from one it lands farther
from five. With three tenths it is worth three, and from four it lands as near. -/
theorem tradeSize_met_iff_unimprovable_scarce :
    let tenth := Market.scarce (Amount.ofNat 100_000_000_000_000_000) (Fixed.ofInt 1) (Fixed.ofInt 5)
    let fraction := Market.scarce (Amount.ofNat 300_000_000_000_000_000) (Fixed.ofInt 4) (Fixed.ofInt 5)
    tenth.targetUnit Market.dai = .ok (Fixed.ofInt 5) ∧ tenth.tradeSize Market.dai = .error .targetAlreadyMet ∧
      fraction.targetUnit Market.dai = .ok (Fixed.ofInt 5) ∧
      ∃ direction quantity, fraction.tradeSize Market.dai = .ok (direction, quantity) := by
  intro tenth fraction
  have scaled : tenth.targetUnit Market.dai = .ok (Fixed.ofInt 5) := by decide +kernel
  have unit : tenth.defaultRealUnit Market.dai = Fixed.ofInt 1 := by decide +kernel
  have supply : tenth.basket.totalSupply = Amount.ofNat 100_000_000_000_000_000 := by decide +kernel
  have scaled' : fraction.targetUnit Market.dai = .ok (Fixed.ofInt 5) := by decide +kernel
  have unit' : fraction.defaultRealUnit Market.dai = Fixed.ofInt 4 := by decide +kernel
  have supply' : fraction.basket.totalSupply = Amount.ofNat 300_000_000_000_000_000 := by decide +kernel
  have met := (tradeSize_met_iff_unimprovable (by rw [supply]; decide) (by rw [unit]; decide) scaled (by decide)
    (by decide +kernel)).1
  have traded := (tradeSize_met_iff_unimprovable (by rw [supply']; decide) (by rw [unit']; decide) scaled' (by decide)
    (by decide +kernel)).2
  rw [supply, unit] at met
  rw [supply', unit'] at traded
  refine ⟨scaled, met.mpr (Or.inr (Or.inr (by decide))), scaled', traded.mpr ?_⟩
  rintro (same | ⟨above, _⟩ | ⟨_, farther⟩)
  · exact absurd same (by decide)
  · exact absurd above (by decide)
  · exact absurd farther (by decide)

end Engine

end IndexBasket
