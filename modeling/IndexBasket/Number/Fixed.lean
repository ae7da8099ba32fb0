import IndexBasket.Number.Division

namespace IndexBasket

/-- A signed quantity of 128 bits with 18 decimals: position units, targets and
multipliers. -/
@[ext]
structure Fixed where
  toInt : Int
  ge_min : -0x80000000_00000000_00000000_00000000 ≤ toInt
  le_max : toInt ≤ 0x7FFFFFFF_FFFFFFFF_FFFFFFFF_FFFFFFFF
deriving DecidableEq

namespace Fixed

/-- A quantity written down in the program itself. -/
def ofInt (i : Int) (least : -0x80000000_00000000_00000000_00000000 ≤ i := by decide)
    (most : i ≤ 0x7FFFFFFF_FFFFFFFF_FFFFFFFF_FFFFFFFF := by decide) : Fixed :=
  ⟨i, least, most⟩

def ofInt? (i : Int) : Option Fixed :=
  if fits : -0x80000000_00000000_00000000_00000000 ≤ i ∧ i ≤ 0x7FFFFFFF_FFFFFFFF_FFFFFFFF_FFFFFFFF then
    some ⟨i, fits.1, fits.2⟩
  else none

/-- The nearest quantity: a number beyond the range becomes the end it passed. -/
def clamp (i : Int) : Fixed :=
  ⟨max (-0x80000000_00000000_00000000_00000000) (min i 0x7FFFFFFF_FFFFFFFF_FFFFFFFF_FFFFFFFF), by omega, by omega⟩

def zero : Fixed := ofInt 0

instance : Inhabited Fixed := ⟨zero⟩

def one : Fixed := ofInt 1_000_000_000_000_000_000

def least : Fixed := ofInt (-0x80000000_00000000_00000000_00000000)

def greatest : Fixed := ofInt 0x7FFFFFFF_FFFFFFFF_FFFFFFFF_FFFFFFFF

instance : LE Fixed := ⟨fun a b => a.toInt ≤ b.toInt⟩

instance : LT Fixed := ⟨fun a b => a.toInt < b.toInt⟩

instance (a b : Fixed) : Decidable (a ≤ b) := inferInstanceAs (Decidable (a.toInt ≤ b.toInt))

instance (a b : Fixed) : Decidable (a < b) := inferInstanceAs (Decidable (a.toInt < b.toInt))

theorem le_def {a b : Fixed} : a ≤ b ↔ a.toInt ≤ b.toInt := Iff.rfl

theorem lt_def {a b : Fixed} : a < b ↔ a.toInt < b.toInt := Iff.rfl

/-- The distance from zero, which always fits although `-least` does not. -/
def magnitude (a : Fixed) : Amount :=
  ⟨a.toInt.natAbs, by have := a.ge_min; have := a.le_max; omega⟩

/-- A quantity that is not negative, as an amount. -/
def toAmount? (a : Fixed) : Option Amount :=
  if a.toInt < 0 then none else some a.magnitude

def add? (a b : Fixed) : Option Fixed := ofInt? (a.toInt + b.toInt)

/-- The sum, kept at the end of the range that it would pass. -/
def addClamped (a b : Fixed) : Fixed := clamp (a.toInt + b.toInt)

/-- The difference, kept at the end of the range that it would pass. -/
def subClamped (a b : Fixed) : Fixed := clamp (a.toInt - b.toInt)

/-- The quotient `a * b / d` rounded toward negative infinity. Magnitudes are
divided, and a quotient that is going to be negative takes its remainder upward
first. -/
def mulDivFloor (a b d : Fixed) : Option Fixed :=
  (a.magnitude.mulDivMod b.magnitude d.magnitude).bind fun (quotient, remainder) =>
    if ((decide (a.toInt < 0)).xor (decide (b.toInt < 0))).xor (decide (d.toInt < 0)) then
      (if remainder = Amount.zero then some quotient else quotient.add? Amount.baseUnit).bind fun size =>
        ofInt? (-size.toNat)
    else ofInt? quotient.toNat

/-- The product of two 18-decimal quantities, rounded down. -/
def preciseMul (a b : Fixed) : Option Fixed := a.mulDivFloor b one

/-- The quotient of two 18-decimal quantities, rounded down. -/
def preciseDiv (a b : Fixed) : Option Fixed := a.mulDivFloor one b

/-- What a supply holds at a unit per token, rounded down. A unit that is not
positive holds nothing. -/
def notionalFloor (unit : Fixed) (supply : Amount) : Option Amount :=
  if unit ≤ zero then some Amount.zero else unit.magnitude.preciseMul supply

def notionalCeil (unit : Fixed) (supply : Amount) : Option Amount :=
  if unit ≤ zero then some Amount.zero else unit.magnitude.preciseMulCeil supply

end Fixed

/-- An amount as a signed quantity, which half of the amounts are too large for. -/
def Amount.toFixed? (a : Amount) : Option Fixed := Fixed.ofInt? a.toNat

end IndexBasket
