import IndexBasket.Number.Fixed
import IndexBasket.Text.Blank

namespace IndexBasket

namespace Decimal

def splitPoint (text : List Char) : List Char × List Char :=
  (text.takeWhile (· != '.'), (text.dropWhile (· != '.')).drop 1)

/-- The base units of a whole with so many places, if 128 bits hold them. -/
def scale? (places : Nat) : Option Amount := Amount.ofNat? (Nat.pow 10 places)

/-- The number of base units that unsigned decimal text denotes. Digits too many
after the point are refused, not rounded away. -/
def magnitude? (places : Nat) (text : List Char) : Option Nat :=
  let (whole, fraction) := splitPoint text
  if whole = [] ∧ fraction = [] then none
  else if places < fraction.length then none
  else if whole.all Char.isDigit && fraction.all Char.isDigit then
    some (Nat.ofDigitChars 10 whole 0 * Nat.pow 10 places +
      Nat.ofDigitChars 10 fraction 0 * Nat.pow 10 (places - fraction.length))
  else none

/-- The digits of a number of base units: a point only if fractional digits
follow, and no zero at the end of those. -/
def digits (places : Nat) (scale magnitude : Amount) : List Char :=
  let whole := Nat.toDigits 10 (magnitude.toNat / scale.toNat)
  let rest := magnitude.toNat % scale.toNat
  if rest = 0 then whole
  else whole ++ '.' :: dropEndWhile (· == '0') ((Nat.toDigits 10 rest).leftpad places '0')

end Decimal

namespace Fixed

/-- Reads decimal text with at most so many places. The magnitude has to fit on
the positive side whatever the sign, so the least quantity has no text. -/
def parse? (places : Nat) (text : String) : Option Fixed :=
  if 38 < places then none
  else match trimBlank text.toList with
    | '-' :: digits => (Decimal.magnitude? places digits).bind fun size =>
        (ofInt? size).bind fun positive => ofInt? (-positive.toInt)
    | digits => (Decimal.magnitude? places digits).bind fun size => ofInt? size

/-- Writes a quantity, given the base units of a whole. -/
def format (places : Nat) (scale : Amount) (a : Fixed) : String :=
  String.ofList (if a.toInt < 0 then '-' :: Decimal.digits places scale a.magnitude
    else Decimal.digits places scale a.magnitude)

/-- Writes a quantity with at most so many places. There is no text where the base units
of a whole are too many. -/
def format? (places : Nat) (a : Fixed) : Option String :=
  (Decimal.scale? places).map fun scale => a.format places scale

def text (a : Fixed) : String := a.format 18 Amount.one

end Fixed

/-- The text of an unsigned 18-decimal quantity. One that has no signed form is
written as the bare integer. -/
def Amount.text (a : Amount) : String :=
  match a.toFixed? with
  | some signed => signed.text
  | none => toString a.toNat

end IndexBasket
