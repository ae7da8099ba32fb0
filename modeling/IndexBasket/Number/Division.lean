import IndexBasket.Number.Amount

namespace IndexBasket

namespace Amount

/-- Both words of a product, the high one first. The factors are cut into halves
of 64 bits, and every sum and product of halves is taken as a register of 128
bits takes it. -/
def wideMul (a b : Amount) : Amount × Amount :=
  let half := 0x1_00000000_00000000
  let ll := wrap (a.toNat % half * (b.toNat % half))
  let lh := wrap (a.toNat % half * (b.toNat / half))
  let hl := wrap (a.toNat / half * (b.toNat % half))
  let hh := wrap (a.toNat / half * (b.toNat / half))
  let middle := wrap (ll.toNat / half + lh.toNat % half + hl.toNat % half)
  let low := wrap (ll.toNat % half + (wrap (middle.toNat * half)).toNat)
  let high := wrap (hh.toNat + lh.toNat / half + hl.toNat / half + middle.toNat / half)
  (high, low)

/-- Restoring long division. With `bits` bits of the low word still to be
brought down, the remainder is doubled, takes the next bit, and gives the
divisor back whenever it can. The bit shifted out of the remainder counts as a
success too: the remainder then exceeds every divisor. -/
def longDivision (low divisor : Amount) : Nat → Amount → Amount → Amount × Amount
  | 0, remainder, quotient => (quotient, remainder)
  | bits + 1, remainder, quotient =>
    let carry := remainder.toNat >>> 127
    let shifted := (wrap (2 * remainder.toNat)).toNat + (low.toNat >>> bits) % 2
    let doubled := (wrap (2 * quotient.toNat)).toNat
    if carry = 1 ∨ divisor.toNat ≤ shifted then
      longDivision low divisor bits
        (wrap (shifted + (0x1_00000000_00000000_00000000_00000000 - divisor.toNat))) (wrap (doubled + 1))
    else
      longDivision low divisor bits (wrap shifted) (wrap doubled)

/-- Quotient and remainder of a double word, where the quotient fits one word. -/
def wideDivMod (high low divisor : Amount) : Option (Amount × Amount) :=
  if divisor = zero ∨ divisor ≤ high then none
  else if high = zero then some (wrap (low.toNat / divisor.toNat), wrap (low.toNat % divisor.toNat))
  else some (longDivision low divisor 128 high zero)

/-- The product `a * b` divided by `d`, with its remainder. -/
def mulDivMod (a b d : Amount) : Option (Amount × Amount) :=
  wideDivMod (a.wideMul b).1 (a.wideMul b).2 d

def mulDivFloor (a b d : Amount) : Option Amount :=
  (a.mulDivMod b d).map Prod.fst

def mulDivCeil (a b d : Amount) : Option Amount :=
  (a.mulDivMod b d).bind fun (quotient, remainder) =>
    if remainder = zero then some quotient else quotient.add? baseUnit

/-- The product of two 18-decimal quantities, rounded down. -/
def preciseMul (a b : Amount) : Option Amount := a.mulDivFloor b one

def preciseMulCeil (a b : Amount) : Option Amount := a.mulDivCeil b one

/-- The quotient of two 18-decimal quantities, rounded down. -/
def preciseDiv (a b : Amount) : Option Amount := a.mulDivFloor one b

end Amount

end IndexBasket
