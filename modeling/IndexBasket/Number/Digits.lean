namespace IndexBasket

namespace Digits

/-- The number that a text of decimal digits denotes. Zeros may lead. -/
def natural? (text : List Char) : Option Nat :=
  if text ≠ [] ∧ text.all Char.isDigit then some (Nat.ofDigitChars 10 text 0) else none

/-- A number below a limit, in digits after an optional plus sign. -/
def below? (limit : Nat) (text : List Char) : Option Nat :=
  let number? := match text with
    | '+' :: digits => natural? digits
    | digits => natural? digits
  number?.filter (· < limit)

end Digits

end IndexBasket
