import IndexBasket.Json.Decode
import IndexBasket.Number.Binary64

namespace IndexBasket

namespace Json

def exponentOf (text : List Char) : Int :=
  match text.drop 1 with
  | '-' :: digits => -(Nat.ofDigitChars 10 digits 0 : Int)
  | '+' :: digits => Nat.ofDigitChars 10 digits 0
  | digits => Nat.ofDigitChars 10 digits 0

/-- Adds digits to a significand and counts them. The first digit with which it
would no longer fit 64 bits ends this. -/
def gather (significand count : Nat) : List Char → Nat × Nat
  | [] => (significand, count)
  | c :: rest =>
    let next := 10 * significand + (c.toNat - 48)
    if next < UInt64.size then gather next (count + 1) rest else (significand, count)

/-- Whether a number literal has a finite value in 64 bits. The value is the
significand times a power of ten, both rounded beforehand, so that literals close
to the limit can be refused although they are below it. Whole digits that did not
fit still count as places, and the digits after the point take up where the whole
ones ended. -/
def isFinite (literal : String) : Bool :=
  let text := literal.toList.dropWhile (· == '-')
  let (whole, rest) := (text.takeWhile Char.isDigit, text.dropWhile Char.isDigit)
  let (fraction, rest) := match rest with
    | '.' :: places => (places.takeWhile Char.isDigit, places.dropWhile Char.isDigit)
    | other => ([], other)
  let (significand, placed) := gather 0 0 whole
  let (significand, places) := gather significand 0 fraction
  !Binary64.productExceeds significand (exponentOf rest + (whole.length - placed : Nat) - places)

mutual

/-- Whether a value can be kept to be read later: every text in it decodes,
every number is finite, and brackets nest no deeper than there is room. -/
def canHold : Nat → Json → Bool
  | _, null => true
  | _, bool _ => true
  | _, number literal => isFinite literal
  | _, string body => (unescape? body).isSome
  | 0, array _ => false
  | 0, object _ => false
  | room + 1, array items => canHoldItems room items
  | room + 1, object fields => canHoldFields room fields

def canHoldItems : Nat → List Json → Bool
  | _, [] => true
  | room, item :: rest => canHold room item && canHoldItems room rest

def canHoldFields : Nat → List (String × Json) → Bool
  | _, [] => true
  | room, (name, value) :: rest =>
    (unescape? name).isSome && canHold room value && canHoldFields room rest

end

end Json

end IndexBasket
