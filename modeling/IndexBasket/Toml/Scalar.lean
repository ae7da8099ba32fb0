import IndexBasket.Number.Binary64
import IndexBasket.Toml.Basic
import IndexBasket.Toml.Text

namespace IndexBasket

namespace Toml

/-- Digits after the first one. A single underline may stand between two digits. -/
def moreDigits (isDigit : Char → Bool) : List Char → List Char × List Char
  | '_' :: c :: rest =>
    if isDigit c then
      let (digits, left) := moreDigits isDigit rest
      (c :: digits, left)
    else ([], '_' :: c :: rest)
  | c :: rest =>
    if isDigit c then
      let (digits, left) := moreDigits isDigit rest
      (c :: digits, left)
    else ([], c :: rest)
  | [] => ([], [])

def scanDigits (isDigit : Char → Bool) : List Char → Option (List Char × List Char)
  | c :: rest =>
    if isDigit c then
      let (digits, left) := moreDigits isDigit rest
      some (c :: digits, left)
    else none
  | [] => none

/-- Reads decimal digits without a zero in front of another digit. -/
def scanWhole : List Char → Option (List Char × List Char)
  | '0' :: rest => some (['0'], rest)
  | text => scanDigits Char.isDigit text

def scanSign : List Char → Bool × List Char
  | '-' :: rest => (true, rest)
  | '+' :: rest => (false, rest)
  | text => (false, text)

def signed (negative : Bool) (magnitude : Nat) : Int :=
  if negative then -magnitude else magnitude

def radixDigit (radix : Nat) (c : Char) : Bool :=
  (hexValue? c).any (· < radix)

/-- Integers have 64 bits. -/
def inRange (i : Int) : Option Int :=
  if -0x80000000_00000000 ≤ i ∧ i < 0x80000000_00000000 then some i else none

def scanRadix (radix : Nat) (text : List Char) : Option (Int × List Char) := do
  let (digits, rest) ← scanDigits (radixDigit radix) text
  let values ← digits.mapM hexValue?
  return (← inRange (values.foldl (radix * · + ·) 0 : Nat), rest)

def scanInteger : List Char → Option (Int × List Char)
  | '0' :: 'x' :: rest => scanRadix 16 rest
  | '0' :: 'o' :: rest => scanRadix 8 rest
  | '0' :: 'b' :: rest => scanRadix 2 rest
  | text => do
    let (negative, text) := scanSign text
    let (digits, rest) ← scanWhole text
    return (← inRange (signed negative (Nat.ofDigitChars 10 digits 0)), rest)

def scanPlaces : List Char → Option (List Char × List Char)
  | '.' :: rest => scanDigits Char.isDigit rest
  | _ => none

def scanExponent : List Char → Option (Int × List Char)
  | c :: rest =>
    if c = 'e' ∨ c = 'E' then do
      let (negative, text) := scanSign rest
      let (digits, left) ← scanDigits Char.isDigit text
      return (signed negative (Nat.ofDigitChars 10 digits 0), left)
    else none
  | [] => none

/-- Reads a number with places, an exponent or both. A positive one has to be
finite after rounding; a negative one need not. -/
def scanDecimal (text : List Char) : Option (List Char) := do
  let (negative, text) := scanSign text
  let (whole, text) ← scanWhole text
  let places := scanPlaces text
  let (fraction, text) := places.getD ([], text)
  let exponent := scanExponent text
  if places.isNone && exponent.isNone then none
  let (power, rest) := exponent.getD (0, text)
  if !negative && Binary64.exceeds (Nat.ofDigitChars 10 (whole ++ fraction) 0) (power - fraction.length) then
    none
  return rest

def scanSpecial (text : List Char) : Option (List Char) :=
  match (scanSign text).2 with
  | 'i' :: 'n' :: 'f' :: rest => some rest
  | 'n' :: 'a' :: 'n' :: rest => some rest
  | _ => none

def scanFloat (text : List Char) : Option (List Char) :=
  (scanDecimal text).or (scanSpecial text)

/-- Reads a number of a fixed count of digits within bounds. -/
def scanField (count least most : Nat) (text : List Char) : Option (Nat × List Char) :=
  let digits := text.take count
  let value := Nat.ofDigitChars 10 digits 0
  if digits.length = count ∧ digits.all Char.isDigit ∧ least ≤ value ∧ value ≤ most then
    some (value, text.drop count)
  else none

def skipChar (c : Char) : List Char → Option (List Char)
  | first :: rest => if first = c then some rest else none
  | [] => none

def isLeapYear (year : Nat) : Bool :=
  year % 4 = 0 && (year % 100 ≠ 0 || year % 400 = 0)

def daysInMonth (year month : Nat) : Nat :=
  if month = 2 then if isLeapYear year then 29 else 28
  else if [4, 6, 9, 11].contains month then 30
  else 31

def scanDate (text : List Char) : Option (List Char) := do
  let (year, text) ← scanField 4 0 9999 text
  let (month, text) ← scanField 2 1 12 (← skipChar '-' text)
  let (_, text) ← scanField 2 1 (daysInMonth year month) (← skipChar '-' text)
  return text

def scanTime (text : List Char) : Option (List Char) := do
  let (_, text) ← scanField 2 0 23 text
  let (_, text) ← scanField 2 0 59 (← skipChar ':' text)
  let (_, text) ← scanField 2 0 60 (← skipChar ':' text)
  match text with
  | '.' :: c :: rest => return if c.isDigit then rest.dropWhile Char.isDigit else text
  | _ => return text

/-- Reads the distance from universal time. -/
def scanOffset : List Char → Option (List Char)
  | c :: rest =>
    if c = 'Z' ∨ c = 'z' then some rest
    else if c = '+' ∨ c = '-' then do
      let (_, text) ← scanField 2 0 23 rest
      let (_, text) ← scanField 2 0 59 (← skipChar ':' text)
      return text
    else none
  | [] => none

/-- Reads a date, a time, or both with a letter or a blank between them. An
offset may follow both. -/
def scanMoment (text : List Char) : Option (List Char) :=
  match scanDate text with
  | none => scanTime text
  | some rest =>
    match rest with
    | c :: time =>
      if c = 'T' ∨ c = 't' ∨ c = ' ' then
        some (((scanTime time).map fun left => (scanOffset left).getD left).getD rest)
      else some rest
    | [] => some rest

/-- Reads a value that starts with a sign, a digit or a letter. -/
def scanScalar : List Char → Option (Toml × List Char)
  | 't' :: 'r' :: 'u' :: 'e' :: rest => some (bool true, rest)
  | 'f' :: 'a' :: 'l' :: 's' :: 'e' :: rest => some (bool false, rest)
  | text =>
    ((scanMoment text).map (moment, ·)).or <| ((scanFloat text).map (float, ·)).or <|
      (scanInteger text).map fun (i, rest) => (integer i, rest)

end Toml

end IndexBasket
