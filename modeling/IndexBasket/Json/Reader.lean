import IndexBasket.Json.Value

namespace IndexBasket

namespace Json

def isGap (c : Char) : Bool := c == ' ' || c == '\n' || c == '\t' || c == '\r'

def isHexDigit (c : Char) : Bool :=
  c.isDigit || ('a' ≤ c && c ≤ 'f') || ('A' ≤ c && c ≤ 'F')

/-- Splits the text after an opening quote at the quote that closes it. Escapes
have to be well formed, but the units they name are not looked at. -/
def scanString : List Char → Option (List Char × List Char)
  | [] => none
  | '"' :: rest => some ([], rest)
  | '\\' :: 'u' :: a :: b :: c :: d :: rest =>
    if isHexDigit a && isHexDigit b && isHexDigit c && isHexDigit d then
      (scanString rest).map fun (body, left) => ('\\' :: 'u' :: a :: b :: c :: d :: body, left)
    else none
  | '\\' :: c :: rest =>
    if ['"', '\\', '/', 'b', 'f', 'n', 'r', 't'].contains c then
      (scanString rest).map fun (body, left) => ('\\' :: c :: body, left)
    else none
  | c :: rest =>
    if c.toNat < 32 || c == '\\' then none
    else (scanString rest).map fun (body, left) => (c :: body, left)

def scanDigits (text : List Char) : Option (List Char × List Char) :=
  match text.takeWhile Char.isDigit with
  | [] => none
  | digits => some (digits, text.dropWhile Char.isDigit)

/-- The whole part of a number: no zero in front of another digit. -/
def scanWhole : List Char → Option (List Char × List Char)
  | '0' :: rest => some (['0'], rest)
  | text => scanDigits text

def scanFraction : List Char → Option (List Char × List Char)
  | '.' :: rest => (scanDigits rest).map fun (digits, left) => ('.' :: digits, left)
  | text => some ([], text)

def scanExponent : List Char → Option (List Char × List Char)
  | c :: rest =>
    if c == 'e' || c == 'E' then
      match rest with
      | '+' :: tail => (scanDigits tail).map fun (digits, left) => (c :: '+' :: digits, left)
      | '-' :: tail => (scanDigits tail).map fun (digits, left) => (c :: '-' :: digits, left)
      | tail => (scanDigits tail).map fun (digits, left) => (c :: digits, left)
    else some ([], c :: rest)
  | [] => some ([], [])

def scanNumber (text : List Char) : Option (List Char × List Char) := do
  let (sign, text) := match text with
    | '-' :: rest => (['-'], rest)
    | other => ([], other)
  let (whole, text) ← scanWhole text
  let (fraction, text) ← scanFraction text
  let (exponent, text) ← scanExponent text
  some (sign ++ whole ++ fraction ++ exponent, text)

mutual

/-- Reads one value and returns what follows it. The first argument bounds the
number of nested reads, and the length of the text is always enough. -/
def scanValue : Nat → List Char → Option (Json × List Char)
  | 0, _ => none
  | fuel + 1, text =>
    match text.dropWhile isGap with
    | 'n' :: 'u' :: 'l' :: 'l' :: rest => some (null, rest)
    | 't' :: 'r' :: 'u' :: 'e' :: rest => some (bool true, rest)
    | 'f' :: 'a' :: 'l' :: 's' :: 'e' :: rest => some (bool false, rest)
    | '"' :: rest => (scanString rest).map fun (body, left) => (string (String.ofList body), left)
    | '[' :: rest =>
      match rest.dropWhile isGap with
      | ']' :: left => some (array [], left)
      | inner => (scanItems fuel inner).map fun (items, left) => (array items, left)
    | '\x7b' :: rest =>
      match rest.dropWhile isGap with
      | '\x7d' :: left => some (object [], left)
      | inner => (scanFields fuel inner).map fun (fields, left) => (object fields, left)
    | other => (scanNumber other).map fun (literal, left) => (number (String.ofList literal), left)

def scanItems : Nat → List Char → Option (List Json × List Char)
  | 0, _ => none
  | fuel + 1, text =>
    (scanValue fuel text).bind fun (item, left) =>
      match left.dropWhile isGap with
      | ']' :: rest => some ([item], rest)
      | ',' :: rest => (scanItems fuel rest).map fun (items, end_) => (item :: items, end_)
      | _ => none

def scanFields : Nat → List Char → Option (List (String × Json) × List Char)
  | 0, _ => none
  | fuel + 1, text =>
    match text.dropWhile isGap with
    | '"' :: rest => (scanString rest).bind fun (name, left) =>
      match left.dropWhile isGap with
      | ':' :: inner => (scanValue fuel inner).bind fun (value, left) =>
        match left.dropWhile isGap with
        | '\x7d' :: rest => some ([(String.ofList name, value)], rest)
        | ',' :: rest =>
          (scanFields fuel rest).map fun (fields, end_) => ((String.ofList name, value) :: fields, end_)
        | _ => none
      | _ => none
    | _ => none

end

def parse? (text : String) : Option Json :=
  (scanValue (text.toList.length + 1) text.toList).bind fun (value, rest) =>
    if rest.all isGap then some value else none

end Json

end IndexBasket
