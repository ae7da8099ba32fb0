import IndexBasket.Json.Reader
import IndexBasket.Number.Digits
import IndexBasket.Number.Fixed

namespace IndexBasket

namespace Json

/-- A string body cut into characters and the 16-bit units that escapes name. -/
inductive Piece
  | char (c : Char)
  | unit (n : Nat)

def hexValue (c : Char) : Nat :=
  if c.isDigit then c.toNat - 48 else if 'a' ≤ c then c.toNat - 87 else c.toNat - 55

def pieces : List Char → List Piece
  | '\\' :: 'u' :: a :: b :: c :: d :: rest =>
    .unit (((hexValue a * 16 + hexValue b) * 16 + hexValue c) * 16 + hexValue d) :: pieces rest
  | '\\' :: c :: rest =>
    .char (if c = 'b' then '\x08' else if c = 'f' then '\x0c' else if c = 'n' then '\n'
      else if c = 'r' then '\r' else if c = 't' then '\t' else c) :: pieces rest
  | c :: rest => .char c :: pieces rest
  | [] => []

def isHighSurrogate (n : Nat) : Bool := 0xD800 ≤ n && n < 0xDC00

def isLowSurrogate (n : Nat) : Bool := 0xDC00 ≤ n && n < 0xE000

/-- Joins surrogate pairs. A surrogate without its partner is no character. -/
def joinPieces : List Piece → Option (List Char)
  | [] => some []
  | .char c :: rest => (joinPieces rest).map (c :: ·)
  | .unit high :: rest =>
    if isHighSurrogate high then
      match rest with
      | .unit low :: tail =>
        if isLowSurrogate low then
          (joinPieces tail).map (Char.ofNat (0x10000 + (high - 0xD800) * 0x400 + (low - 0xDC00)) :: ·)
        else none
      | _ => none
    else if isLowSurrogate high then none
    else (joinPieces rest).map (Char.ofNat high :: ·)

def unescape? (body : String) : Option String :=
  (joinPieces (pieces body.toList)).map String.ofList

def text? : Json → Option String
  | string body => unescape? body
  | _ => none

def bool? : Json → Option Bool
  | bool value => some value
  | _ => none

/-- An unsigned integer up to a largest value. A sign is refused even before zero. -/
def natural? (largest : Nat) : Json → Option Nat
  | number literal => (Digits.natural? literal.toList).filter (· ≤ largest)
  | _ => none

def amount? (value : Json) : Option Amount :=
  (value.natural? 0xFFFFFFFF_FFFFFFFF_FFFFFFFF_FFFFFFFF).bind Amount.ofNat?

/-- A signed integer; zero may carry a sign. -/
def fixed? : Json → Option Fixed
  | number literal =>
    match literal.toList with
    | '-' :: digits => (Digits.natural? digits).bind fun n => Fixed.ofInt? (-n)
    | digits => (Digits.natural? digits).bind fun n => Fixed.ofInt? n
  | _ => none

def byte? (value : Json) : Option UInt8 := (value.natural? 255).map UInt8.ofNat

def list? {α : Type} (decode : Json → Option α) : Json → Option (List α)
  | array items => items.mapM decode
  | _ => none

def option? {α : Type} (decode : Json → Option α) : Json → Option (Option α)
  | null => some none
  | value => (decode value).map some

def entries? : Json → Option (List (String × Json))
  | object fields => fields.mapM fun (name, value) => (unescape? name).map (·, value)
  | _ => none

/-- The one value under a name, if there is one. A name that occurs twice is an error. -/
def lookupOnce (entries : List (String × Json)) (name : String) : Option (Option Json) :=
  match entries.filter (·.1 == name) with
  | [] => some none
  | [(_, value)] => some (some value)
  | _ => none

/-- The fields of a record in the order of the given names. A record is an
object, in which other names are ignored, or the array of its fields from the
first one on. -/
def fields? (names : List String) : Json → Option (List (Option Json))
  | array items =>
    if items.length ≤ names.length then
      some (items.map some ++ List.replicate (names.length - items.length) none)
    else none
  | value => value.entries?.bind fun entries => names.mapM (lookupOnce entries)

def isArray : Json → Bool
  | array _ => true
  | _ => false

def required {α : Type} (decode : Json → Option α) (field : Option Json) : Option α :=
  field.bind decode

def defaulted {α : Type} (absent : α) (decode : Json → Option α) : Option Json → Option α
  | none => some absent
  | some value => decode value

end Json

end IndexBasket
