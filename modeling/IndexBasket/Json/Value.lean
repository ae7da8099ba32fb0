namespace IndexBasket

/-- A JSON value. Numbers and strings keep the text they are written in, so
that what a reader skips is never interpreted: digits beyond every machine
word and halves of a surrogate pair are errors only where they are read. -/
inductive Json where
  | null
  | bool (value : Bool)
  | number (literal : String)
  | string (body : String)
  | array (items : List Json)
  | object (fields : List (String × Json))

namespace Json

instance : Inhabited Json := ⟨null⟩

def hexDigit (n : Nat) : Char :=
  if n < 10 then Char.ofNat (48 + n) else Char.ofNat (87 + n)

/-- A character inside quotes. Quotes, backslashes and control characters are
escaped, all others stand for themselves. -/
def escapeChar (c : Char) : List Char :=
  if c = '"' then ['\\', '"']
  else if c = '\\' then ['\\', '\\']
  else if c = '\x08' then ['\\', 'b']
  else if c = '\x0c' then ['\\', 'f']
  else if c = '\n' then ['\\', 'n']
  else if c = '\r' then ['\\', 'r']
  else if c = '\t' then ['\\', 't']
  else if c.toNat < 32 then ['\\', 'u', '0', '0', hexDigit (c.toNat / 16), hexDigit (c.toNat % 16)]
  else [c]

def escape (text : String) : String :=
  String.ofList (text.toList.flatMap escapeChar)

def ofText (text : String) : Json := string (escape text)

def ofNat (n : Nat) : Json := number (String.ofList (Nat.toDigits 10 n))

def ofInt (i : Int) : Json :=
  if i < 0 then number (String.ofList ('-' :: Nat.toDigits 10 i.natAbs)) else ofNat i.natAbs

def record (fields : List (String × Json)) : Json :=
  object (fields.map fun (name, value) => (escape name, value))

/-- Puts a field in front of the first whose name comes after its own. -/
def insertField (field : String × Json) : List (String × Json) → List (String × Json)
  | [] => [field]
  | next :: rest => if field.1 < next.1 then field :: next :: rest else next :: insertField field rest

/-- Fields in the order of their names. -/
def orderedFields (fields : List (String × Json)) : List (String × Json) := fields.foldr insertField []

def quoted (body : String) : List Char := '"' :: body.toList ++ ['"']

mutual

def chars : Json → List Char
  | null => ['n', 'u', 'l', 'l']
  | bool true => ['t', 'r', 'u', 'e']
  | bool false => ['f', 'a', 'l', 's', 'e']
  | number literal => literal.toList
  | string body => quoted body
  | array items => '[' :: itemChars items ++ [']']
  | object fields => '\x7b' :: fieldChars fields ++ ['\x7d']

def itemChars : List Json → List Char
  | [] => []
  | [item] => chars item
  | item :: rest => chars item ++ ',' :: itemChars rest

def fieldChars : List (String × Json) → List Char
  | [] => []
  | [(name, value)] => quoted name ++ ':' :: chars value
  | (name, value) :: rest => quoted name ++ ':' :: chars value ++ ',' :: fieldChars rest

end

def render (value : Json) : String := String.ofList (chars value)

end Json

end IndexBasket
