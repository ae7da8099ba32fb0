namespace IndexBasket

namespace Toml

def isBlank (c : Char) : Bool := c == ' ' || c == '\t'

/-- Characters of a line: no control character but the tab. -/
def isPrintable (c : Char) : Bool := c == '\t' || (32 ≤ c.toNat && c.toNat ≠ 127)

def skipBlanks (text : List Char) : List Char := text.dropWhile isBlank

/-- The text after a line break, if it starts with one. -/
def afterBreak? : List Char → Option (List Char)
  | '\n' :: rest => some rest
  | '\r' :: '\n' :: rest => some rest
  | _ => none

/-- Skips blanks, line breaks and comments. A comment ends with its line. -/
def skipGaps (inComment : Bool) : List Char → List Char
  | [] => []
  | '\n' :: rest => skipGaps false rest
  | '\r' :: '\n' :: rest => skipGaps false rest
  | c :: rest =>
    if inComment then if isPrintable c then skipGaps true rest else c :: rest
    else if c = '#' then skipGaps true rest
    else if isBlank c then skipGaps false rest
    else c :: rest

/-- Skips the rest of a line on which only a comment may follow. -/
def endLine? (text : List Char) : Option (List Char) :=
  let rest := match skipBlanks text with
    | '#' :: comment => comment.dropWhile isPrintable
    | other => other
  if rest.isEmpty then some [] else afterBreak? rest

def hexValue? (c : Char) : Option Nat :=
  if c.isDigit then some (c.toNat - 48)
  else if 'a' ≤ c ∧ c ≤ 'f' then some (c.toNat - 87)
  else if 'A' ≤ c ∧ c ≤ 'F' then some (c.toNat - 55)
  else none

/-- The character with a code point in hexadecimal digits. -/
def charOfHex? (digits : List Char) : Option Char := do
  let values ← digits.mapM hexValue?
  let code := values.foldl (16 * · + ·) 0
  if code.isValidChar then some (Char.ofNat code) else none

/-- The character that a letter after a backslash stands for. -/
def escaped? (c : Char) : Option Char :=
  [('b', '\x08'), ('t', '\t'), ('n', '\n'), ('f', '\x0c'), ('r', '\r'), ('"', '"'), ('\\', '\\')].lookup c

def prepend (chars : List Char) : Option (List Char × List Char) → Option (List Char × List Char) :=
  Option.map fun (body, rest) => (chars ++ body, rest)

def scanBasic : List Char → Option (List Char × List Char)
  | [] => none
  | '"' :: rest => some ([], rest)
  | '\\' :: 'u' :: a :: b :: c :: d :: rest => do
    prepend [← charOfHex? [a, b, c, d]] (scanBasic rest)
  | '\\' :: 'U' :: a :: b :: c :: d :: e :: f :: g :: h :: rest => do
    prepend [← charOfHex? [a, b, c, d, e, f, g, h]] (scanBasic rest)
  | '\\' :: c :: rest => do
    prepend [← escaped? c] (scanBasic rest)
  | c :: rest => if c ≠ '\\' ∧ isPrintable c then prepend [c] (scanBasic rest) else none

/-- Reads text up to three closing quotes. Up to two more quotes in front of
them belong to the text, and a backslash at the end of a line takes away all
blanks and breaks up to the next character. -/
def scanMultiBasic (skipping : Bool) : List Char → Option (List Char × List Char)
  | [] => none
  | '"' :: '"' :: '"' :: '"' :: '"' :: rest => some (['"', '"'], rest)
  | '"' :: '"' :: '"' :: '"' :: rest => some (['"'], rest)
  | '"' :: '"' :: '"' :: rest => some ([], rest)
  | '\\' :: 'u' :: a :: b :: c :: d :: rest => do
    prepend [← charOfHex? [a, b, c, d]] (scanMultiBasic false rest)
  | '\\' :: 'U' :: a :: b :: c :: d :: e :: f :: g :: h :: rest => do
    prepend [← charOfHex? [a, b, c, d, e, f, g, h]] (scanMultiBasic false rest)
  | '\\' :: c :: rest =>
    if (afterBreak? (skipBlanks (c :: rest))).isSome then scanMultiBasic true (c :: rest)
    else do prepend [← escaped? c] (scanMultiBasic false rest)
  | '\n' :: rest => if skipping then scanMultiBasic true rest else prepend ['\n'] (scanMultiBasic false rest)
  | '\r' :: '\n' :: rest =>
    if skipping then scanMultiBasic true rest else prepend ['\n'] (scanMultiBasic false rest)
  | c :: rest =>
    if skipping && isBlank c then scanMultiBasic true rest
    else if c ≠ '\\' ∧ isPrintable c then prepend [c] (scanMultiBasic false rest)
    else none

def scanLiteral : List Char → Option (List Char × List Char)
  | [] => none
  | '\'' :: rest => some ([], rest)
  | c :: rest => if isPrintable c then prepend [c] (scanLiteral rest) else none

/-- Reads text without escapes up to three closing apostrophes. -/
def scanMultiLiteral : List Char → Option (List Char × List Char)
  | [] => none
  | '\'' :: '\'' :: '\'' :: '\'' :: '\'' :: rest => some (['\'', '\''], rest)
  | '\'' :: '\'' :: '\'' :: '\'' :: rest => some (['\''], rest)
  | '\'' :: '\'' :: '\'' :: rest => some ([], rest)
  | '\n' :: rest => prepend ['\n'] (scanMultiLiteral rest)
  | '\r' :: '\n' :: rest => prepend ['\n'] (scanMultiLiteral rest)
  | c :: rest => if isPrintable c then prepend [c] (scanMultiLiteral rest) else none

/-- The text after an opening of three quotes, where a first line break does not count. -/
def afterOpening (text : List Char) : List Char := (afterBreak? text).getD text

/-- Reads quoted text of any of the four kinds. -/
def scanString : List Char → Option (List Char × List Char)
  | '"' :: '"' :: '"' :: rest => scanMultiBasic false (afterOpening rest)
  | '"' :: rest => scanBasic rest
  | '\'' :: '\'' :: '\'' :: rest => scanMultiLiteral (afterOpening rest)
  | '\'' :: rest => scanLiteral rest
  | _ => none

def isKeyChar (c : Char) : Bool := c.isAlphanum || c == '-' || c == '_'

/-- Reads one part of a key. Text over several lines is no key. -/
def scanKey : List Char → Option (String × List Char)
  | '"' :: rest => (scanBasic rest).map fun (key, left) => (String.ofList key, left)
  | '\'' :: rest => (scanLiteral rest).map fun (key, left) => (String.ofList key, left)
  | text =>
    match text.takeWhile isKeyChar with
    | [] => none
    | key => some (String.ofList key, text.dropWhile isKeyChar)

/-- Reads the parts of a dotted key, with blanks around each. The first argument
bounds their number. -/
def scanKeys : Nat → List Char → Option (List String × List Char)
  | 0, _ => none
  | room + 1, text => do
    let (key, rest) ← scanKey (skipBlanks text)
    match skipBlanks rest with
    | '.' :: more => (scanKeys room more).map fun (keys, left) => (key :: keys, left)
    | left => some ([key], left)

def maxKeyParts : Nat := 79

/-- Reads a key as the path to a table and the name in it. -/
def scanPath (text : List Char) : Option ((List String × String) × List Char) := do
  let (keys, rest) ← scanKeys maxKeyParts text
  return ((keys.dropLast, ← keys.getLast?), rest)

end Toml

end IndexBasket
