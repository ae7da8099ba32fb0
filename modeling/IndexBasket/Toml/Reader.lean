import IndexBasket.Toml.Scalar

namespace IndexBasket

namespace Toml

mutual

/-- Reads one value. The first argument bounds the number of nested reads, and
the length of the text is always enough; the second says how many more brackets
may be opened. -/
def scanValue : Nat → Nat → List Char → Option (Toml × List Char)
  | 0, _, _ => none
  | fuel + 1, room, text =>
    match text, room with
    | '[' :: rest, room + 1 =>
      match skipGaps false rest with
      | ']' :: left => some (array [], left)
      | inner => (scanItems fuel room inner).map fun (items, left) => (array items, left)
    | '\x7b' :: rest, room + 1 =>
      match skipBlanks rest with
      | '\x7d' :: left => some (table .inline [], left)
      | inner => (scanPairs fuel room [] inner).map fun (entries, left) => (table .inline entries, left)
    | '"' :: _, _ => (scanString text).map fun (body, rest) => (string (String.ofList body), rest)
    | '\'' :: _, _ => (scanString text).map fun (body, rest) => (string (String.ofList body), rest)
    | other, _ => scanScalar other

/-- Reads items up to the closing bracket. They may stand on several lines, and
the last one may have a comma too. -/
def scanItems : Nat → Nat → List Char → Option (List Toml × List Char)
  | 0, _, _ => none
  | fuel + 1, room, text =>
    (scanValue fuel room (skipGaps false text)).bind fun (item, left) =>
      match skipGaps false left with
      | ']' :: rest => some ([item], rest)
      | ',' :: rest =>
        match skipGaps false rest with
        | ']' :: left => some ([item], left)
        | more => (scanItems fuel room more).map fun (items, left) => (item :: items, left)
      | _ => none

/-- Reads keys and values up to the closing brace, on one line. -/
def scanPairs : Nat → Nat → Entries → List Char → Option (Entries × List Char)
  | 0, _, _, _ => none
  | fuel + 1, room, entries, text => do
    let ((path, key), rest) ← scanPath text
    let rest ← skipChar '=' rest
    let (value, rest) ← scanValue fuel room (skipBlanks rest)
    let entries ← putDotted path key value .inline entries
    match skipBlanks rest with
    | '\x7d' :: left => some (entries, left)
    | ',' :: more => scanPairs fuel room entries more
    | _ => none

end

def maxDepth : Nat := 79

/-- What has been read: the root table, and the header that keys belong to. -/
structure Document where
  root : Entries := []
  header : List String := []

/-- Reads a header between single or double brackets. -/
def scanHeader (document : Document) : List Char → Option (Document × List Char)
  | '[' :: '[' :: text => do
    let ((path, key), rest) ← scanPath text
    let root ← openNext path key document.root
    return ({ root, header := path ++ [key] }, ← endLine? (← skipChar ']' (← skipChar ']' rest)))
  | text => do
    let ((path, key), rest) ← scanPath (← skipChar '[' text)
    let root ← openTable path key document.root
    return ({ root, header := path ++ [key] }, ← endLine? (← skipChar ']' rest))

def scanSetting (document : Document) (text : List Char) : Option (Document × List Char) := do
  let ((path, key), rest) ← scanPath text
  let rest ← skipChar '=' rest
  let (value, rest) ← scanValue (rest.length + 1) maxDepth (skipBlanks rest)
  let root ← editAt .path (putDotted path key value) document.header .header document.root
  return ({ document with root }, ← endLine? rest)

/-- Reads line after line. The first argument bounds their number. -/
def scanLines : Nat → Document → List Char → Option Document
  | 0, _, _ => none
  | fuel + 1, document, text =>
    match skipBlanks text with
    | [] => some document
    | '[' :: rest => (scanHeader document ('[' :: rest)).bind fun (document, left) =>
        scanLines fuel document left
    | '#' :: rest => (endLine? ('#' :: rest)).bind (scanLines fuel document)
    | '\n' :: rest => scanLines fuel document rest
    | '\r' :: rest => (skipChar '\n' rest).bind (scanLines fuel document)
    | line => (scanSetting document line).bind fun (document, left) => scanLines fuel document left

/-- Reads a document, with or without a byte order mark, as its root table. -/
def parse? (source : String) : Option Toml :=
  let text := match source.toList with
    | '\ufeff' :: rest => rest
    | other => other
  (scanLines (text.length + 1) {} text).map fun document => table .header document.root

end Toml

end IndexBasket
