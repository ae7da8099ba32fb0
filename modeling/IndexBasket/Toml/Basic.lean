namespace IndexBasket

/-- How a table came to be: under a header, on the way to one, by a dotted key,
or in braces. -/
inductive TableOrigin
  | header
  | path
  | dotted
  | inline
deriving DecidableEq

/-- A TOML value. Fractions and points in time are recognised but carry nothing,
because no setting is one. -/
inductive Toml where
  | string (value : String)
  | integer (value : Int)
  | float
  | bool (value : Bool)
  | moment
  | array (items : List Toml)
  /-- The tables under repeated headers in double brackets. -/
  | tables (items : List Toml)
  | table (origin : TableOrigin) (entries : List (String × Toml))

namespace Toml

instance : Inhabited Toml := ⟨bool false⟩

abbrev Entries := List (String × Toml)

def add? (key : String) (value : Toml) (entries : Entries) : Option Entries :=
  if (entries.lookup key).isSome then none else some (entries ++ [(key, value)])

def replace (key : String) (value : Toml) (entries : Entries) : Entries :=
  entries.map fun entry => if entry.1 = key then (key, value) else entry

/-- Whether a path may go through a table. What stands in braces is closed, and
dotted keys only go through tables that no header has opened. -/
def mayEnter (way origin : TableOrigin) : Bool :=
  match origin with
  | .inline => false
  | .header => way = .path
  | .path | .dotted => true

/-- Edits the table at the end of a path. Tables that are missing on the way are
made, and of the tables under a repeated header the last one is meant. -/
def editAt (way : TableOrigin) (edit : TableOrigin → Entries → Option Entries) :
    List String → TableOrigin → Entries → Option Entries
  | [], origin, entries => edit origin entries
  | key :: rest, _, entries =>
    match entries.lookup key with
    | none => (editAt way edit rest way []).map fun inner => entries ++ [(key, table way inner)]
    | some (table origin inner) =>
      if mayEnter way origin then
        (editAt way edit rest origin inner).map fun inner => replace key (table origin inner) entries
      else none
    | some (tables items) =>
      match items.getLast? with
      | some (table origin inner) => (editAt way edit rest origin inner).map fun inner =>
          replace key (tables (items.dropLast ++ [table origin inner])) entries
      | _ => none
    | some _ => none

/-- Sets a dotted key. Its last part stands in a table that dotted keys made, or
in the table at hand if there is only one part. -/
def putDotted (path : List String) (key : String) (value : Toml) :
    TableOrigin → Entries → Option Entries :=
  editAt .dotted (fun origin entries =>
    if decide (origin = .dotted) = path.isEmpty then none else add? key value entries) path

/-- Opens a table under a header. A table that was only on the way to another
one may still get a header. -/
def openTable (path : List String) (key : String) : Entries → Option Entries :=
  editAt .path (fun _ entries =>
    match entries.lookup key with
    | none => some (entries ++ [(key, table .header [])])
    | some (table .path inner) => some (replace key (table .header inner) entries)
    | some _ => none) path .header

/-- Opens the next table under a repeated header. -/
def openNext (path : List String) (key : String) : Entries → Option Entries :=
  editAt .path (fun _ entries =>
    match entries.lookup key with
    | none => some (entries ++ [(key, tables [table .header []])])
    | some (tables items) => some (replace key (tables (items ++ [table .header []])) entries)
    | some _ => none) path .header

end Toml

end IndexBasket
