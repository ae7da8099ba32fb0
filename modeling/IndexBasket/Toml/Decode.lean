import IndexBasket.Toml.Basic

namespace IndexBasket

namespace Toml

def text? : Toml → Option String
  | string value => some value
  | _ => none

def natural? (largest : Nat) : Toml → Option Nat
  | integer value => value.toNat?.filter (· ≤ largest)
  | _ => none

/-- The fields of a record in the order of the given names. A record is a table,
in which other names are ignored, or an array of its fields from the first one
on. A point in time counts as a table without fields. -/
def fields? (names : List String) : Toml → Option (List (Option Toml))
  | table _ entries => some (names.map fun name => entries.lookup name)
  | array items | tables items => some (names.zipIdx.map fun (_, place) => items[place]?)
  | moment => some (names.map fun _ => none)
  | _ => none

def required {α : Type} (decode : Toml → Option α) (field : Option Toml) : Option α :=
  field.bind decode

def defaulted {α : Type} (absent : α) (decode : Toml → Option α) : Option Toml → Option α
  | none => some absent
  | some value => decode value

end Toml

end IndexBasket
