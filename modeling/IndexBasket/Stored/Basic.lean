import IndexBasket.Address
import IndexBasket.Json.Decode

namespace IndexBasket

def Address.toJson (a : Address) : Json := .ofText a.name

def Address.ofJson? (value : Json) : Option Address := value.text?.bind Address.ofString?

def Amount.toJson (a : Amount) : Json := .ofNat a.toNat

def Fixed.toJson (a : Fixed) : Json := .ofInt a.toInt

def bytesToJson (data : List UInt8) : Json := .array (data.map fun byte => .ofNat byte.toNat)

namespace Json

def ofAddresses (addresses : List Address) : Json := .array (addresses.map Address.toJson)

/-- A table as an object with the addresses for names. -/
def ofAddressMap {β : Type} (encode : β → Json) (table : AddressMap β) : Json :=
  record (table.toList.map fun (address, value) => (address.name, encode value))

/-- Reads a table. Of a name that is repeated the last value counts. -/
def addressMap? {β : Type} (decode : Json → Option β) (value : Json) : Option (AddressMap β) := do
  let entries ← value.entries?
  let pairs ← entries.mapM fun (name, value) => return (← Address.ofString? name, ← decode value)
  return pairs.foldl (fun table (address, value) => table.insert address value) ∅

def ofAddressSet (addresses : AddressSet) : Json := ofAddresses addresses.toList

def addressSet? (value : Json) : Option AddressSet := do
  let addresses ← value.list? Address.ofJson?
  return addresses.foldl (·.insert ·) ∅

/-- A choice without content: its name, alone or over null. -/
def choice? {α : Type} (choices : List (String × α)) (value : Json) : Option α := do
  let name ← match value with
    | object _ => do
      let [(name, null)] ← value.entries? | none
      pure name
    | _ => value.text?
  choices.lookup name

end Json

end IndexBasket
