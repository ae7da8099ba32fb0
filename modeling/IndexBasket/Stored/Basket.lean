import IndexBasket.Balances
import IndexBasket.Basket
import IndexBasket.Engine.State
import IndexBasket.Stored.Ledger

namespace IndexBasket

def ModuleState.toJson : ModuleState → Json
  | absent => .ofText "None"
  | pending => .ofText "Pending"
  | initialized => .ofText "Initialized"

def ModuleState.ofJson? : Json → Option ModuleState :=
  Json.choice? [("None", .absent), ("Pending", .pending), ("Initialized", .initialized)]

def CallerKind.toJson : CallerKind → Json
  | externallyOwned => .ofText "ExternallyOwned"
  | contract => .ofText "Contract"

def CallerKind.ofJson? : Json → Option CallerKind :=
  Json.choice? [("ExternallyOwned", .externallyOwned), ("Contract", .contract)]

namespace Basket

def toJson (basket : Basket) : Json := .record
  [("address", basket.address.toJson), ("manager", basket.manager.toJson),
   ("ledger", basket.ledger.toJson), ("modules", .ofAddressMap ModuleState.toJson basket.modules),
   ("total_supply", basket.totalSupply.toJson)]

def ofJson? (value : Json) : Option Basket := do
  let [address, manager, ledger, modules, totalSupply] ←
    value.fields? ["address", "manager", "ledger", "modules", "total_supply"] | none
  let address ← Json.required Address.ofJson? address
  let manager ← Json.required Address.ofJson? manager
  let ledger ← Json.required Ledger.ofJson? ledger
  let modules ← Json.required (Json.addressMap? ModuleState.ofJson?) modules
  let totalSupply ← Json.required Json.amount? totalSupply
  return { address, manager, ledger, modules, totalSupply }

end Basket

namespace Balances

def toJson (balances : Balances) : Json := .record
  [("balances", .ofAddressMap (Json.ofAddressMap Amount.toJson) balances.byHolder)]

def ofJson? (value : Json) : Option Balances := do
  let [balances] ← value.fields? ["balances"] | none
  let byHolder ← Json.required (Json.addressMap? (Json.addressMap? Json.amount?)) balances
  return { byHolder }

end Balances

namespace Registry

/-- Fees of a module under their indices, which are written as names. -/
def feesToJson (fees : Std.ExtTreeMap UInt64 Amount) : Json :=
  .object (fees.toList.map fun (index, fee) => (String.ofList (Nat.toDigits 10 index.toNat), fee.toJson))

/-- An index: the digits of a number of 64 bits, without escapes or leading zeros. -/
def indexOf? (name : String) : Option UInt64 :=
  match name.toList with
  | ['0'] => some 0
  | '0' :: _ | '+' :: _ => none
  | digits => (Digits.below? UInt64.size digits).map UInt64.ofNat

def feesOfJson? : Json → Option (Std.ExtTreeMap UInt64 Amount)
  | .object fields => do
    let pairs ← fields.mapM fun (name, value) => return (← indexOf? name, ← value.amount?)
    return pairs.foldl (fun fees (index, fee) => fees.insert index fee) ∅
  | _ => none

def toJson (registry : Registry) : Json := .record
  [("baskets", .ofAddressSet registry.baskets), ("modules", .ofAddressSet registry.modules),
   ("fee_recipient", registry.feeRecipient.toJson),
   ("module_fees", .ofAddressMap feesToJson registry.moduleFees)]

def ofJson? (value : Json) : Option Registry := do
  let [baskets, modules, feeRecipient, moduleFees] ←
    value.fields? ["baskets", "modules", "fee_recipient", "module_fees"] | none
  let baskets ← Json.required Json.addressSet? baskets
  let modules ← Json.required Json.addressSet? modules
  let feeRecipient ← Json.required Address.ofJson? feeRecipient
  let moduleFees ← Json.required (Json.addressMap? feesOfJson?) moduleFees
  return { baskets, modules, feeRecipient, moduleFees }

end Registry

end IndexBasket
