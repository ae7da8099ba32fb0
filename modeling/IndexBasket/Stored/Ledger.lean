import IndexBasket.Ledger.Basic
import IndexBasket.Stored.Basic

namespace IndexBasket

def PositionState.toJson : PositionState → Json
  | default => .ofText "Default"
  | external => .ofText "External"

def PositionState.ofJson? : Json → Option PositionState :=
  Json.choice? [("Default", .default), ("External", .external)]

namespace Position

def toJson (position : Position) : Json := .record
  [("component", position.component.toJson),
   ("module", match position.module with
     | some module => module.toJson
     | none => .null),
   ("unit", position.unit.toJson), ("state", position.state.toJson), ("data", bytesToJson position.data)]

/-- Reads a position. The module may be left out of an object, but not of an array. -/
def ofJson? (value : Json) : Option Position := do
  let [component, module, unit, state, data] ←
    value.fields? ["component", "module", "unit", "state", "data"] | none
  let component ← Json.required Address.ofJson? component
  let module ← if value.isArray then Json.required (Json.option? Address.ofJson?) module
    else Json.defaulted none (Json.option? Address.ofJson?) module
  let unit ← Json.required Json.fixed? unit
  let state ← Json.required PositionState.ofJson? state
  let data ← Json.required (Json.list? Json.byte?) data
  return { component, module, unit, state, data }

end Position

namespace Attribution

def toJson (entry : Attribution) : Json := .record
  [("virtual_unit", entry.virtualUnit.toJson), ("data", bytesToJson entry.data)]

def ofJson? (value : Json) : Option Attribution := do
  let [virtualUnit, data] ← value.fields? ["virtual_unit", "data"] | none
  let virtualUnit ← Json.required Json.fixed? virtualUnit
  let data ← Json.required (Json.list? Json.byte?) data
  return { virtualUnit, data }

end Attribution

namespace Attributions

def toJson (attributions : Attributions) : Json := .record
  [("modules", .ofAddresses attributions.modules),
   ("entries", .ofAddressMap Attribution.toJson attributions.entries)]

def ofJson? (value : Json) : Option Attributions := do
  let [modules, entries] ← value.fields? ["modules", "entries"] | none
  let modules ← Json.required (Json.list? Address.ofJson?) modules
  let entries ← Json.required (Json.addressMap? Attribution.ofJson?) entries
  return { modules, entries }

end Attributions

namespace Ledger

def toJson (ledger : Ledger) : Json := .record
  [("components", .ofAddresses ledger.components), ("multiplier", ledger.multiplier.toJson),
   ("default_units", .ofAddressMap Fixed.toJson ledger.defaultUnits),
   ("external", .ofAddressMap Attributions.toJson ledger.external)]

/-- Reads a ledger as it is written. Nothing is checked beyond the types. -/
def ofJson? (value : Json) : Option Ledger := do
  let [components, multiplier, units, external] ←
    value.fields? ["components", "multiplier", "default_units", "external"] | none
  let components ← Json.required (Json.list? Address.ofJson?) components
  let multiplier ← Json.required Json.fixed? multiplier
  let defaultUnits ← Json.required (Json.addressMap? Json.fixed?) units
  let external ← Json.required (Json.addressMap? Attributions.ofJson?) external
  return { components, multiplier, defaultUnits, external }

end Ledger

end IndexBasket
