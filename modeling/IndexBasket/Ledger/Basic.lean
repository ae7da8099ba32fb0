import IndexBasket.Ledger.Error
import IndexBasket.Action
import IndexBasket.Number.Fixed

namespace IndexBasket

/-- Whether a position is held by the basket itself or attributed to a module. -/
inductive PositionState
  | default
  | external
deriving DecidableEq

structure Position where
  component : Address
  module : Option Address
  unit : Fixed
  state : PositionState
  data : List UInt8
deriving DecidableEq

structure Attribution where
  virtualUnit : Fixed := Fixed.zero
  data : List UInt8 := []
deriving DecidableEq

/-- The attributions of one component: the modules in the order in which they
came, and the entry of each. -/
structure Attributions where
  modules : List Address := []
  entries : AddressMap Attribution := ∅
deriving DecidableEq

/-- Units per basket token behind one multiplier. What is stored is virtual, and
a real unit is `floor (virtual * multiplier / 10 ^ 18)`: a change of the
multiplier rescales every position and touches none. -/
structure Ledger where
  components : List Address := []
  multiplier : Fixed := Fixed.one
  defaultUnits : AddressMap Fixed := ∅
  external : AddressMap Attributions := ∅
deriving DecidableEq

namespace Ledger

def empty : Ledger := {}

/-- The real unit of a virtual one, kept at the end of the range that it would pass. -/
def toReal (ledger : Ledger) (virtualUnit : Fixed) : Fixed :=
  (virtualUnit.preciseMul ledger.multiplier).getD
    (if virtualUnit.toInt < 0 then Fixed.least else Fixed.greatest)

/-- The virtual unit that stands for a real one. A unit that would be read back
as zero has none. -/
def toVirtual (ledger : Ledger) (component : Address) (realUnit : Fixed) : Except LedgerError Fixed := do
  let virtualUnit ← demand .overflow (realUnit.preciseDiv ledger.multiplier)
  if realUnit ≠ Fixed.zero ∧ (virtualUnit = Fixed.zero ∨ ledger.toReal virtualUnit = Fixed.zero) then
    throw (.invalidVirtualUnit component)
  return virtualUnit

def isComponent (ledger : Ledger) (component : Address) : Bool :=
  ledger.components.contains component

def defaultVirtualUnit (ledger : Ledger) (component : Address) : Fixed :=
  ledger.defaultUnits.getD component Fixed.zero

def defaultRealUnit (ledger : Ledger) (component : Address) : Fixed :=
  match ledger.defaultUnits[component]? with
  | some virtualUnit => ledger.toReal virtualUnit
  | none => Fixed.zero

def attribution? (ledger : Ledger) (component module : Address) : Option Attribution :=
  ledger.external[component]?.bind (·.entries[module]?)

def externalRealUnit (ledger : Ledger) (component module : Address) : Fixed :=
  match ledger.attribution? component module with
  | some entry => ledger.toReal entry.virtualUnit
  | none => Fixed.zero

def externalModules (ledger : Ledger) (component : Address) : List Address :=
  match ledger.external[component]? with
  | some attributions => attributions.modules
  | none => []

def externalData (ledger : Ledger) (component module : Address) : List UInt8 :=
  match ledger.attribution? component module with
  | some entry => entry.data
  | none => []

def isExternalModule (ledger : Ledger) (component module : Address) : Bool :=
  (ledger.attribution? component module).isSome

def hasDefaultPosition (ledger : Ledger) (component : Address) : Bool :=
  Fixed.zero < ledger.defaultRealUnit component

def hasExternalPosition (ledger : Ledger) (component : Address) : Bool :=
  !(ledger.externalModules component).isEmpty

def hasSufficientDefaultUnits (ledger : Ledger) (component : Address) (unit : Fixed) : Bool :=
  unit ≤ ledger.defaultRealUnit component

/-- The default unit and all attributed units together. The sum stays at the end
of the range where it would pass it. -/
def totalRealUnits (ledger : Ledger) (component : Address) : Fixed :=
  (ledger.externalModules component).foldl
    (fun sum module => sum.addClamped (ledger.externalRealUnit component module))
    (ledger.defaultRealUnit component)

def defaultPosition? (ledger : Ledger) (component : Address) : Option Position :=
  let unit := ledger.defaultRealUnit component
  if unit = Fixed.zero then none
  else some { component, module := none, unit, state := .default, data := [] }

def externalPositions (ledger : Ledger) (component : Address) : List Position :=
  match ledger.external[component]? with
  | some attributions => attributions.modules.filterMap fun module =>
      attributions.entries[module]?.map fun entry =>
        { component, module := some module, unit := ledger.toReal entry.virtualUnit
          state := .external, data := entry.data }
  | none => []

def positions (ledger : Ledger) : List Position :=
  ledger.components.flatMap fun component =>
    (ledger.defaultPosition? component).toList ++ ledger.externalPositions component

def virtualUnits (ledger : Ledger) : List Fixed :=
  ledger.defaultUnits.values ++
    ledger.external.values.flatMap fun attributions => attributions.entries.values.map (·.virtualUnit)

end Ledger

end IndexBasket
