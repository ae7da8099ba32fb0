import IndexBasket.Ledger.Basic

namespace IndexBasket

namespace Ledger

abbrev Update := Action LedgerError Ledger Unit

/-- Stores a default unit; zero leaves no entry. -/
def withDefault (ledger : Ledger) (component : Address) (virtualUnit : Fixed) : Ledger :=
  if virtualUnit = Fixed.zero then { ledger with defaultUnits := ledger.defaultUnits.erase component }
  else { ledger with defaultUnits := ledger.defaultUnits.insert component virtualUnit }

/-- Replaces the entry of a module that is attributed already. -/
def withAttribution (ledger : Ledger) (component module : Address) (entry : Attribution) : Ledger :=
  { ledger with external := ledger.external.modify component fun attributions =>
      { attributions with entries := attributions.entries.insert module entry } }

def addComponent (component : Address) : Update := do
  if (← get).isComponent component then throw (.componentExists component)
  modify fun ledger => { ledger with components := ledger.components ++ [component] }

def removeComponent (component : Address) : Update := do
  if !(← get).isComponent component then throw (.componentNotFound component)
  modify fun ledger => { ledger with components := ledger.components.erase component }

/-- Sets the default unit and leaves the list of components alone. -/
def setDefaultUnit (component : Address) (realUnit : Fixed) : Update := do
  let virtualUnit ← (← get).toVirtual component realUnit
  modify (·.withDefault component virtualUnit)

/-- Sets the default unit and lists the component while it has a position. -/
def setDefaultPosition (component : Address) (realUnit : Fixed) : Update := do
  let ledger ← get
  let virtualUnit ← ledger.toVirtual component realUnit
  let hasExternal := ledger.hasExternalPosition component
  if !ledger.isComponent component && Fixed.zero < realUnit && !hasExternal then
    addComponent component
  else if ledger.isComponent component && realUnit = Fixed.zero && !hasExternal then
    removeComponent component
  modify (·.withDefault component virtualUnit)

/-- Attributes a component to a module, with a unit of zero. The component gets
its table of attributions before the module is looked up in it. -/
def addAttribution (component module : Address) : Update := do
  modify fun ledger =>
    { ledger with external := ledger.external.insert component (ledger.external.getD component {}) }
  if (← get).isExternalModule component module then throw (.moduleAlreadyAttributed component module)
  modify fun ledger => { ledger with external := ledger.external.modify component fun attributions =>
    { modules := attributions.modules ++ [module], entries := attributions.entries.insert module {} } }

/-- Ends an attribution. The table of a component goes with its last module. -/
def removeAttribution (component module : Address) : Update := do
  if !(← get).isExternalModule component module then throw (.moduleNotAttributed component module)
  modify fun ledger => { ledger with external := ledger.external.modify component fun attributions =>
    { modules := attributions.modules.filter (· ≠ module), entries := attributions.entries.erase module } }
  if ((← get).externalModules component).isEmpty then
    modify fun ledger => { ledger with external := ledger.external.erase component }

def setExternalUnit (component module : Address) (realUnit : Fixed) : Update := do
  let virtualUnit ← (← get).toVirtual component realUnit
  let entry ← demand (.moduleNotAttributed component module) ((← get).attribution? component module)
  modify (·.withAttribution component module { entry with virtualUnit })

def setExternalData (component module : Address) (data : List UInt8) : Update := do
  let entry ← demand (.moduleNotAttributed component module) ((← get).attribution? component module)
  modify (·.withAttribution component module { entry with data })

/-- Sets an external position and lists the component while it has one. A unit
of zero ends the attribution, and the last one takes the component with it if
the basket holds none of it either. -/
def setExternalPosition (component module : Address) (realUnit : Fixed) (data : List UInt8) : Update := do
  if realUnit ≠ Fixed.zero then
    let virtualUnit ← (← get).toVirtual component realUnit
    if !(← get).isComponent component then addComponent component
    if !(← get).isExternalModule component module then addAttribution component module
    modify (·.withAttribution component module { virtualUnit, data })
  else if (← get).isExternalModule component module then
    removeAttribution component module
    let ledger ← get
    if !ledger.hasExternalPosition component && ledger.defaultRealUnit component = Fixed.zero
        && ledger.isComponent component then
      removeComponent component

def smallestPositive? (units : List Fixed) : Option Amount :=
  ((units.filter (Fixed.zero < ·)).map Fixed.magnitude).min?

def largestMagnitude (units : List Fixed) : Amount :=
  (units.map Fixed.magnitude).foldl max Amount.zero

/-- Refuses a multiplier under which a positive unit would vanish or any unit
would leave the range. -/
def checkMultiplier (units : List Fixed) (multiplier : Fixed) : Except LedgerError Unit := do
  if multiplier ≤ Fixed.zero then throw .multiplierTooSmall
  if let some smallest := smallestPositive? units then
    let realUnit ← demand .overflow (smallest.preciseMul multiplier.magnitude)
    if realUnit = Amount.zero then throw .multiplierTooSmall
  let realUnit ← demand .overflow ((largestMagnitude units).preciseMul multiplier.magnitude)
  if Fixed.greatest.magnitude < realUnit then throw .overflow

/-- Rescales every position at once. -/
def setMultiplier (multiplier : Fixed) : Update := do
  checkMultiplier (← get).virtualUnits multiplier
  modify ({ · with multiplier })

/-- Opens a ledger with default positions. Zero units are left out. -/
def openPositions : List (Address × Fixed) → Update
  | [] => pure ()
  | (component, unit) :: rest => do
    if (← get).isComponent component then throw (.duplicateComponent component)
    if unit ≠ Fixed.zero then
      addComponent component
      setDefaultUnit component unit
    openPositions rest

def ofPositions (positions : List (Address × Fixed)) : Except LedgerError Ledger :=
  match openPositions positions empty with
  | .ok _ ledger => .ok ledger
  | .error failure _ => .error failure

/-- An edit as data, with the component it is about. -/
inductive Edit
  | addComponent (component : Address)
  | removeComponent (component : Address)
  | defaultUnit (component : Address) (realUnit : Fixed)
  | defaultPosition (component : Address) (realUnit : Fixed)
  | addAttribution (component module : Address)
  | removeAttribution (component module : Address)
  | externalUnit (component module : Address) (realUnit : Fixed)
  | externalData (component module : Address) (data : List UInt8)
  | externalPosition (component module : Address) (realUnit : Fixed) (data : List UInt8)
  | rescale (multiplier : Fixed)
deriving DecidableEq

def Edit.apply : Edit → Update
  | .addComponent component => Ledger.addComponent component
  | .removeComponent component => Ledger.removeComponent component
  | .defaultUnit component unit => setDefaultUnit component unit
  | .defaultPosition component unit => setDefaultPosition component unit
  | .addAttribution component module => Ledger.addAttribution component module
  | .removeAttribution component module => Ledger.removeAttribution component module
  | .externalUnit component module unit => setExternalUnit component module unit
  | .externalData component module data => setExternalData component module data
  | .externalPosition component module unit data => setExternalPosition component module unit data
  | .rescale multiplier => setMultiplier multiplier

end Ledger

end IndexBasket
