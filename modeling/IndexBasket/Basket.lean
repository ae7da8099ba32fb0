import IndexBasket.Ledger.Edit
import IndexBasket.Registry

namespace IndexBasket

/-- How far a module has come on a basket. -/
inductive ModuleState
  | absent
  | pending
  | initialized
deriving DecidableEq

/-- A basket token: its position ledger, manager, modules and total supply. -/
structure Basket where
  address : Address
  manager : Address
  ledger : Ledger
  modules : AddressMap ModuleState := ∅
  totalSupply : Amount
deriving DecidableEq

namespace Basket

def create (address manager : Address) (positions : List (Address × Fixed)) (totalSupply : Amount) :
    Except LedgerError Basket := do
  let ledger ← Ledger.ofPositions positions
  return { address, manager, ledger, totalSupply }

def defaultRealUnit (basket : Basket) (component : Address) : Fixed :=
  basket.ledger.defaultRealUnit component

def defaultNotional (basket : Basket) (component : Address) : Except LedgerError Amount :=
  demand .overflow ((basket.defaultRealUnit component).notionalFloor basket.totalSupply)

def moduleState (basket : Basket) (module : Address) : ModuleState :=
  basket.modules.getD module .absent

def isInitializedModule (basket : Basket) (module : Address) : Bool :=
  basket.moduleState module = .initialized

def isPendingModule (basket : Basket) (module : Address) : Bool :=
  basket.moduleState module = .pending

abbrev Update := Action LedgerError Basket Unit

def requireManager (caller : Address) : Update := do
  if caller ≠ (← get).manager then throw .onlyManager

def setTotalSupply (totalSupply : Amount) : Update :=
  modify ({ · with totalSupply })

/-- Puts an enabled module on the basket, where it waits for its initialization. -/
def addModule (registry : Registry) (caller module : Address) : Update := do
  requireManager caller
  if (← get).moduleState module ≠ .absent then throw (.moduleAlreadyAdded module)
  if !registry.isEnabledModule module then throw (.moduleNotEnabled module)
  modify fun basket => { basket with modules := basket.modules.insert module .pending }

def initializeModule (module : Address) : Update := do
  if !(← get).isPendingModule module then throw (.moduleNotPending module)
  modify fun basket => { basket with modules := basket.modules.insert module .initialized }

def removeModule (caller module : Address) : Update := do
  requireManager caller
  if !(← get).isInitializedModule module then throw (.moduleNotInitialized module)
  modify fun basket => { basket with modules := basket.modules.erase module }

def setManager (caller manager : Address) : Update := do
  requireManager caller
  modify ({ · with manager })

def onLedger (update : Ledger.Update) : Update :=
  Action.within (·.ledger) (fun ledger basket => { basket with ledger }) id update

inductive Edit
  | addModule (caller module : Address)
  | initializeModule (module : Address)
  | removeModule (caller module : Address)
  | setManager (caller manager : Address)
  | setTotalSupply (totalSupply : Amount)
  | ledger (edit : Ledger.Edit)
deriving DecidableEq

def Edit.apply (registry : Registry) : Edit → Update
  | .addModule caller module => Basket.addModule registry caller module
  | .initializeModule module => Basket.initializeModule module
  | .removeModule caller module => Basket.removeModule caller module
  | .setManager caller manager => Basket.setManager caller manager
  | .setTotalSupply totalSupply => Basket.setTotalSupply totalSupply
  | .ledger edit => onLedger edit.apply

end Basket

end IndexBasket
