import IndexBasket.Address

namespace IndexBasket

/-- Why an edit of a ledger, a basket, a custody book or the system registry is refused. -/
inductive LedgerError
  | invalidVirtualUnit (component : Address)
  | multiplierTooSmall
  | componentExists (component : Address)
  | componentNotFound (component : Address)
  | duplicateComponent (component : Address)
  | moduleAlreadyAttributed (component module : Address)
  | moduleNotAttributed (component module : Address)
  | onlyManager
  | moduleNotEnabled (module : Address)
  | moduleAlreadyAdded (module : Address)
  | moduleNotPending (module : Address)
  | moduleNotInitialized (module : Address)
  | insufficientBalance (holder asset : Address)
  | invalidBasket (basket : Address)
  | feeTooHigh
  | overflow
deriving DecidableEq

def LedgerError.name : LedgerError → String
  | invalidVirtualUnit .. => "InvalidVirtualUnit"
  | multiplierTooSmall => "MultiplierTooSmall"
  | componentExists .. => "ComponentExists"
  | componentNotFound .. => "ComponentNotFound"
  | duplicateComponent .. => "DuplicateComponent"
  | moduleAlreadyAttributed .. => "ModuleAlreadyAttributed"
  | moduleNotAttributed .. => "ModuleNotAttributed"
  | onlyManager => "OnlyManager"
  | moduleNotEnabled .. => "ModuleNotEnabled"
  | moduleAlreadyAdded .. => "ModuleAlreadyAdded"
  | moduleNotPending .. => "ModuleNotPending"
  | moduleNotInitialized .. => "ModuleNotInitialized"
  | insufficientBalance .. => "InsufficientBalance"
  | invalidBasket .. => "InvalidBasket"
  | feeTooHigh => "FeeTooHigh"
  | overflow => "Overflow"

def LedgerError.message : LedgerError → String
  | invalidVirtualUnit component => s!"real to virtual unit conversion invalid for {component}"
  | multiplierTooSmall => "new multiplier too small"
  | componentExists component => s!"component {component} already exists"
  | componentNotFound component => s!"component {component} not found"
  | duplicateComponent component => s!"duplicate component {component}"
  | moduleAlreadyAttributed component module => s!"module {module} already attributed to {component}"
  | moduleNotAttributed component module => s!"module {module} not attributed to {component}"
  | onlyManager => "only the manager can call"
  | moduleNotEnabled module => s!"module {module} must be enabled on the system"
  | moduleAlreadyAdded module => s!"module {module} must not be added yet"
  | moduleNotPending module => s!"module {module} must be pending initialization"
  | moduleNotInitialized module => s!"module {module} must be initialized"
  | insufficientBalance holder asset => s!"{holder} has insufficient {asset} balance"
  | invalidBasket basket => s!"basket {basket} is not registered on the system"
  | feeTooHigh => "fee percentage exceeds 100%"
  | overflow => "arithmetic overflow"

end IndexBasket
