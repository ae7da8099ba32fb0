import IndexBasket.Ledger.Error
import IndexBasket.Action
import IndexBasket.Number.Division

namespace IndexBasket

/-- The system's registry: which baskets are valid, which modules are enabled,
and which fees go where. -/
structure Registry where
  baskets : AddressSet := ∅
  modules : AddressSet := ∅
  feeRecipient : Address
  moduleFees : AddressMap (Std.ExtTreeMap UInt64 Amount) := ∅
deriving DecidableEq

namespace Registry

def withBasket (registry : Registry) (basket : Address) : Registry :=
  { registry with baskets := registry.baskets.insert basket }

def withModule (registry : Registry) (module : Address) : Registry :=
  { registry with modules := registry.modules.insert module }

/-- Sets a fee of a module as a fraction of at most one. -/
def setModuleFee (module : Address) (index : UInt64) (percentage : Amount) :
    Action LedgerError Registry Unit := do
  if Amount.one < percentage then throw .feeTooHigh
  modify fun registry => { registry with
    moduleFees := registry.moduleFees.insert module
      ((registry.moduleFees.getD module ∅).insert index percentage) }

def isValidBasket (registry : Registry) (basket : Address) : Bool :=
  registry.baskets.contains basket

def isEnabledModule (registry : Registry) (module : Address) : Bool :=
  registry.modules.contains module

def moduleFee (registry : Registry) (module : Address) (index : UInt64) : Amount :=
  match registry.moduleFees[module]? with
  | some fees => fees.getD index Amount.zero
  | none => Amount.zero

/-- The part of a quantity that is due as fee, rounded down. -/
def feeAmount (registry : Registry) (module : Address) (index : UInt64) (quantity : Amount) :
    Except LedgerError Amount :=
  demand .overflow (quantity.preciseMul (registry.moduleFee module index))

end Registry

end IndexBasket
