import IndexBasket.Venue.Error
import IndexBasket.Ledger.Error

namespace IndexBasket

inductive EngineError
  | lengthMismatch
  | emptyArray
  | duplicateComponent
  | duplicateTrader
  | reserveAsComponent
  | missingOldTargets
  | exchangeNotEnabled (exchange : Exchange)
  | invalidRaiseTarget
  | negativeTarget (component : Address)
  | onlyManager
  | notPermittedTrader
  | notExternallyOwned
  | invalidBasket
  | notPending
  | externalPositionsNotAllowed
  | notInRebalance (component : Address)
  | exchangeNotSet
  | zeroSupply
  | untrackedShortfall (asset : Address)
  | targetAlreadyMet
  | coolOffNotElapsed
  | tradeSizeExceedsLimit
  | mustSellAllSellableTokensFirst
  | targetsNotMetOrNoReserveRemaining
  | noReserveRemaining
  | ledger (cause : LedgerError)
  | venue (cause : VenueError)
deriving DecidableEq

namespace EngineError

/-- The name of a cause without its content. A cause that another part gave is
named after that part first. -/
def name : EngineError → String
  | lengthMismatch => "LengthMismatch"
  | emptyArray => "EmptyArray"
  | duplicateComponent => "DuplicateComponent"
  | duplicateTrader => "DuplicateTrader"
  | reserveAsComponent => "ReserveAsComponent"
  | missingOldTargets => "MissingOldTargets"
  | exchangeNotEnabled .. => "ExchangeNotEnabled"
  | invalidRaiseTarget => "InvalidRaiseTarget"
  | negativeTarget .. => "NegativeTarget"
  | onlyManager => "OnlyManager"
  | notPermittedTrader => "NotPermittedTrader"
  | notExternallyOwned => "NotExternallyOwned"
  | invalidBasket => "InvalidBasket"
  | notPending => "NotPending"
  | externalPositionsNotAllowed => "ExternalPositionsNotAllowed"
  | notInRebalance .. => "NotInRebalance"
  | exchangeNotSet => "ExchangeNotSet"
  | zeroSupply => "ZeroSupply"
  | untrackedShortfall .. => "UntrackedShortfall"
  | targetAlreadyMet => "TargetAlreadyMet"
  | coolOffNotElapsed => "CoolOffNotElapsed"
  | tradeSizeExceedsLimit => "TradeSizeExceedsLimit"
  | mustSellAllSellableTokensFirst => "MustSellAllSellableTokensFirst"
  | targetsNotMetOrNoReserveRemaining => "TargetsNotMetOrNoReserveRemaining"
  | noReserveRemaining => "NoReserveRemaining"
  | ledger cause => "Ledger." ++ cause.name
  | venue cause => "Venue." ++ cause.name

def message : EngineError → String
  | lengthMismatch => "array length mismatch"
  | emptyArray => "array length must be > 0"
  | duplicateComponent => "cannot duplicate components"
  | duplicateTrader => "cannot duplicate traders"
  | reserveAsComponent => "reserve asset cannot be a component"
  | missingOldTargets => "new allocation must have target for all old components"
  | exchangeNotEnabled exchange => s!"unrecognized exchange identifier: {exchange}"
  | invalidRaiseTarget => "target percentage must be > 0"
  | negativeTarget component => s!"target unit for {component} must not be negative"
  | onlyManager => "caller must be manager"
  | notPermittedTrader => "address not permitted to trade"
  | notExternallyOwned => "caller must be EOA"
  | invalidBasket => "must be a valid and initialized basket"
  | notPending => "must be a valid and pending basket"
  | externalPositionsNotAllowed => "external positions not allowed"
  | notInRebalance component => s!"component {component} not included in rebalance"
  | exchangeNotSet => "exchange must be specified"
  | zeroSupply => "basket total supply is zero"
  | untrackedShortfall asset => s!"balance of {asset} is below its tracked amount"
  | targetAlreadyMet => "target already met"
  | coolOffNotElapsed => "cool off period has not elapsed"
  | tradeSizeExceedsLimit => "trade size exceeds limit"
  | mustSellAllSellableTokensFirst => "must sell all sellable tokens first"
  | targetsNotMetOrNoReserveRemaining => "targets must be met and reserve remaining to raise target"
  | noReserveRemaining => "no reserve remaining to trade"
  | ledger cause => cause.message
  | venue cause => cause.message

/-- Whether the failure only says that the rebalance has nothing to do here now. -/
def isRuleViolation : EngineError → Bool
  | targetAlreadyMet | coolOffNotElapsed | tradeSizeExceedsLimit | mustSellAllSellableTokensFirst
  | targetsNotMetOrNoReserveRemaining | noReserveRemaining => true
  | _ => false

end EngineError

end IndexBasket
