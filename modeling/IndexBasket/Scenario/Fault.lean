import IndexBasket.Address

namespace IndexBasket

/-- Why a scenario is refused. Assets are named as the scenario writes them. -/
inductive ScenarioFault
  | invalidAddress (text : String)
  | invalidDecimal (text : String)
  | negative (text : String)
  | zeroSupply
  | noPositions
  | duplicatePosition (asset : String)
  | unitNotPositive (asset : String)
  | invalidVenue (text : String)
  | duplicateTarget (asset : String)
  | notionalOverflow (asset : Address)
  | missingTarget (component : Address)
  | notHeld (asset : Address)
deriving DecidableEq

def ScenarioFault.message : ScenarioFault → String
  | invalidAddress text => "'" ++ text ++ "' is not a valid address"
  | invalidDecimal text => "'" ++ text ++ "' is not a decimal with at most 18 places"
  | negative text => "'" ++ text ++ "' must not be negative"
  | zeroSupply => "total_supply must be > 0"
  | noPositions => "positions list is empty"
  | duplicatePosition asset => s!"duplicate position: {asset}"
  | unitNotPositive asset => s!"unit for {asset} must be > 0"
  | invalidVenue text => "venue '" ++ text ++ "' is invalid or duplicated"
  | duplicateTarget asset => s!"duplicate target: {asset}"
  | notionalOverflow asset => s!"notional of {asset} overflows"
  | missingTarget component => s!"missing target for held component {component}"
  | notHeld asset => s!"{asset} is not held; list it under new_components"

end IndexBasket
