namespace IndexBasket

inductive ConfigFault
  | invalidAddress (field text : String)
  | sweepsReserve
  | slippageTooLarge
  | invalidFraction (field text : String)
  | noRaise
  | feeTooHigh
  | noRounds
deriving DecidableEq

def ConfigFault.message : ConfigFault → String
  | invalidAddress field text => field ++ " '" ++ text ++ "' is not a valid address"
  | sweepsReserve => "bot.sweep_component cannot be the reserve asset"
  | slippageTooLarge => "max_slippage_bps must be < 10000"
  | invalidFraction field text => field ++ " '" ++ text ++ "' is not a non-negative decimal"
  | noRaise => "raise_target_percentage must be > 0"
  | feeTooHigh => "protocol_fee must be <= 1"
  | noRounds => "max_rounds must be > 0"

end IndexBasket
