import IndexBasket.Address
import IndexBasket.Exchange
import IndexBasket.Number.Amount
import IndexBasket.Number.Digits

namespace IndexBasket

inductive VenueError
  | slippageExceeded (bound actual : Amount)
  | unknownPair (assetIn assetOut : Address)
  | insufficientLiquidity
  | zeroAmount
  | rejected (reason : String)
  | notRegistered (exchange : Exchange)
  | unknownExchange (text : String)
  | invalidExchange (number : Nat)
  | overflow
deriving DecidableEq

def VenueError.name : VenueError → String
  | slippageExceeded .. => "SlippageExceeded"
  | unknownPair .. => "UnknownPair"
  | insufficientLiquidity => "InsufficientLiquidity"
  | zeroAmount => "ZeroAmount"
  | rejected .. => "Rejected"
  | notRegistered .. => "NotRegistered"
  | unknownExchange .. => "UnknownExchange"
  | invalidExchange .. => "InvalidExchange"
  | overflow => "Overflow"

def VenueError.message : VenueError → String
  | slippageExceeded bound actual =>
    "slippage bound violated: bound " ++ toString bound.toNat ++ ", actual " ++ toString actual.toNat
  | unknownPair assetIn assetOut => s!"no liquidity for {assetIn} -> {assetOut}"
  | insufficientLiquidity => "insufficient liquidity"
  | zeroAmount => "swap amount must be greater than zero"
  | rejected reason => s!"venue rejected swap: {reason}"
  | notRegistered exchange => s!"exchange {exchange} is not registered"
  | unknownExchange text => "unknown exchange '" ++ text ++ "'"
  | invalidExchange number => s!"exchange id {number} is invalid"
  | overflow => "arithmetic overflow"

namespace Exchange

def ofNumber (n : Nat) : Except VenueError Exchange :=
  match n with
  | 0 => .ok unset
  | 1 => .ok uniswap
  | 2 => .ok sushiswap
  | 3 => .ok balancer
  | other => .error (.invalidExchange other)

/-- Reads a name, in which the case of ASCII letters does not count, or a number. -/
def ofText (text : String) : Except VenueError Exchange :=
  match text.map Char.toLower with
  | "none" => .ok unset
  | "uniswap" => .ok uniswap
  | "sushiswap" => .ok sushiswap
  | "balancer" => .ok balancer
  | _ => match Digits.below? 256 text.toList with
    | some n => ofNumber n
    | none => .error (.unknownExchange text)

end Exchange

end IndexBasket
