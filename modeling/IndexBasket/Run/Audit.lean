import IndexBasket.Engine.Error
import IndexBasket.Engine.Sizing
import IndexBasket.Json.Value
import IndexBasket.Number.Decimal

namespace IndexBasket

structure RunSummary where
  rounds : Nat := 0
  trades : Nat := 0
  raises : Nat := 0
  /-- Calls that were refused for another reason than a rule of the rebalance. -/
  failures : Nat := 0
  targetsMet : Bool
  endTime : Timestamp
deriving DecidableEq

inductive Operation
  | trade
  | tradeRemainingReserve
  | raiseAssetTargets
deriving DecidableEq

def Operation.name : Operation → String
  | trade => "trade"
  | tradeRemainingReserve => "trade_remaining_reserve"
  | raiseAssetTargets => "raise_asset_targets"

inductive AuditLine
  | mark (name : String)
  | runStarted (scenarioFile : String) (basket : Address) (time : Timestamp)
  | planComputed (plans : List TradePlan)
  | userConfirmed (approved : Bool)
  | event (recorded : Event) (time : Timestamp)
  | callFailed (operation : Operation) (component : Option Address) (cause : EngineError)
      (time : Timestamp)
  | runCompleted (summary : RunSummary)
deriving DecidableEq

namespace AuditLine

def name : AuditLine → String
  | mark name => name
  | runStarted .. => "run_started"
  | planComputed .. => "plan_computed"
  | userConfirmed .. => "user_confirmed"
  | event recorded _ => recorded.name
  | callFailed .. => "call_failed"
  | runCompleted .. => "run_completed"

def ofTime (time : Timestamp) : Json := .ofNat time.toNat

def ofAddress (address : Address) : Json := .ofText address.name

def ofExchange (exchange : Exchange) : Json := .ofText exchange.name

/-- Quantities are written as decimal text, so that no reader rounds them. -/
def ofAmount (amount : Amount) : Json := .ofText amount.text

def ofFixed (value : Fixed) : Json := .ofText value.text

def planFields (plan : TradePlan) : List (String × Json) :=
  [("component", ofAddress plan.component), ("direction", .ofText plan.direction.name),
   ("quantity", ofAmount plan.quantity), ("exchange", ofExchange plan.exchange),
   ("quote_in", ofAmount plan.quote.amountIn), ("quote_out", ofAmount plan.quote.amountOut)]

def eventFields : Event → List (String × Json)
  | .targetUnitsUpdated component targetUnit multiplier =>
    [("component", ofAddress component), ("target_unit", ofFixed targetUnit),
     ("position_multiplier", ofFixed multiplier)]
  | .tradeMaximumUpdated component maxSize =>
    [("component", ofAddress component), ("max_size", ofAmount maxSize)]
  | .assetExchangeUpdated component exchange =>
    [("component", ofAddress component), ("exchange", ofExchange exchange)]
  | .coolOffPeriodUpdated component period =>
    [("component", ofAddress component), ("cool_off_period", ofTime period)]
  | .traderStatusUpdated trader status => [("trader", ofAddress trader), ("status", .bool status)]
  | .anyoneTradeUpdated status => [("status", .bool status)]
  | .raiseTargetPercentageUpdated percentage => [("percentage", ofAmount percentage)]
  | .tradeExecuted trade =>
    [("component", ofAddress trade.component), ("counter_asset", ofAddress trade.counterAsset),
     ("direction", .ofText trade.direction.name), ("exchange", ofExchange trade.exchange),
     ("amount_sold", ofAmount trade.amountSold), ("amount_bought", ofAmount trade.amountBought),
     ("protocol_fee", ofAmount trade.protocolFee), ("new_component_unit", ofFixed trade.newComponentUnit),
     ("new_reserve_unit", ofFixed trade.newReserveUnit), ("timestamp", ofTime trade.timestamp)]
  | .assetTargetsRaised multiplier => [("position_multiplier", ofFixed multiplier)]

def fields : AuditLine → List (String × Json)
  | mark _ => []
  | runStarted scenarioFile basket time =>
    [("scenario_file", .ofText scenarioFile), ("basket", ofAddress basket), ("sim_time", ofTime time)]
  | planComputed plans => [("trades", .array (plans.map fun plan => .record (Json.orderedFields (planFields plan))))]
  | userConfirmed approved => [("approved", .bool approved)]
  | event recorded time => eventFields recorded ++ [("sim_time", ofTime time)]
  | callFailed operation component cause time =>
    [("operation", .ofText operation.name), ("component", (component.map ofAddress).getD .null),
     ("error", .ofText cause.message), ("sim_time", ofTime time)]
  | runCompleted summary =>
    [("rounds", .ofNat summary.rounds), ("trades", .ofNat summary.trades),
     ("raises", .ofNat summary.raises), ("failures", .ofNat summary.failures),
     ("targets_met", .bool summary.targetsMet), ("sim_time", ofTime summary.endTime)]

/-- A line that is written at a time of day. That time and the name stand in front of the
fields. -/
def form (line : AuditLine) (now : String) : Json :=
  .record (("event", .ofText line.name) :: ("ts", .ofText now) :: Json.orderedFields line.fields)

def text (line : AuditLine) (now : String) : String := (line.form now).render

end AuditLine

end IndexBasket
