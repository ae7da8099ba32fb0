import IndexBasket.Engine.Sizing
import IndexBasket.Number.Decimal
import IndexBasket.Run.Audit
import IndexBasket.Text.Aligned

namespace IndexBasket

namespace Report

open Text

/-- Printed lines. What was printed before a failure stays printed. -/
abbrev Printing := Action EngineError (List String)

def print (lines : List String) : Printing Unit :=
  modify (· ++ lines)

def planRow (number side component quantity exchange quoteIn quoteOut : String) : String :=
  "  " ++ alignRight 3 number ++ "  " ++ String.intercalate " "
    [alignLeft 5 side, alignLeft 10 component, alignRight 24 quantity, alignLeft 10 exchange,
     alignRight 24 quoteIn, alignRight 24 quoteOut]

def planTable (plans : List TradePlan) : List String :=
  if plans.isEmpty then ["", "No trades needed: every component is at target."]
  else ["", "PLANNED TRADES:", planRow "#" "Side" "Component" "Quantity" "Exchange" "Quote in" "Quote out"] ++
    plans.zipIdx.map fun (plan, index) =>
      planRow (toString (index + 1)) plan.direction.name plan.component.name plan.quantity.text
        plan.exchange.name plan.quote.amountIn.text plan.quote.amountOut.text

def tradeLine (trade : Trade) : String :=
  alignLeft 5 trade.direction.name ++ "  " ++ trade.component.name ++ " on " ++ trade.exchange.name ++
    ": sold " ++ trade.amountSold.text ++ ", bought " ++ trade.amountBought.text ++
    " (fee " ++ trade.protocolFee.text ++ ") -> unit " ++ trade.newComponentUnit.text

def raiseLine (snapshot : Fixed) : String :=
  "RAISE  targets, snapshot multiplier " ++ snapshot.text

def targetRow (component unit target exchange status : String) : String :=
  "  " ++ String.intercalate " "
    [alignLeft 10 component, alignRight 26 unit, alignRight 26 target, alignLeft 10 exchange,
     alignRight 8 status]

def status (unit target : Fixed) : String :=
  if unit = target then "met" else if unit < target then "under" else "over"

/-- The units of all components beside their targets, and that of the reserve. -/
def targetTable (engine : Engine) : Printing Unit := do
  let basket := engine.basket
  print ["", s!"BASKET {basket.address} (supply {basket.totalSupply.text}, " ++
    s!"multiplier {basket.ledger.multiplier.text}):",
    targetRow "Component" "Unit" "Target" "Exchange" "Status"]
  engine.rebalanceComponents.forM fun component => do
    let unit := engine.defaultRealUnit component
    let target ← engine.targetUnit component
    print [targetRow component.name unit.text target.text (engine.info component).exchange.name
      (status unit target)]
  print ["  " ++ alignLeft 10 engine.reserve.name ++ " " ++ alignRight 26 engine.reserveUnit.text]

def summaryLine (summary : RunSummary) (auditPath : String) : String :=
  s!"{summary.rounds} rounds, {summary.trades} trades, {summary.raises} raises, " ++
    s!"{summary.failures} failures. Audit logged to {auditPath}"

def textOf (lines : List String) : String :=
  String.join (lines.map (· ++ "\n"))

end Report

end IndexBasket
