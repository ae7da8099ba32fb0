import IndexBasket.Engine.Trading
import IndexBasket.Run.Report

namespace IndexBasket

namespace CallContext

def external (caller : Address) (timestamp : Timestamp) : CallContext :=
  { caller, kind := .externallyOwned, timestamp }

end CallContext

namespace Engine

/-- The routed components that `tradeSize` wants to move in a direction. -/
def tradable (engine : Engine) (direction : TradeDirection) : List Address :=
  engine.rebalanceComponents.filter fun component =>
    (engine.info component).exchange ≠ .unset &&
      match engine.tradeSize component with
      | .ok (wanted, _) => wanted = direction
      | .error _ => false

/-- The routed components that are off target, those to sell before those to buy. -/
def tradeOrder (engine : Engine) : List Address :=
  engine.tradable .sell ++ engine.tradable .buy

/-- The first moment after now at which a component that is off target may be
traded again. -/
def nextWakeup (engine : Engine) (now : Timestamp) : Option Timestamp :=
  ((engine.tradeOrder.map fun component => (engine.info component).nextTradeTime).filter (now < ·)).min?

def plans (engine : Engine) : List TradePlan :=
  engine.rebalanceComponents.filterMap fun component => (engine.planTrade component).toOption

end Engine

/-- What a run puts out: lines for the terminal and lines for the trail. -/
inductive Output
  | printed (line : String)
  | written (line : AuditLine)
deriving DecidableEq

namespace Output

def printed? : Output → Option String
  | printed line => some line
  | written _ => none

def written? : Output → Option AuditLine
  | printed _ => none
  | written line => some line

end Output

/-- A run in progress: the engine, the simulated clock, what has been counted, and what has
been put out. -/
structure Session where
  engine : Engine
  clock : Timestamp
  rounds : Nat := 0
  trades : Nat := 0
  raises : Nat := 0
  failures : Nat := 0
  outputs : List Output := []
deriving DecidableEq

namespace Session

def printed (session : Session) : List String := session.outputs.filterMap Output.printed?

def trail (session : Session) : List AuditLine := session.outputs.filterMap Output.written?

abbrev Step (α : Type) := Action EngineError Session α

def put (outputs : List Output) : Step Unit :=
  modify fun session => { session with outputs := session.outputs ++ outputs }

def print (lines : List String) : Step Unit := put (lines.map .printed)

def write (lines : List AuditLine) : Step Unit := put (lines.map .written)

def printing (report : Report.Printing Unit) : Step Unit :=
  Action.within (fun _ => [])
    (fun lines session => { session with outputs := session.outputs ++ lines.map .printed }) id report

/-- Makes a call of the engine. Its failure is an answer and no failure of the run. -/
def attempt {α : Type} (call : Engine.Call α) : Step (Except EngineError α) := fun session =>
  match call session.engine with
  | .ok value engine => .ok (.ok value) { session with engine }
  | .error cause engine => .ok (.error cause) { session with engine }

/-- Moves the events that the engine has recorded to the trail. -/
def flush : Step Unit := do
  let session ← get
  match Engine.takeEvents session.engine with
  | .ok events engine =>
    set { session with engine }
    write (events.map (AuditLine.event · session.clock))
  | .error cause _ => throw cause

/-- Counts a refused call and writes it down, unless a rule of the rebalance refused it. -/
def refuse (operation : Operation) (component : Option Address) (cause : EngineError) : Step Unit := do
  if !cause.isRuleViolation then
    modify fun session => { session with failures := session.failures + 1 }
    write [.callFailed operation component cause (← get).clock]

def settled (trade : Trade) : Step Unit := do
  print [Report.tradeLine trade]
  modify fun session => { session with trades := session.trades + 1 }

def summary (session : Session) (targetsMet : Bool) : RunSummary :=
  { rounds := session.rounds, trades := session.trades, raises := session.raises
    failures := session.failures, targetsMet, endTime := session.clock }

end Session

/-- Drives an engine on a simulated clock until its targets are met. -/
structure Keeper where
  trader : Address
  /-- The component that takes up the reserve that is left. -/
  sweep : Option Address
  maxRounds : Nat
  maxRaises : Nat
deriving DecidableEq

namespace Keeper

open Session

def context (keeper : Keeper) : Step CallContext :=
  return .external keeper.trader (← get).clock

/-- Trades components one after the other. Tells whether any trade succeeded. -/
def tradeAll (keeper : Keeper) : List Address → Step Bool
  | [] => pure false
  | component :: rest => do
    match ← attempt (Engine.trade (← keeper.context) component) with
    | .ok trade =>
      settled trade
      let _ ← keeper.tradeAll rest
      return true
    | .error cause =>
      refuse .trade (some component) cause
      keeper.tradeAll rest

/-- Spends the reserve on the component for it, if there is one and nothing is
left to sell. Tells whether that succeeded. -/
def sweepReserve (keeper : Keeper) : Step Bool := do
  let some component := keeper.sweep | return false
  let engine := (← get).engine
  if engine.reserveUnit ≤ Fixed.zero then return false
  if !(← engine.noTokensToSell) then return false
  match ← attempt (Engine.tradeRemainingReserve (← keeper.context) component) with
  | .ok trade =>
    settled trade
    flush
    return true
  | .error cause =>
    refuse .tradeRemainingReserve (some component) cause
    flush
    return false

/-- Raises the targets while raises and reserve are left. Tells whether that succeeded. -/
def raiseTargets (keeper : Keeper) : Step Bool := do
  let session ← get
  if keeper.maxRaises ≤ session.raises || session.engine.reserveUnit ≤ Fixed.zero then return false
  match ← attempt (Engine.raiseAssetTargets (← keeper.context)) with
  | .ok snapshot =>
    print [Report.raiseLine snapshot]
    modify fun session => { session with raises := session.raises + 1 }
    flush
    return true
  | .error cause =>
    refuse .raiseAssetTargets none cause
    return false

/-- Waits until a component may be traded again. Without one to wait for the run
has come to its end. -/
def wait : Step Bool := do
  let session ← get
  match session.engine.nextWakeup session.clock with
  | some time =>
    set { session with clock := time }
    return true
  | none => return false

/-- One round: all trades, and then a raise, a sweep or a wait. Tells whether
another round is to follow. -/
def round (keeper : Keeper) : Step Bool := do
  modify fun session => { session with rounds := session.rounds + 1 }
  let progressed ← keeper.tradeAll (← get).engine.tradeOrder
  flush
  if ← (← get).engine.allTargetsMet then
    if ← keeper.raiseTargets then return true
    let _ ← keeper.sweepReserve
    return false
  if progressed then return true
  if ← keeper.sweepReserve then return true
  wait

/-- Rounds up to a largest number. -/
def rounds (keeper : Keeper) : Nat → Step Unit
  | 0 => pure ()
  | left + 1 => do
    if ← keeper.round then keeper.rounds left

def run (keeper : Keeper) : Step RunSummary := do
  keeper.rounds keeper.maxRounds
  let session ← get
  return session.summary (← session.engine.allTargetsMet)

end Keeper

end IndexBasket
