import IndexBasket.Run.Host
import IndexBasket.Run.Keeper
import IndexBasket.Scenario.Build

namespace IndexBasket

structure RunOptions where
  dryRun : Bool
  /-- Trades without asking first. -/
  force : Bool
  scenarioFile : String
  maxRounds : Option Nat
deriving DecidableEq

namespace Session

abbrev Whole (α : Type) := Action RunError Session α

def start (engine : Engine) (clock : Timestamp) : Session := { engine, clock }

def step {α : Type} (act : Step α) : Whole α := Action.mapError .engine act

def keeper (config : Config) (options : RunOptions) : Keeper :=
  { trader := config.trader, sweep := config.sweep
    maxRounds := options.maxRounds.getD config.maxRounds, maxRaises := config.maxRaises }

/-! The parts of a run, between which it may have to ask. -/

/-- Tells how the run was set up, and plans its trades. -/
def survey (scenario : Scenario) (options : RunOptions) : Whole Unit := do
  step (write [.runStarted options.scenarioFile scenario.basket scenario.startTime])
  step flush
  let plans := (← get).engine.plans
  step (print (Report.planTable plans))
  step (write [.planComputed plans])

/-- Ends a run that is not to trade. -/
def rehearse : Whole RunSummary := do
  step (print ["", "[DRY RUN] No trades executed."])
  let session ← get
  return session.summary (← step (Action.ofExcept session.engine.allTargetsMet))

/-- Calls the run off unless the answer to its question is yes. -/
def heed : Except String Bool → Whole Unit
  | .error reason => throw (.aborted s!"confirmation prompt failed: {reason}")
  | .ok approved => do
    step (write [.userConfirmed approved])
    if !approved then throw (.aborted "not confirmed")

/-- Trades and reports. -/
def conduct (config : Config) (options : RunOptions) : Whole RunSummary := do
  let summary ← step (keeper config options).run
  step (write [.runCompleted summary])
  step (print ["", Report.summaryLine summary config.auditPath])
  step (printing (Report.targetTable (← get).engine))
  return summary

end Session

variable {m : Type → Type} [Monad m]

/-- Puts one thing out. A line of the trail may fail to be written. -/
def Output.tell [Host m] (path : String) : Output → ExceptT FileError m Unit
  | printed line => liftM (Terminal.printLine line : m Unit)
  | written line => do
    let now ← liftM (Clock.now : m String)
    ExceptT.mk (Disk.append path (line.text now))

def Report.tell [Terminal m] (lines : List String) : m Unit := lines.forM Terminal.printLine

namespace Session

variable [Host m]

/-- A computation of a run that reaches its host. -/
abbrev Live (m : Type → Type) (α : Type) := StateT Session (ExceptT RunError m) α

def tellAll (path : String) (outputs : List Output) : ExceptT RunError m Unit :=
  ExceptT.adapt .audit (outputs.forM (Output.tell path))

/-- Does a part of a run, and tells the host line by line what it puts out. The first line
that cannot be written ends the run there. -/
def carryOut {α : Type} (path : String) (part : Whole α) : Live m α := fun before => do
  let (outcome, after) := part.ending before
  tellAll path (after.outputs.drop before.outputs.length)
  return (← MonadExcept.ofExcept outcome, after)

/-- Asks whether to trade, unless that is settled. -/
def consult (path : String) (options : RunOptions) : Live m Unit := do
  if !options.force then
    let answer ← liftM (Terminal.confirm "Execute?" : m (Except String Bool))
    carryOut path (heed answer)

def execute (config : Config) (scenario : Scenario) (options : RunOptions) : Live m RunSummary := do
  carryOut config.auditPath (survey scenario options)
  if options.dryRun then carryOut config.auditPath rehearse
  else
    consult config.auditPath options
    carryOut config.auditPath (conduct config options)

end Session

namespace Scenario

/-- Builds the engine, opens the audit log and runs the rebalance. -/
def run [Host m] (scenario : Scenario) (config : Config) (options : RunOptions) : m (Except RunError RunSummary) := do
  match scenario.build config with
  | .error cause => return .error cause
  | .ok engine =>
    match ← Disk.openLog config.auditPath with
    | .error cause => return .error (.audit cause)
    | .ok () =>
      let ending ← (Session.execute config scenario options (Session.start engine scenario.startTime)).run
      return ending.map Prod.fst

variable [Terminal m]

def showPlan (scenario : Scenario) (config : Config) : m (Except RunError Unit) := do
  match scenario.build config with
  | .error cause => return .error cause
  | .ok engine =>
    Report.tell (Report.planTable engine.plans)
    return .ok ()

def showTargets (scenario : Scenario) (config : Config) : m (Except RunError Unit) := do
  match scenario.build config with
  | .error cause => return .error cause
  | .ok engine =>
    let (outcome, lines) := (Report.targetTable engine).ending []
    Report.tell lines
    return outcome.mapError .engine

end Scenario

end IndexBasket
