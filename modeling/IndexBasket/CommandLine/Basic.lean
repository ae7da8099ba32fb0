import IndexBasket.CommandLine.Help
import IndexBasket.Run.Basic

namespace IndexBasket

namespace CommandLine

/-- What the program hands back: an exit code, and two texts beside what its command has
printed. -/
structure Outcome where
  code : UInt32 := 0
  output : String := ""
  complaint : String := ""
deriving DecidableEq

def Refusal.outcome : Refusal → Outcome
  | .help topic => { output := helpText topic }
  | .version => { output := versionText }
  | .usage problem =>
    { code := 2, complaint := s!"error: {problem}\n\nFor more information, try --help.\n" }

/-- What a failure of a command means: a run that was called off is no failure,
and a rule of the rebalance has an exit code of its own. -/
def failed : RunError → Outcome
  | .aborted reason => { complaint := s!"Aborted: {reason}\n" }
  | cause =>
    if cause.isRuleViolation then { code := 2, complaint := s!"\nRejected: {cause.message}\n" }
    else { code := 1, complaint := s!"Error: {cause.message}\n" }

def conclude {α : Type} (remark : α → String) : Except RunError α → Outcome
  | .ok value => { complaint := remark value }
  | .error cause => failed cause

def remark (summary : RunSummary) : String :=
  if summary.targetsMet then "" else "Warning: run ended with targets not met\n"

variable {m : Type → Type} [Monad m] [Host m]

def loadConfig (path : String) : m (Except RunError Config) := do
  return ((← Disk.readText path).mapError (RunError.configRead path)).bind Config.ofText

def loadScenario (path : String) : m (Except RunError Scenario) := do
  return ((← Disk.readText path).mapError (RunError.scenarioRead path)).bind Scenario.ofText

def perform (command : Command) (config : Config) (scenario : Scenario) : m Outcome := do
  match command with
  | .run scenarioFile dryRun force maxRounds =>
    return conclude remark (← scenario.run config { dryRun, force, scenarioFile, maxRounds })
  | .plan _ => return conclude (fun _ => "") (← scenario.showPlan config)
  | .targets _ => return conclude (fun _ => "") (← scenario.showTargets config)

/-- Reads the arguments, the configuration and the scenario, and runs the command. -/
def execute (arguments : List String) : m Outcome := do
  match parse none arguments with
  | .error refusal => return refusal.outcome
  | .ok invocation =>
    match ← loadConfig invocation.config with
    | .error cause => return { code := 1, complaint := s!"Error loading config: {cause.message}\n" }
    | .ok config =>
      match ← loadScenario invocation.command.scenario with
      | .error cause => return { code := 1, complaint := s!"Error loading scenario: {cause.message}\n" }
      | .ok scenario => perform invocation.command config scenario

end CommandLine

end IndexBasket
