import IndexBasket.Config.Fault
import IndexBasket.Engine.Error
import IndexBasket.Files.Error
import IndexBasket.Scenario.Fault

namespace IndexBasket

inductive RunError
  | config (fault : ConfigFault)
  | configRead (path : String) (cause : FileError)
  | configParse
  | scenario (fault : ScenarioFault)
  | scenarioRead (path : String) (cause : FileError)
  | scenarioParse
  | engine (cause : EngineError)
  | aborted (reason : String)
  | audit (cause : FileError)
deriving DecidableEq

namespace RunError

def name : RunError → String
  | config .. => "Config"
  | configRead .. => "ConfigRead"
  | configParse => "ConfigParse"
  | scenario .. => "Scenario"
  | scenarioRead .. => "ScenarioRead"
  | scenarioParse => "ScenarioParse"
  | engine cause => cause.name
  | aborted .. => "Aborted"
  | audit .. => "Audit"

/-- Where a text cannot be parsed, the message does not say why. -/
def message : RunError → String
  | config fault => s!"config error: {fault.message}"
  | configRead path cause => s!"failed to read config file {path}: {cause.message}"
  | configParse => "failed to parse config:"
  | scenario fault => s!"scenario error: {fault.message}"
  | scenarioRead path cause => s!"failed to read scenario file {path}: {cause.message}"
  | scenarioParse => "failed to parse scenario JSON:"
  | engine cause => cause.message
  | aborted reason => s!"execution aborted: {reason}"
  | audit cause => s!"audit log error: {cause.message}"

def isRuleViolation : RunError → Bool
  | engine cause => cause.isRuleViolation
  | _ => false

end RunError

end IndexBasket
