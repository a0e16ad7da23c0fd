import Cadence.Simulation.Run

/-!
# Errors of the engine

The causes for which the engine ends without a result, and their texts.
-/

namespace Cadence

/-- Why logging cannot be set up: the given text is no filter. -/
inductive LogError where
  | invalidFilter (text : String)
  deriving DecidableEq, Repr

/-- Why a scenario cannot be run or read. -/
inductive ScenarioFault where
  | emptyRing
  | unreadable (cause : HandlerError)
  deriving DecidableEq, Repr

/-- Why the engine fails. -/
inductive EngineError where
  | config (cause : ConfigError)
  | environment (cause : EnvironmentError)
  /-- A component cannot be added. -/
  | setup (cause : TickError)
  | runner (cause : RunError)
  | storage (cause : DbError)
  | logging (cause : LogError)
  | scenario (fault : ScenarioFault)
  deriving DecidableEq, Repr

namespace LogError

/-- The text of the cause. -/
def message : LogError → String
  | invalidFilter text => "invalid log level " ++ Text.quoted text

end LogError

namespace ScenarioFault

/-- The text of the fault. -/
def message : ScenarioFault → String
  | emptyRing => "ring_size must be at least 1"
  | unreadable cause => cause.message

end ScenarioFault

namespace EngineError

/-- The text of the cause. -/
def message : EngineError → String
  | config cause => "config error: " ++ cause.message
  | environment cause => "environment error: " ++ cause.message
  | setup cause => "setup error: " ++ cause.message
  | runner cause => "runner error: " ++ cause.message
  | storage cause => "storage error: " ++ cause.message
  | logging cause => "logging error: " ++ cause.message
  | scenario fault => "scenario error: " ++ fault.message

end EngineError

end Cadence
