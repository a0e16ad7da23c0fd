import Cadence.Config.Document
import Cadence.Log.Filter
import Cadence.Scenario.Basic

/-!
# The engine

From a configuration file, the override of the tick limit and a filter to a run of the
demonstration: `Engine.run` answers with how it ended and the log events that were written on the
way. A run without a file has the default configuration.
-/

namespace Cadence.Engine

/-- The part that reports what the engine itself does. -/
def target : String := "lockstep_engine"

/-- The path of the configuration unless another one is given. -/
def defaultPath : String := "lockstep-config.yaml"

/-- What surrounds the engine when it is started. -/
structure Start where
  arguments : List String := []
  /-- The override of the tick limit. -/
  maxTicks : Option String := none
  /-- The filter that goes before the configured one. -/
  filter : Option String := none

/-- How the engine stopped. -/
inductive Stop where
  | finished
  | failed (cause : EngineError)
  /-- It broke off for a cause that no part of it answers for. -/
  | brokeOff (reason : String)
  deriving DecidableEq, Repr

/-- How the engine ended, and the events it wrote. -/
structure End where
  stop : Stop
  events : List Event := []

namespace Start

/-- The path of the configuration. -/
def path (s : Start) : String := s.arguments.head?.getD defaultPath

end Start

namespace Stop

/-- The exit code. -/
def code : Stop → Nat
  | finished => 0
  | failed _ => 1
  | brokeOff _ => 101

/-- What is told about it on the error stream, if anything. -/
def message? : Stop → Option String
  | finished => none
  | failed cause => some ("Error: " ++ cause.message)
  | brokeOff reason => some reason

/-- The error that it stopped with. -/
def error? : Stop → Option EngineError
  | failed cause => some cause
  | _ => none

end Stop

/-- The configuration of a file, or the defaults if there is none; the override applies to both. -/
def configOf (file : Config.File) (maxTicks : Option String) : Except ConfigError Config :=
  match file with
  | .missing => ({} : Config).withMaxTicks maxTicks
  | file => Config.ofFile file maxTicks

/-- Whether there is a file. -/
def isFound : Config.File → Bool
  | .missing => false
  | _ => true

/-- What a configuration error does to the engine: a scalar that overflows its buffer breaks it off.
-/
def stopFor : ConfigError → Stop
  | .overflow => .brokeOff ConfigError.overflow.message
  | e => .failed (.config e)

/-- What a fault of the configured filter does to the engine. -/
def stopForFilter (configured : String) : FilterFault → Stop
  | .invalid => .failed (.logging (.invalidFilter configured))
  | .insideCharacter => .brokeOff "the place in a filter lies inside a character"

/-- The filter of a run: the one given from outside if it is one, else the configured one. -/
def filterOf (given : Option String) (configured : String) : Except Stop Filter :=
  match given.map Filter.ofText with
  | some (.ok f) => .ok f
  | some (.error .insideCharacter) => .error (stopForFilter configured .insideCharacter)
  | some (.error .invalid) | none => (Filter.ofText configured).mapError (stopForFilter configured)

/-- The events before the run. -/
def openingEvents (path : String) (found : Bool) (c : Config) : List Event :=
  [⟨.info, target, "lockstep-engine starting", []⟩,
    ⟨.info, target,
      if found then "Configuration loaded" else "Config file not found, using defaults",
      [("path", .string path)]⟩,
    ⟨.info, target, "Simulation configured",
      [("max_ticks", .nat c.simulation.maxTicks.toNat),
        ("max_real_time_seconds", .nat c.simulation.maxRealTimeSeconds.toNat),
        ("tick_interval_ms", .nat c.driver.tickIntervalMs.toNat),
        ("execution", .string c.driver.execution.debugText),
        ("walkers", .nat c.scenario.walkers.toNat), ("ring_size", .nat c.scenario.ringSize.toNat),
        ("seed", .nat c.scenario.seed.toNat)]⟩]

/-- The event after a run that came to its end. -/
def closingEvent (r : Scenario.Result) (o : Operator) : Event :=
  ⟨.info, target, "lockstep-engine finished",
    [("walkers", .nat r.ring.positions.size), ("occupied", .nat r.ring.occupied),
      ("collisions", .nat r.ring.collisions.toNat), ("tally", .nat r.tally),
      ("recorded_rows", .nat r.recordedRows), ("elapsed_seconds", .nat o.elapsedSeconds)]⟩

/-- The events that are written: those that the filter lets through, if the form of the log keeps
events apart. -/
def written (format : LogFormat) (f : Filter) (events : List Event) : List Event :=
  match format with
  | .json => events.filter f.admits
  | .text => []

/-- Run the engine. -/
def run (start : Start) (file : Config.File) (ids : Scenario.Identifiers) : End :=
  match configOf file start.maxTicks with
  | .error e => { stop := stopFor e }
  | .ok config =>
    match filterOf start.filter config.logging.level with
    | .error stop => { stop := stop }
    | .ok filter =>
      let operator := Operator.new config.driver.tickIntervalMs config.simulation
      let ended := Scenario.run config operator ids
      let opening := openingEvents start.path (isFound file) config
      let write := written config.logging.format filter
      match ended.result with
      | .error e => ⟨.failed e, write (opening ++ ended.events)⟩
      | .ok result =>
        ⟨.finished, write (opening ++ ended.events ++ [closingEvent result ended.operator])⟩

end Cadence.Engine
