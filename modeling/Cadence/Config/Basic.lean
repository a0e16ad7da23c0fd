import Cadence.Json.Decode
import Cadence.Text.Blank

/-!
# Configuration

The settings of a run in four sections. Every section and every field may be left out and then has
its default. `Config.applyOverrides` is the override from outside: an unsigned number in digits,
white space around it allowed.
-/

namespace Cadence

/-- What a failure does to the run. -/
inductive FailurePolicy where
  | abort
  | carryOn
  deriving DecidableEq, Repr, Inhabited

/-- How the participants of a tick are stepped. -/
inductive ExecutionMode where
  | sequential
  | concurrent
  deriving DecidableEq, Repr, Inhabited

/-- The form of log lines. -/
inductive LogFormat where
  | text
  | json
  deriving DecidableEq, Repr, Inhabited

/-- Bounds of a run; zero is no bound. -/
structure BoundsConfig where
  maxTicks : UInt64 := 100
  maxRealTimeSeconds : UInt64 := 0
  deriving DecidableEq, Repr, Inhabited

/-- How ticks are driven. -/
structure DriverConfig where
  tickIntervalMs : UInt64 := 0
  execution : ExecutionMode := .sequential
  componentFailure : FailurePolicy := .abort
  actionFailure : FailurePolicy := .carryOn
  deriving DecidableEq, Repr, Inhabited

/-- What is logged and how. -/
structure LoggingConfig where
  level : String := "info"
  format : LogFormat := .text
  deriving DecidableEq, Repr, Inhabited

/-- The size of the demonstration. -/
structure ScenarioConfig where
  walkers : UInt32 := 4
  ringSize : UInt32 := 12
  seed : UInt64 := 42
  recordState : Bool := true
  deriving DecidableEq, Repr, Inhabited

/-- The settings of a run. -/
structure Config where
  simulation : BoundsConfig := {}
  driver : DriverConfig := {}
  logging : LoggingConfig := {}
  scenario : ScenarioConfig := {}
  deriving DecidableEq, Repr, Inhabited

/-- Why there is no configuration. -/
inductive ConfigError where
  /-- The file cannot be read. -/
  | io (reason : String)
  /-- The text is no configuration. -/
  | yaml
  /-- A scalar of the text joins two words over more white space than its buffer has room for. -/
  | overflow
  /-- The value of an override is no number. -/
  | override (name value : String)
  deriving DecidableEq, Repr

namespace ConfigError

/-- The text of the cause. -/
def message : ConfigError → String
  | io reason => "failed to read config file: " ++ reason
  | yaml => "failed to parse config YAML"
  | overflow => "String join would overflow memory bounds"
  | override name value => "invalid value `" ++ value ++ "` for " ++ name

end ConfigError

/-! ## The choices -/

namespace FailurePolicy

/-- The policies by name. -/
def choices : List (String × FailurePolicy) := [("abort", abort), ("continue", carryOn)]

/-- A policy as a value. -/
def encode : FailurePolicy → Value
  | abort => .string "abort"
  | carryOn => .string "continue"

/-- How a policy shows in a debug text. -/
def debugText : FailurePolicy → String
  | abort => "Abort"
  | carryOn => "Continue"

end FailurePolicy

namespace ExecutionMode

/-- The modes by name. -/
def choices : List (String × ExecutionMode) :=
  [("sequential", sequential), ("concurrent", concurrent)]

/-- A mode as a value. -/
def encode : ExecutionMode → Value
  | sequential => .string "sequential"
  | concurrent => .string "concurrent"

/-- How a mode shows in a debug text. -/
def debugText : ExecutionMode → String
  | sequential => "Sequential"
  | concurrent => "Concurrent"

end ExecutionMode

namespace LogFormat

/-- The formats by name. -/
def choices : List (String × LogFormat) := [("text", text), ("json", json)]

/-- A format as a value. -/
def encode : LogFormat → Value
  | text => .string "text"
  | json => .string "json"

end LogFormat

/-! ## Values -/

namespace BoundsConfig

/-- Bounds as a value. -/
def encode (c : BoundsConfig) : Value :=
  .ofFields [("max_ticks", .nat c.maxTicks.toNat),
    ("max_real_time_seconds", .nat c.maxRealTimeSeconds.toNat)]

/-- Read bounds. -/
def decode (v : Value) : Except DecodeError BoundsConfig := do
  let r ← Record.ofValue "SimulationBoundsConfig" ["max_ticks", "max_real_time_seconds"] v
  let defaults : BoundsConfig := {}
  let maxTicks ← r.orElse "max_ticks" Decode.uint64 defaults.maxTicks
  let maxRealTimeSeconds ←
    r.orElse "max_real_time_seconds" Decode.uint64 defaults.maxRealTimeSeconds
  r.done ⟨maxTicks, maxRealTimeSeconds⟩

end BoundsConfig

namespace DriverConfig

/-- Driver settings as a value. -/
def encode (c : DriverConfig) : Value :=
  .ofFields [("tick_interval_ms", .nat c.tickIntervalMs.toNat), ("execution", c.execution.encode),
    ("component_failure", c.componentFailure.encode), ("action_failure", c.actionFailure.encode)]

/-- Read driver settings. -/
def decode (v : Value) : Except DecodeError DriverConfig := do
  let r ← Record.ofValue "DriverConfig"
    ["tick_interval_ms", "execution", "component_failure", "action_failure"] v
  let defaults : DriverConfig := {}
  let tickIntervalMs ← r.orElse "tick_interval_ms" Decode.uint64 defaults.tickIntervalMs
  let execution ← r.orElse "execution" (Decode.choice ExecutionMode.choices) defaults.execution
  let componentFailure ←
    r.orElse "component_failure" (Decode.choice FailurePolicy.choices) defaults.componentFailure
  let actionFailure ←
    r.orElse "action_failure" (Decode.choice FailurePolicy.choices) defaults.actionFailure
  r.done ⟨tickIntervalMs, execution, componentFailure, actionFailure⟩

/-- How driver settings show in a debug text. -/
def debugText (c : DriverConfig) : String :=
  "DriverConfig \x7b tick_interval_ms: " ++ toString c.tickIntervalMs.toNat ++ ", execution: " ++
    c.execution.debugText ++ ", component_failure: " ++ c.componentFailure.debugText ++
    ", action_failure: " ++ c.actionFailure.debugText ++ " \x7d"

end DriverConfig

namespace LoggingConfig

/-- Logging settings as a value. -/
def encode (c : LoggingConfig) : Value :=
  .ofFields [("level", .string c.level), ("format", c.format.encode)]

/-- Read logging settings. -/
def decode (v : Value) : Except DecodeError LoggingConfig := do
  let r ← Record.ofValue "LoggingConfig" ["level", "format"] v
  let defaults : LoggingConfig := {}
  let level ← r.orElse "level" Decode.text defaults.level
  let format ← r.orElse "format" (Decode.choice LogFormat.choices) defaults.format
  r.done ⟨level, format⟩

end LoggingConfig

namespace ScenarioConfig

/-- Scenario settings as a value. -/
def encode (c : ScenarioConfig) : Value :=
  .ofFields [("walkers", .nat c.walkers.toNat), ("ring_size", .nat c.ringSize.toNat),
    ("seed", .nat c.seed.toNat), ("record_state", .bool c.recordState)]

/-- Read scenario settings. -/
def decode (v : Value) : Except DecodeError ScenarioConfig := do
  let r ← Record.ofValue "ScenarioConfig" ["walkers", "ring_size", "seed", "record_state"] v
  let defaults : ScenarioConfig := {}
  let walkers ← r.orElse "walkers" Decode.uint32 defaults.walkers
  let ringSize ← r.orElse "ring_size" Decode.uint32 defaults.ringSize
  let seed ← r.orElse "seed" Decode.uint64 defaults.seed
  let recordState ← r.orElse "record_state" Decode.bool defaults.recordState
  r.done ⟨walkers, ringSize, seed, recordState⟩

end ScenarioConfig

namespace Config

/-- A configuration as a value. -/
def encode (c : Config) : Value :=
  .ofFields [("simulation", c.simulation.encode), ("driver", c.driver.encode),
    ("logging", c.logging.encode), ("scenario", c.scenario.encode)]

/-- Read a configuration. -/
def decode (v : Value) : Except DecodeError Config := do
  let r ← Record.ofValue "KernelConfig" ["simulation", "driver", "logging", "scenario"] v
  let simulation ← r.orElse "simulation" BoundsConfig.decode {}
  let driver ← r.orElse "driver" DriverConfig.decode {}
  let logging ← r.orElse "logging" LoggingConfig.decode {}
  let scenario ← r.orElse "scenario" ScenarioConfig.decode {}
  r.done ⟨simulation, driver, logging, scenario⟩

/-! ## The override -/

/-- The variable that overrides the tick limit. -/
def maxTicksVariable : String := "LOCKSTEP_MAX_TICKS"

/-- The value of a decimal digit. -/
def digit? (c : Char) : Option Nat :=
  if '0' ≤ c ∧ c ≤ '9' then some (c.toNat - 0x30) else none

/-- Digits read onto a number. -/
def readDigits : Nat → List Char → Option Nat
  | n, [] => some n
  | n, c :: rest => (digit? c).bind fun d => readDigits (n * 10 + d) rest

/-- The characters without one plus sign in front. -/
def dropPlus : List Char → List Char
  | '+' :: rest => rest
  | cs => cs

/-- The unsigned word that a text writes: an optional plus sign and at least one digit. -/
def readWord? (cs : List Char) : Option UInt64 :=
  match dropPlus cs with
  | [] => none
  | ds => (readDigits 0 ds).bind fun n => if n ≤ maxUInt64 then some (UInt64.ofNat n) else none

/-- Apply the overrides that a look-up of variables finds: the answer, and the configuration after
it. A value that is no number is refused, and the configuration stays as it is. -/
def applyOverrides (c : Config) (lookup : String → Option String) :
    Except ConfigError Unit × Config :=
  match lookup maxTicksVariable with
  | none => (.ok (), c)
  | some raw =>
    match readWord? (Text.trim raw.toList) with
    | some n => (.ok (), { c with simulation := { c.simulation with maxTicks := n } })
    | none => (.error (.override maxTicksVariable raw), c)

/-- The configuration with the tick limit overridden, if a value is supplied. -/
def withMaxTicks (c : Config) (supplied : Option String) : Except ConfigError Config :=
  let (result, c) := c.applyOverrides fun name => if name = maxTicksVariable then supplied else none
  result.map fun _ => c

end Config

end Cadence
