import Cadence.Config.Basic

/-!
# The operator

What a controller says about a run while it goes on: pause and resume, a request to stop, the
interval between ticks, and the bounds it was given at the start. It also keeps why the run ended.
-/

namespace Cadence

/-- Why a run ended. -/
inductive EndReason where
  | maxTicksReached
  | maxRealTimeReached
  | operatorStop
  deriving DecidableEq, Repr, Inhabited

namespace EndReason

/-- The reasons by name. -/
def choices : List (String × EndReason) :=
  [("max_ticks_reached", maxTicksReached), ("max_real_time_reached", maxRealTimeReached),
    ("operator_stop", operatorStop)]

/-- A reason as a value. -/
def encode : EndReason → Value
  | maxTicksReached => .string "max_ticks_reached"
  | maxRealTimeReached => .string "max_real_time_reached"
  | operatorStop => .string "operator_stop"

/-- Read a reason. -/
def decode (v : Value) : Except DecodeError EndReason := Decode.choice choices v

end EndReason

/-- The controls of a run. -/
structure Operator where
  paused : Bool := false
  stopRequested : Bool := false
  tickIntervalMs : UInt64 := 0
  maxTicks : UInt64 := 0
  maxRealTimeSeconds : UInt64 := 0
  /-- Real time since the start, in milliseconds. -/
  elapsedMs : Nat := 0
  endReason : Option EndReason := none
  deriving DecidableEq, Repr, Inhabited

/-- What a controller can do. -/
inductive OperatorCommand where
  | pause
  | resume
  | stop
  | setInterval (ms : UInt64)
  deriving DecidableEq, Repr

namespace Operator

/-- The longest interval between ticks. -/
def longestIntervalMs : UInt64 := 3600000

/-- The controls at the start of a run. -/
def new (tickIntervalMs : UInt64) (bounds : BoundsConfig) : Operator where
  tickIntervalMs := min tickIntervalMs longestIntervalMs
  maxTicks := bounds.maxTicks
  maxRealTimeSeconds := bounds.maxRealTimeSeconds

/-- Change the interval between ticks: the one before, or nothing when the new one is too long. -/
def setInterval (o : Operator) (ms : UInt64) : Option UInt64 × Operator :=
  if longestIntervalMs < ms then (none, o)
  else (some o.tickIntervalMs, { o with tickIntervalMs := ms })

/-- Do what a controller says. -/
def obey (o : Operator) : OperatorCommand → Operator
  | .pause => { o with paused := true }
  | .resume => { o with paused := false }
  | .stop => { o with stopRequested := true }
  | .setInterval ms => (o.setInterval ms).2

/-- Whether the run has to wait: it is paused and nobody asks it to stop. -/
def waits (o : Operator) : Bool := o.paused && !o.stopRequested

/-- Whether a tick is at or beyond the tick limit, if there is one. -/
def tickLimitReached (o : Operator) (tick : UInt64) : Bool := 0 < o.maxTicks && o.maxTicks ≤ tick

/-- Real time since the start, in whole seconds. -/
def elapsedSeconds (o : Operator) : Nat := o.elapsedMs / 1000

/-- Whether the limit of real time is reached, if there is one. -/
def timeLimitReached (o : Operator) : Bool :=
  0 < o.maxRealTimeSeconds && o.maxRealTimeSeconds.toNat ≤ o.elapsedSeconds

/-- Let the given time pass. -/
def pass (o : Operator) (ms : Nat) : Operator := { o with elapsedMs := o.elapsedMs + ms }

/-- Keep why the run ended. -/
def setEnd (o : Operator) (reason : EndReason) : Operator := { o with endReason := some reason }

end Operator

/-- A report on a run. -/
structure RunStatus where
  tick : UInt64
  paused : Bool
  stopRequested : Bool
  tickIntervalMs : UInt64
  elapsedSeconds : UInt64
  maxTicks : UInt64
  maxRealTimeSeconds : UInt64
  participants : UInt64
  endReason : Option EndReason
  startedAt : String
  deriving DecidableEq, Repr

namespace RunStatus

/-- The fields of a report that do not depend on real time. -/
def timeless (s : RunStatus) : List (String × Value) :=
  [("tick", .nat s.tick.toNat), ("paused", .bool s.paused),
    ("stop_requested", .bool s.stopRequested),
    ("tick_interval_ms", .nat s.tickIntervalMs.toNat), ("max_ticks", .nat s.maxTicks.toNat),
    ("max_real_time_seconds", .nat s.maxRealTimeSeconds.toNat),
    ("participants", .nat s.participants.toNat),
    ("end_reason", .ofOption (s.endReason.map EndReason.encode))]

/-- A report as a value. -/
def encode (s : RunStatus) : Value :=
  .ofFields (s.timeless ++
    [("elapsed_seconds", .nat s.elapsedSeconds.toNat), ("started_at", .string s.startedAt)])

/-- Read a report. -/
def decode (v : Value) : Except DecodeError RunStatus := do
  let r ← Record.ofValue "SimulationStatus"
    ["tick", "paused", "stop_requested", "tick_interval_ms", "elapsed_seconds", "max_ticks",
      "max_real_time_seconds", "participants", "end_reason", "started_at"] v
  let tick ← r.required "tick" Decode.uint64
  let paused ← r.required "paused" Decode.bool
  let stopRequested ← r.required "stop_requested" Decode.bool
  let tickIntervalMs ← r.required "tick_interval_ms" Decode.uint64
  let elapsedSeconds ← r.required "elapsed_seconds" Decode.uint64
  let maxTicks ← r.required "max_ticks" Decode.uint64
  let maxRealTimeSeconds ← r.required "max_real_time_seconds" Decode.uint64
  let participants ← r.required "participants" Decode.uint64
  let endReason ← r.nullable "end_reason" EndReason.decode
  let startedAt ← r.required "started_at" Decode.text
  r.done ⟨tick, paused, stopRequested, tickIntervalMs, elapsedSeconds, maxTicks, maxRealTimeSeconds,
    participants, endReason, startedAt⟩

end RunStatus

/-- The report on a run at a tick with a number of participants. -/
def Operator.status (o : Operator) (tick : UInt64) (participants : UInt64) (startedAt : String) :
    RunStatus where
  tick := tick
  paused := o.paused
  stopRequested := o.stopRequested
  tickIntervalMs := o.tickIntervalMs
  elapsedSeconds := UInt64.ofNat (min o.elapsedSeconds maxUInt64)
  maxTicks := o.maxTicks
  maxRealTimeSeconds := o.maxRealTimeSeconds
  participants := participants
  endReason := o.endReason
  startedAt := startedAt

end Cadence
