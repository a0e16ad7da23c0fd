import Cadence.World.Component

/-!
# Reports of a simulation

The states a simulation goes through, the summary of a tick, and the causes for which an operation
on a simulation fails, with their texts and values.
-/

namespace Cadence

/-- Names a component in failures. -/
inductive ComponentRef where
  | participant (id : ParticipantId) (name : String)
  | plugin (id : PluginId) (name : String)
  deriving DecidableEq, Repr

/-- A hook failure that did not end the run. -/
structure ComponentFailure where
  component : ComponentRef
  reason : String
  deriving DecidableEq, Repr

/-- Where a simulation stands. -/
inductive DriverStatus where
  | notStarted
  /-- The given tick was the last to run. -/
  | running (tick : UInt64)
  /-- The run ended normally after the given number of ticks. -/
  | completed (ticks : UInt64)
  /-- The run was given up in the given tick. -/
  | aborted (tick : UInt64)
  deriving DecidableEq, Repr, Inhabited

/-- What happened in a tick. -/
structure TickSummary (T : Type) where
  tick : UInt64
  time : T
  participantsStepped : Nat
  pluginsExecuted : Nat
  participantsRegistered : Nat
  actions : ActionStats
  failures : List ComponentFailure
  deriving DecidableEq, Repr

/-- Why an operation on a simulation fails. -/
inductive TickError where
  | clock (cause : ClockError)
  | environment (cause : EnvironmentError)
  | initialise (component : ComponentRef) (cause : ComponentError)
  | componentFailed (tick : UInt64) (component : ComponentRef) (cause : ComponentError)
  | actionFailed (tick : UInt64) (failure : ActionFailure)
  | completion (failures : List ComponentFailure)
  | notRunnable (status : DriverStatus)
  deriving DecidableEq, Repr

namespace ComponentRef

/-- How a message names a component. -/
def text : ComponentRef → String
  | participant id name => "participant `" ++ name ++ "` (" ++ id.text ++ ")"
  | plugin id name => "plugin `" ++ name ++ "` (" ++ id.text ++ ")"

/-- A component as a value. -/
def encode : ComponentRef → Value
  | participant id name =>
    .ofFields [("kind", .string "participant"), ("id", id.encode), ("name", .string name)]
  | plugin id name =>
    .ofFields [("kind", .string "plugin"), ("id", id.encode), ("name", .string name)]

end ComponentRef

namespace ComponentFailure

/-- A failure as a value. -/
def encode (f : ComponentFailure) : Value :=
  .ofFields [("component", f.component.encode), ("reason", .string f.reason)]

end ComponentFailure

namespace DriverStatus

/-- Whether the run has ended, one way or the other. -/
def isOver : DriverStatus → Bool
  | notStarted => false
  | running _ => false
  | completed _ => true
  | aborted _ => true

/-- The text of a status. -/
def text : DriverStatus → String
  | notStarted => "not started"
  | running tick => "running (tick " ++ toString tick.toNat ++ ")"
  | completed ticks => "completed after " ++ toString ticks.toNat ++ " ticks"
  | aborted tick => "aborted at tick " ++ toString tick.toNat

/-- How a status shows in a debug text. -/
def debugText : DriverStatus → String
  | notStarted => "NotStarted"
  | running tick => "Running \x7b tick: " ++ toString tick.toNat ++ " \x7d"
  | completed ticks => "Completed \x7b ticks: " ++ toString ticks.toNat ++ " \x7d"
  | aborted tick => "Aborted \x7b tick: " ++ toString tick.toNat ++ " \x7d"

/-- A status as a value. -/
def encode : DriverStatus → Value
  | notStarted => .ofFields [("state", .string "not_started")]
  | running tick => .ofFields [("state", .string "running"), ("tick", .nat tick.toNat)]
  | completed ticks => .ofFields [("state", .string "completed"), ("ticks", .nat ticks.toNat)]
  | aborted tick => .ofFields [("state", .string "aborted"), ("tick", .nat tick.toNat)]

end DriverStatus

namespace ActionFailure

/-- A handler failure as a value. -/
def encode (f : ActionFailure) : Value :=
  .ofFields [("actor", f.actor.encode), ("tag", f.tag.encode), ("handler", .string f.handler),
    ("reason", .string f.reason)]

end ActionFailure

namespace ActionStats

/-- Statistics as a value. -/
def encode (s : ActionStats) : Value :=
  .ofFields [("applied", .nat s.applied.toNat), ("rejected", .nat s.rejected.toNat),
    ("failed", .nat s.failed.toNat), ("refused", .nat s.refused.toNat),
    ("failures", .array (s.failures.map ActionFailure.encode))]

end ActionStats

namespace TickSummary

/-- A summary as a value. -/
def encode {T : Type} [Time T] (s : TickSummary T) : Value :=
  .ofFields [("tick", .nat s.tick.toNat), ("time", Time.encode s.time),
    ("participants_stepped", .nat s.participantsStepped),
    ("plugins_executed", .nat s.pluginsExecuted),
    ("participants_registered", .nat s.participantsRegistered), ("actions", s.actions.encode),
    ("failures", .array (s.failures.map ComponentFailure.encode))]

end TickSummary

namespace TickError

/-- The text of the cause. -/
def message : TickError → String
  | clock cause => "clock error: " ++ cause.message
  | environment cause => "environment error: " ++ cause.message
  | initialise component cause => component.text ++ " failed to initialise: " ++ cause.message
  | componentFailed tick component cause =>
    component.text ++ " failed at tick " ++ toString tick.toNat ++ ": " ++ cause.message
  | actionFailed tick failure =>
    "handler `" ++ failure.handler ++ "` failed on action `" ++ failure.tag.text ++ "` from " ++
      failure.actor.text ++ " at tick " ++ toString tick.toNat ++ ": " ++ failure.reason
  | completion failures => toString failures.length ++ " plugin(s) failed on completion"
  | notRunnable status => "simulation is " ++ status.text

end TickError

end Cadence
