import Cadence.Environment.Error
import Cadence.Numeric.Word

/-!
# The action window

Actions are accepted during setup and then only between the opening and the closing of a tick. The
window also keeps the statistics of the actions made since they were last taken.
-/

namespace Cadence

/-- A handler failure. -/
structure ActionFailure where
  actor : ParticipantId
  tag : ActionTag
  handler : String
  reason : String
  deriving DecidableEq, Repr

/-- Counts of how actions ended, and every handler failure in order. -/
structure ActionStats where
  applied : UInt64 := 0
  rejected : UInt64 := 0
  failed : UInt64 := 0
  refused : UInt64 := 0
  failures : List ActionFailure := []
  deriving DecidableEq, Repr, Inhabited

namespace ActionStats

/-- One more action applied. -/
def addApplied (s : ActionStats) : ActionStats := { s with applied := Word.bump s.applied }

/-- One more action rejected. -/
def addRejected (s : ActionStats) : ActionStats := { s with rejected := Word.bump s.rejected }

/-- One more action refused before it reached a handler. -/
def addRefused (s : ActionStats) : ActionStats := { s with refused := Word.bump s.refused }

/-- One more action whose handler failed. -/
def addFailure (s : ActionStats) (f : ActionFailure) : ActionStats :=
  { s with failed := Word.bump s.failed, failures := s.failures ++ [f] }

end ActionStats

/-- Where the window stands. -/
inductive Phase where
  | setup
  | opened
  | closed
  deriving DecidableEq, Repr, Inhabited

/-- The action window. -/
structure Window where
  phase : Phase := .setup
  tick : UInt64 := 0
  stats : ActionStats := {}
  deriving DecidableEq, Repr, Inhabited

namespace Window

/-- Whether actions are accepted. -/
def isOpen (w : Window) : Bool := w.phase != .closed

/-- Check that actions are accepted. -/
def check (w : Window) : Except EnvironmentError Unit :=
  if w.phase = .closed then .error (.tickClosed w.tick) else .ok ()

/-- Open the window for a tick, with new statistics. -/
def openFor (_ : Window) (tick : UInt64) : Window := { phase := .opened, tick := tick }

/-- Close the window, without its statistics. -/
def close (w : Window) : Window := { w with phase := .closed, stats := {} }

end Window

end Cadence
