import Cadence.Simulation.Basic

/-!
# Runs

A run drives ticks until a stop is requested, a limit is reached, or a tick fails. `Simulation.turn`
is one round of it: wait while paused, look at the reasons to end, run a tick, tell the supervisor.
A round that does not end the run advances the tick count of the clock, which is a word, so
`Simulation.run` ends.
-/

namespace Cadence

/-- What a supervisor is told after a tick. -/
structure TickReport (T : Type) where
  summary : TickSummary T
  status : DriverStatus
  participants : List ParticipantId
  plugins : List String
  deriving DecidableEq, Repr

/-- What accompanies a run: a program after every successful tick, and one for while the run waits.
-/
structure Supervisor (M T : Type) where
  onTick : TickReport T → Program M Unit := fun _ => .done ()
  onWait : Program M Unit := .done ()

/-- Why a run fails. -/
inductive RunError where
  /-- A tick, or the completion, failed. -/
  | tick (cause : TickError)
  /-- The run is paused, and nobody resumes it. -/
  | stalled
  deriving DecidableEq, Repr

namespace RunError

/-- The text of the cause. -/
def message : RunError → String
  | tick cause => "tick error: " ++ cause.message
  | stalled => "the run is paused"

end RunError

/-- What a run comes to. -/
structure RunResult (T : Type) where
  endReason : EndReason
  finalSummary : Option (TickSummary T)
  totalTicks : UInt64
  deriving DecidableEq, Repr

/-- What a round of a run comes to. -/
inductive Turn (T : Type) where
  /-- The run ends before the tick of the round. -/
  | ended (reason : EndReason)
  /-- The tick of the round was the last one. -/
  | limited (summary : TickSummary T)
  /-- The run goes on. -/
  | ticked (summary : TickSummary T)
  | failed (cause : RunError)
  deriving DecidableEq, Repr

/-- A round, the simulation and the world after it, and the hooks that it called. -/
structure Round (M T : Type) where
  turn : Turn T
  simulation : Simulation M T
  world : World M
  calls : List (HookCall T) := []

/-- A run, the simulation and the world after it, and the hooks that it called. -/
structure Run (M T : Type) where
  result : Except RunError (RunResult T)
  simulation : Simulation M T
  world : World M
  calls : List (HookCall T) := []

namespace Simulation

variable {M T : Type} [Time T]

/-- What a supervisor is told about a simulation. -/
def report (s : Simulation M T) (w : World M) (summary : TickSummary T) : TickReport T where
  summary := summary
  status := s.status
  participants := s.activeParticipants w.environment
  plugins := s.activePlugins

/-- The world after the waiting that comes before a tick. -/
def await (w : World M) (supervisor : Supervisor M T) : World M :=
  if w.operator.waits then (w.perform supervisor.onWait).2 else w

/-- The reason to end a run before its next tick, if there is one. -/
def reasonToEnd? (o : Operator) : Option EndReason :=
  if o.stopRequested then some .operatorStop
  else if o.timeLimitReached then some .maxRealTimeReached
  else none

/-- One round of a run. -/
def turn (s : Simulation M T) (w : World M) (supervisor : Supervisor M T) : Round M T :=
  let w := await w supervisor
  if w.operator.waits then { turn := .failed .stalled, simulation := s, world := w }
  else
    match reasonToEnd? w.operator with
    | some reason => { turn := .ended reason, simulation := s, world := w }
    | none =>
      let out := s.runTick w
      match out.result with
      | .error e =>
        { turn := .failed (.tick e), simulation := out.simulation, world := out.world,
          calls := out.calls }
      | .ok summary =>
        let report := out.simulation.report out.world summary
        let (_, w) := out.world.perform (supervisor.onTick report)
        if w.operator.tickLimitReached summary.tick then
          { turn := .limited summary, simulation := out.simulation, world := w, calls := out.calls }
        else
          let w := { w with operator := w.operator.pass w.operator.tickIntervalMs.toNat }
          { turn := .ticked summary, simulation := out.simulation, world := w, calls := out.calls }

/-- End a run for a reason: keep the reason, then complete the simulation. -/
def endRun (s : Simulation M T) (w : World M) (reason : EndReason)
    (last : Option (TickSummary T)) (total : UInt64) (calls : List (HookCall T)) : Run M T :=
  let out := s.finish { w with operator := w.operator.setEnd reason }
  { result := match out.result with
      | .ok () => .ok ⟨reason, last, total⟩
      | .error e => .error (.tick e)
    simulation := out.simulation
    world := out.world
    calls := calls ++ out.calls }

/-- At most the given number of rounds, after some ticks of the run. -/
def rounds (supervisor : Supervisor M T) :
    Nat → Simulation M T → World M → Option (TickSummary T) → UInt64 → List (HookCall T) → Run M T
  | 0, s, w, _, _, calls => ⟨.error .stalled, s, w, calls⟩
  | n + 1, s, w, last, total, calls =>
    let round := s.turn w supervisor
    let calls := calls ++ round.calls
    match round.turn with
    | .ended reason => endRun round.simulation round.world reason last total calls
    | .limited summary =>
      endRun round.simulation round.world .maxTicksReached (some summary) (Word.bump total) calls
    | .failed e => ⟨.error e, round.simulation, round.world, calls⟩
    | .ticked summary =>
      rounds supervisor n round.simulation round.world (some summary) (Word.bump total) calls

/-- Number of rounds after which the clock of a simulation cannot advance any more, and one. -/
def roundsLeft (s : Simulation M T) : Nat := 18446744073709551616 - s.clock.ticks.toNat

/-- Run a simulation to its end. -/
def run (s : Simulation M T) (w : World M) (supervisor : Supervisor M T) : Run M T :=
  rounds supervisor s.roundsLeft s w none 0 []

end Simulation

end Cadence
