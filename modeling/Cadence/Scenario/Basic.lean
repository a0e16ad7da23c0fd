import Cadence.Engine.Error
import Cadence.Recorder
import Cadence.Scenario.Reporter
import Cadence.Scenario.Walker

/-!
# The demonstration

Random walkers on a ring: the environment is built with the handlers of the ring and the tally, the
walkers are spawned, the reporter and perhaps the recorder are added, and the run goes on until a
bound is reached. `Scenario.run` answers with the final ring, the tally and the number of recorded
rows.
-/

namespace Cadence

namespace Scenario

/-- What the components of the demonstration remember. -/
structure Memory where
  walkers : OrderedMap Nat WalkerState := {}
  reporter : Option Roster := none
  recorder : RecorderState := {}

namespace Memory

/-- What all walkers remember. -/
def walkersPlace : Place Memory (OrderedMap Nat WalkerState) where
  get := Memory.walkers
  put s m := { m with walkers := s }
  get_put _ _ := rfl

/-- What the walker of the given number remembers. -/
def walkerPlace (seed : UInt64) (n : Nat) : Place Memory WalkerState :=
  walkersPlace.entry n (Walker.fresh (Walker.seedOf seed n))

/-- What the reporter remembers. -/
def reporterPlace : Place Memory (Option Roster) where
  get := Memory.reporter
  put s m := { m with reporter := s }
  get_put _ _ := rfl

/-- What the recorder remembers. -/
def recorderPlace : Place Memory RecorderState where
  get := Memory.recorder
  put s m := { m with recorder := s }
  get_put _ _ := rfl

end Memory

/-- The identifiers that a run gives to what it creates, in order. -/
structure Identifiers where
  participants : Nat → ParticipantId
  plugins : Nat → PluginId

/-- What a demonstration comes to. -/
structure Result where
  run : RunResult IntegerTime
  ring : Ring
  tally : Nat
  recordedRows : Nat
  deriving DecidableEq, Repr

/-- A result with the controls and the events of the run. -/
structure Ended where
  result : Except EngineError Result
  operator : Operator
  events : List Event

/-- The handler of a ring of the given size, which must not be zero. -/
def ringHandler (size : UInt32) : Except EngineError Handler :=
  if size = 0 then .error (.scenario .emptyRing) else .ok (Ring.handler size)

/-- The handlers of the demonstration on a ring of the given size. -/
def registry (size : UInt32) : Except EngineError Registry :=
  match ringHandler size with
  | .error e => .error e
  | .ok ring =>
    match ({} : Registry).register ring with
    | .error e => .error (.environment e)
    | .ok (_, r) =>
      match r.register Tally.handler with
      | .error e => .error (.environment e)
      | .ok (_, r) => .ok r

/-- The global services of the demonstration. -/
def services (recordState : Bool) : ServiceSet :=
  if recordState then ServiceSet.add {} .database else {}

/-- The event that tells what the environment has. -/
def builtEvent (e : Environment) : Event :=
  ⟨.info, Walker.target, "Environment built",
    [("handlers", .nat e.registry.size),
      ("services", .string
        ("[" ++ Text.commaSeparated ((ServiceSet.names e.globals).map Text.quoted) ++ "]"))]⟩

/-- The world of a demonstration before anybody joins. -/
def world (registry : Registry) (recordState : Bool) (operator : Operator) : World Memory :=
  let e := Environment.build registry (services recordState) .counting
  { environment := e, operator := operator, memory := {}, events := [builtEvent e] }

/-- The simulation of a demonstration before anybody joins. -/
def simulation (driver : DriverConfig) (ids : Identifiers) : Simulation Memory IntegerTime where
  clock := .new
  driver := driver
  participantIds := ids.participants
  pluginIds := ids.plugins

/-- The name of a walker. -/
def walkerName (n : Nat) : String := "walker-" ++ toString n

/-- The walker of the given number. -/
def walker (c : ScenarioConfig) (n : Nat) (id : ParticipantId) (name : String) :
    Participant Memory IntegerTime :=
  Walker.participant (Memory.walkerPlace c.seed n) c.ringSize id name

/-- The plugins of a demonstration. -/
def plugins (recordState : Bool) : List (Plugin Memory IntegerTime) :=
  Reporter.plugin Memory.reporterPlace ::
    if recordState then [Recorder.plugin Memory.recorderPlace Recorder.defaultTable] else []

/-- Add plugins, up to the first that cannot be added. -/
def addPlugins : List (Plugin Memory IntegerTime) → Simulation Memory IntegerTime → World Memory →
    Outcome Memory IntegerTime Unit
  | [], s, w => { result := .ok (), simulation := s, world := w }
  | p :: rest, s, w =>
    let added := s.addPlugin w p
    match added.result with
    | .error e => { result := .error e, simulation := added.simulation, world := added.world }
    | .ok _ => addPlugins rest added.simulation added.world

/-- Number of ticks between two reports of progress. -/
def progressInterval : Nat := 10

/-- The supervisor that reports progress. -/
def supervisor : Supervisor Memory IntegerTime where
  onTick report :=
    if report.summary.tick.toNat % progressInterval = 0 then
      .request (.report ⟨.info, Walker.target, "Progress",
        [("tick", .nat report.summary.tick.toNat),
          ("participants", .nat report.participants.length),
          ("applied", .nat report.summary.actions.applied.toNat),
          ("rejected", .nat report.summary.actions.rejected.toNat)]⟩)
    else .done ()

/-- Number of rows in the recorder's table. -/
def recordedRows (recordState : Bool) (db : Database) : Except DbError Nat :=
  if recordState then (db.rows Recorder.defaultTable).map List.length else .ok 0

/-- Read what a run has left in the world. -/
def collect (recordState : Bool) (run : RunResult IntegerTime) (w : World Memory) :
    Except EngineError Result :=
  match Ring.ofStore w.environment.store, recordedRows recordState w.database with
  | .error e, _ => .error (.scenario (.unreadable e))
  | _, .error e => .error (.storage e)
  | .ok ring, .ok rows =>
    .ok
      { run := run, ring := ring, tally := Tally.ofStore w.environment.store, recordedRows := rows }

/-- The world at the end, with the result. -/
def ended (result : Except EngineError Result) (w : World Memory) : Ended :=
  ⟨result, w.operator, w.events⟩

/-- Set up the demonstration that a configuration describes: the simulation and the world before
the first tick, or what the demonstration ends with. -/
def setUp (config : Config) (operator : Operator) (ids : Identifiers) :
    Except Ended (Simulation Memory IntegerTime × World Memory) :=
  let c := config.scenario
  match registry c.ringSize with
  | .error e => .error ⟨.error e, operator, []⟩
  | .ok handlers =>
    let spawned := (simulation config.driver ids).spawn (world handlers c.recordState operator)
      (fun n id name => .done (walker c n id name)) ((List.range c.walkers.toNat).map walkerName)
    match spawned.result with
    | .error e => .error (ended (.error (.setup e)) spawned.world)
    | .ok _ =>
      let added := addPlugins (plugins c.recordState) spawned.simulation spawned.world
      match added.result with
      | .error e => .error (ended (.error (.setup e)) added.world)
      | .ok () => .ok (added.simulation, added.world)

/-- Run the demonstration that a configuration describes under the given controls. -/
def run (config : Config) (operator : Operator) (ids : Identifiers) : Ended :=
  match setUp config operator ids with
  | .error e => e
  | .ok (s, w) =>
    let finished := s.run w supervisor
    match finished.result with
    | .error e => ended (.error (.runner e)) finished.world
    | .ok result => ended (collect config.scenario.recordState result finished.world) finished.world

end Scenario

end Cadence
