import Cadence.Scenario.Reporter
import Cadence.Script.Component
import Cadence.Script.Generator

/-!
# Sessions

A world in which scripts act, with or without a simulation that drives the components. The
operations of a session answer with their result and the session after it.
-/

namespace Cadence.Script

/-- A world, the simulation in it if there is one, and the number of components made. -/
structure Session (T : Type) where
  world : World (Memory T)
  simulation : Option (Simulation (Memory T) T) := none
  made : Nat := 0

/-- What a participant of a session is. -/
inductive ParticipantKind where
  | scripted (script : ParticipantScript)
  | walker (seed : UInt64) (ring : UInt32)

/-- What a plugin of a session is. -/
inductive PluginKind where
  | scripted (script : PluginScript)
  | recorder (table : String)
  | reporter
  /-- One that does nothing. -/
  | idle

namespace Session

variable {T α : Type}

/-- The world of a session before its first operation. -/
def newWorld (environment : Environment) (gs : List GeneratorScript) (operator : Operator) :
    World (Memory T) where
  environment := environment
  generators := generators gs
  nesting := gs.length + 1
  operator := operator
  memory := {}

/-- A simulation that has not started. -/
def newSimulation (clock : Clock T) (driver : DriverConfig) (participantIds : Nat → ParticipantId)
    (pluginIds : Nat → PluginId) : Simulation (Memory T) T where
  clock := clock
  driver := driver
  participantIds := participantIds
  pluginIds := pluginIds

/-- Run a program in the world of the session. -/
def perform (s : Session T) (p : Program (Memory T) α) : α × Session T :=
  let (a, w) := s.world.perform p
  (a, { s with world := w })

/-- The handle that a participant would have with the key under a label. -/
def handle (s : Session T) (id : ParticipantId) (label : String) : Handle :=
  ⟨id, s.world.memory.keyFor label, {}⟩

/-- How participants are stepped. -/
def mode (s : Session T) : ExecutionMode :=
  match s.simulation with
  | some sim => sim.driver.execution
  | none => .sequential

/-- Take the log. -/
def takeLog (s : Session T) : List LogEntry × Session T :=
  let memory := s.world.memory
  (memory.shownLog s.mode, { s with world := { s.world with memory := { memory with log := [] } } })

/-! ## Driving -/

/-- Apply an operation of simulations, if there is one. -/
def drive (s : Session T)
    (f : Simulation (Memory T) T → World (Memory T) → Outcome (Memory T) T α) :
    Option (Except TickError α) × Session T :=
  match s.simulation with
  | none => (none, s)
  | some sim =>
    let out := f sim s.world
    (some out.result, { s with world := out.world, simulation := some out.simulation })

/-- The participant of the given number, created after some others of its factory. -/
def makeParticipant [Time T] (number created : Nat) (id : ParticipantId) (name : String) :
    ParticipantKind → Participant (Memory T) T
  | .scripted script => participant number script id name
  | .walker seed ring =>
    Walker.participant (Memory.walkerPlace number (Walker.seedOf seed created)) ring id name

/-- The plugin of the given number. -/
def makePlugin [Time T] (number : Nat) (name : String) : PluginKind → Plugin (Memory T) T
  | .scripted script => plugin script name
  | .recorder table => Recorder.plugin (Memory.recorderPlace number) table
  | .reporter => Reporter.plugin (Memory.reporterPlace number)
  | .idle => { name := name, execute := fun _ => .done .fine }

/-- Add a participant. -/
def add [Time T] (s : Session T) (id : ParticipantId) (name : String) (kind : ParticipantKind) :
    Option (Except TickError ParticipantId) × Session T :=
  { s with made := s.made + 1 }.drive fun sim w =>
    sim.addParticipant w (makeParticipant s.made 0 id name kind)

/-- Spawn a participant for every name. -/
def spawn [Time T] (s : Session T) (names : List String) (kind : String → ParticipantKind) :
    Option (Except TickError (List ParticipantId)) × Session T :=
  { s with made := s.made + names.length }.drive fun sim w =>
    sim.spawn w (fun n id name => .done (makeParticipant (s.made + n) n id name (kind name))) names

/-- Add a plugin. -/
def addPlugin [Time T] (s : Session T) (name : String) (kind : PluginKind) :
    Option (Except TickError PluginId) × Session T :=
  { s with made := s.made + 1 }.drive fun sim w => sim.addPlugin w (makePlugin s.made name kind)

/-- Run one tick. -/
def tick [Time T] (s : Session T) : Option (Except TickError (TickSummary T)) × Session T :=
  s.drive fun sim w => sim.runTick w

/-- Run some ticks, up to the first that fails. -/
def ticks [Time T] : Nat → Session T → List (Except TickError (TickSummary T)) × Session T
  | 0, s => ([], s)
  | n + 1, s =>
    match s.tick with
    | (none, s) => ([], s)
    | (some (.error e), s) => ([.error e], s)
    | (some (.ok summary), s) =>
      let (others, s) := ticks n s
      (.ok summary :: others, s)

/-- Complete the run. -/
def finish (s : Session T) : Option (Except TickError Unit) × Session T :=
  s.drive fun sim w => sim.finish w

/-! ## Runs -/

/-- What accompanies a run of a session: it observes every tick, gives the commands of the tick, and
may resume a run that waits. -/
structure Escort where
  /-- Whether it does nothing after a tick. -/
  quiet : Bool := false
  resumes : Bool := false
  /-- The commands after a tick, by its number. -/
  commands : OrderedMap String (List OperatorCommand) := {}

/-- Give some commands. -/
def command : List OperatorCommand → Program (Memory T) Unit
  | [] => return ()
  | c :: rest => do
    Program.request (.control c)
    command rest

/-- Keep a report with the log since it was last taken. -/
def observe (mode : ExecutionMode) (report : TickReport T) (m : Memory T) : Memory T :=
  { m with observations := m.observations ++ [⟨report, m.shownLog mode⟩], log := [] }

/-- The supervisor that an escort is. -/
def Escort.supervisor (e : Escort) (mode : ExecutionMode) : Supervisor (Memory T) T where
  onTick report :=
    if e.quiet then return ()
    else do
      modify (observe mode report)
      command ((e.commands.get? (toString report.summary.tick.toNat)).getD [])
  onWait := if e.resumes then .request (.control .resume) else return ()

/-- Run the simulation to its end: the result, and what was observed. -/
def run [Time T] (s : Session T) (e : Escort) :
    Option (Except RunError (RunResult T) × List (Observation T)) × Session T :=
  match s.simulation with
  | none => (none, s)
  | some sim =>
    let out := sim.run s.world (e.supervisor s.mode)
    let seen := out.world.memory.observations
    let w := { out.world with memory := { out.world.memory with observations := [] } }
    (some (out.result, seen), { s with world := w, simulation := some out.simulation })

/-! ## Handles -/

/-- A use of the handle that the participant of a name received last. -/
inductive HandleUse where
  | act (action : Action)
  | leave
  | regenerate
  | services
  | identify
  | service (kind : ServiceKind)

/-- Use the handle of the participant of a name, if it has one. -/
def useHandle (who : String) (use : HandleUse) : Program (Memory T) (Option Result) := do
  match (← remembered).handles.get? who with
  | none => return none
  | some h =>
    match use with
    | .act action => return some (← actWith h action)
    | .leave => return some (← leaveWith h)
    | .regenerate =>
      return some (← regenerateWith h fun h m => { m with handles := m.handles.insert who h })
    | .services => return some (.ok (servicesOf h))
    | .identify => return some (.ok h.id.encode)
    | .service kind => return some (← serviceWith h kind)

end Session

end Cadence.Script
