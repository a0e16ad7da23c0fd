import Cadence.Simulation.Report
import Cadence.World.Thread

/-!
# Simulations

A simulation drives participants and plugins through ticks. In a tick the clock advances, the action
window opens, every active participant is stepped, every active plugin executes, and the window
closes. Nothing of a tick starts before everything of the tick before it has happened. Participants
are stepped one after another, or side by side as the schedule of the tick has it.

Every operation answers with its result, the simulation and the world after it, and the hooks that
it called: in the order in which they started, which for participants and plugins is the order in
which they were added.
-/

namespace Cadence

/-- A participant that has joined. It is driven only while the key of this very registration is
live. -/
structure ParticipantSlot (M T : Type) where
  participant : Participant M T
  key : Key
  failed : Bool := false

/-- A plugin that has been added. -/
structure PluginSlot (M T : Type) where
  id : PluginId
  plugin : Plugin M T
  failed : Bool := false

/-- A simulation: its clock, its components in the order they were added, its policies, where it
stands, and the identifiers that it will give. -/
structure Simulation (M T : Type) where
  clock : Clock T
  participants : List (ParticipantSlot M T) := []
  plugins : List (PluginSlot M T) := []
  driver : DriverConfig
  status : DriverStatus := .notStarted
  /-- In which order the accesses of participants come that are stepped side by side, by tick. -/
  schedule : UInt64 → List Nat := fun _ => []
  participantIds : Nat → ParticipantId
  participantsMade : Nat := 0
  pluginIds : Nat → PluginId
  pluginsMade : Nat := 0

/-- The hooks of components. -/
inductive HookKind where
  | initialise
  | step
  | execute
  | complete
  deriving DecidableEq, Repr

/-- A call of a hook, and how it ended. A participant is told apart by the key of the registration
that was made for it. -/
structure HookCall (T : Type) where
  component : ComponentRef
  key : Option Key := none
  hook : HookKind
  context : Option (TickContext T) := none
  ending : HookEnd
  deriving DecidableEq, Repr

/-- What an operation on a simulation comes to. -/
structure Outcome (M T α : Type) where
  result : Except TickError α
  simulation : Simulation M T
  world : World M
  calls : List (HookCall T) := []

namespace ParticipantSlot

variable {M T : Type}

/-- How failures name the participant. -/
def component (slot : ParticipantSlot M T) : ComponentRef :=
  .participant slot.participant.id slot.participant.name

/-- Whether the registration made for this slot is live. -/
def isLive (slot : ParticipantSlot M T) (e : Environment) : Bool :=
  e.isCurrent slot.participant.id slot.key

end ParticipantSlot

namespace PluginSlot

variable {M T : Type}

/-- How failures name the plugin. -/
def component (slot : PluginSlot M T) : ComponentRef := .plugin slot.id slot.plugin.name

end PluginSlot

namespace Simulation

variable {M T : Type}

/-! ## What can be seen of a simulation -/

/-- The participants that will be stepped next. -/
def activeParticipants (s : Simulation M T) (e : Environment) : List ParticipantId :=
  (s.participants.filter fun slot => !slot.failed && slot.isLive e).map fun slot =>
    slot.participant.id

/-- The names of the plugins that will execute next. -/
def activePlugins (s : Simulation M T) : List String :=
  (s.plugins.filter fun slot => !slot.failed).map fun slot => slot.plugin.name

/-- Check that the run has not ended. -/
def checkRunnable (s : Simulation M T) : Except TickError Unit :=
  if s.status.isOver then .error (.notRunnable s.status) else .ok ()

/-- How a simulation shows in a debug text. -/
def debugText [Time T] (s : Simulation M T) : String :=
  "Simulation \x7b clock: " ++ s.clock.debugText ++ ", status: " ++ s.status.debugText ++
    ", participants: " ++ toString s.participants.length ++ ", plugins: " ++
    toString s.plugins.length ++ ", driver: " ++ s.driver.debugText ++ ", .. \x7d"

/-! ## Components join -/

/-- Register a participant and initialise it. One whose hook fails is deregistered again. -/
def addParticipant (s : Simulation M T) (w : World M) (p : Participant M T) :
    Outcome M T ParticipantId :=
  match s.checkRunnable with
  | .error e => { result := .error e, simulation := s, world := w }
  | .ok () =>
    match w.call (.register p.id p.name) with
    | (.error e, w) => { result := .error (.environment e), simulation := s, world := w }
    | (.ok admission, w) =>
      let (ending, w) := w.perform (p.initialise (.ofAdmission admission))
      let calls : List (HookCall T) :=
        [⟨.participant p.id p.name, some admission.key, .initialise, none, ending⟩]
      match ending.guarded with
      | .ok () =>
        { result := .ok p.id
          simulation := { s with participants := s.participants ++ [⟨p, admission.key, false⟩] }
          world := w
          calls := calls }
      | .error cause =>
        { result := .error (.initialise (.participant p.id p.name) cause)
          simulation := s
          world := (w.call (.deregister p.id admission.key)).2
          calls := calls }

/-- What creates participants. It gets the number of participants created before, an identifier of
the simulation's own, and the name. -/
abbrev Factory (M T : Type) : Type :=
  Nat → ParticipantId → String → Program M (Participant M T)

/-- Create a participant for every name and add it, up to the first that cannot be added. -/
def spawnFrom (create : Factory M T) :
    Nat → List String → Simulation M T → World M → Outcome M T (List ParticipantId)
  | _, [], s, w => { result := .ok [], simulation := s, world := w }
  | n, name :: rest, s, w =>
    let (p, w) := w.perform (create n (s.participantIds s.participantsMade) name)
    let s := { s with participantsMade := s.participantsMade + 1 }
    let added := s.addParticipant w p
    match added.result with
    | .error e => { result := .error e, simulation := added.simulation, world := added.world,
                    calls := added.calls }
    | .ok id =>
      let others := spawnFrom create (n + 1) rest added.simulation added.world
      { others with result := others.result.map (id :: ·), calls := added.calls ++ others.calls }

/-- Create, register and initialise one participant for every name. -/
def spawn (s : Simulation M T) (w : World M) (create : Factory M T) (names : List String) :
    Outcome M T (List ParticipantId) :=
  spawnFrom create 0 names s w

/-- Add a plugin and initialise it. -/
def addPlugin (s : Simulation M T) (w : World M) (p : Plugin M T) : Outcome M T PluginId :=
  match s.checkRunnable with
  | .error e => { result := .error e, simulation := s, world := w }
  | .ok () =>
    let id := s.pluginIds s.pluginsMade
    let s := { s with pluginsMade := s.pluginsMade + 1 }
    let (ending, w) := w.perform p.initialise
    let calls : List (HookCall T) := [⟨.plugin id p.name, none, .initialise, none, ending⟩]
    match ending.guarded with
    | .ok () =>
      { result := .ok id
        simulation := { s with plugins := s.plugins ++ [⟨id, p, false⟩] }
        world := w
        calls := calls }
    | .error cause =>
      { result := .error (.initialise (.plugin id p.name) cause)
        simulation := s
        world := w
        calls := calls }

/-! ## A tick -/

/-- A slot with how its hook ended in a tick, if it was called. -/
abbrev Stepped (S : Type) : Type := S × Option HookEnd

/-- The step of a participant in the world of a tick; one that has failed takes none. -/
def stepThread (ctx : TickContext T) (w : World M) (slot : ParticipantSlot M T) :
    Thread M (Option HookEnd) :=
  if slot.failed then .done none else (w.thread (slot.participant.step ctx)).map some

/-- Step every participant that has not failed, all of them whatever comes of the others. -/
def stepAll (mode : ExecutionMode) (schedule : List Nat) (ctx : TickContext T)
    (slots : List (ParticipantSlot M T)) (w : World M) :
    List (Stepped (ParticipantSlot M T)) × World M :=
  let threads := slots.map (stepThread ctx w)
  let (endings, w) := match mode with
    | .sequential => World.runAll threads w
    | .concurrent => World.interleave schedule threads w
  (slots.zip endings, w)

/-- The hooks that were called, in the order in which the participants were added. -/
def stepCalls (ctx : TickContext T) (stepped : List (Stepped (ParticipantSlot M T))) :
    List (HookCall T) :=
  stepped.filterMap fun p => p.2.map fun ending =>
    ⟨p.1.component, some p.1.key, .step, some ctx, ending⟩

/-- Failures of participants, in the order in which the participants were added. -/
def stepFailures (stepped : List (Stepped (ParticipantSlot M T))) :
    List (ComponentRef × ComponentError) :=
  stepped.filterMap fun p => (p.2.bind HookEnd.failure?).map fun e => (p.1.component, e)

/-- The slots after a tick in which failed ones are left out from then on. -/
def markFailed (stepped : List (Stepped (ParticipantSlot M T))) : List (ParticipantSlot M T) :=
  stepped.map fun p =>
    if (p.2.bind HookEnd.failure?).isSome then { p.1 with failed := true } else p.1

/-- What executing the plugins of a tick comes to. -/
structure Executed (M T : Type) where
  slots : List (PluginSlot M T)
  failures : List (ComponentRef × ComponentError)
  count : Nat
  /-- The failure that ends the run. -/
  abortedBy : Option (ComponentRef × ComponentError)
  world : World M
  calls : List (HookCall T)

/-- Execute every plugin that has not failed, in order; under the policy to abort, none after the
first failure. -/
def executeAll (policy : FailurePolicy) (ctx : TickContext T) :
    List (PluginSlot M T) → World M → Executed M T
  | [], w => ⟨[], [], 0, none, w, []⟩
  | slot :: rest, w =>
    if slot.failed then
      let others := executeAll policy ctx rest w
      { others with slots := slot :: others.slots }
    else
      let (ending, w) := w.perform (slot.plugin.execute ctx)
      let call : HookCall T := ⟨slot.component, none, .execute, some ctx, ending⟩
      match ending.guarded, policy with
      | .ok (), _ =>
        let others := executeAll policy ctx rest w
        { others with
          slots := slot :: others.slots
          count := others.count + 1
          calls := call :: others.calls }
      | .error e, .abort => ⟨slot :: rest, [], 1, some (slot.component, e), w, [call]⟩
      | .error e, .carryOn =>
        let others := executeAll policy ctx rest w
        { others with
          slots := { slot with failed := true } :: others.slots
          failures := (slot.component, e) :: others.failures
          count := others.count + 1
          calls := call :: others.calls }

/-- A failure as a summary lists it. -/
def listed (f : ComponentRef × ComponentError) : ComponentFailure := ⟨f.1, f.2.message⟩

/-- Give up the run: close the window and answer with the cause. -/
def abort {α : Type} (s : Simulation M T) (w : World M) (tick : UInt64) (cause : TickError)
    (calls : List (HookCall T)) : Outcome M T α where
  result := .error cause
  simulation := { s with status := .aborted tick }
  world := w.closeTick.2
  calls := calls

/-- End a tick in which no component has ended the run: close the window, look at the actions, and
sum up. -/
def conclude (s : Simulation M T) (w : World M) (ctx : TickContext T) (stepped executed : Nat)
    (failures : List ComponentFailure) (calls : List (HookCall T)) : Outcome M T (TickSummary T) :=
  let (actions, w) := w.closeTick
  match s.driver.actionFailure, actions.failures with
  | .abort, failure :: _ => s.abort w ctx.tick (.actionFailed ctx.tick failure) calls
  | _, _ =>
    { result := .ok
        { tick := ctx.tick
          time := ctx.time
          participantsStepped := stepped
          pluginsExecuted := executed
          participantsRegistered := w.environment.participants.length
          actions := actions
          failures := failures }
      simulation := s
      world := w
      calls := calls }

/-- Execute the plugins of a tick and end it. -/
def finishTick (s : Simulation M T) (w : World M) (ctx : TickContext T) (stepped : Nat)
    (failures : List ComponentFailure) (calls : List (HookCall T)) : Outcome M T (TickSummary T) :=
  let executed := executeAll s.driver.componentFailure ctx s.plugins w
  let s := { s with plugins := executed.slots }
  let calls := calls ++ executed.calls
  match executed.abortedBy with
  | some (component, e) =>
    s.abort executed.world ctx.tick (.componentFailed ctx.tick component e) calls
  | none =>
    s.conclude executed.world ctx stepped executed.count (failures ++ executed.failures.map listed)
      calls

/-- The simulation at the start of a tick: the clock has advanced, and participants that are not
registered any more have been dropped. -/
def enterTick (s : Simulation M T) (clock : Clock T) (e : Environment) : Simulation M T :=
  { s with
    clock := clock
    status := .running clock.ticks
    participants := s.participants.filter fun slot => slot.isLive e }

/-- Step the participants of a tick, execute its plugins and end it. -/
def driveTick (s : Simulation M T) (w : World M) (ctx : TickContext T) :
    Outcome M T (TickSummary T) :=
  let (stepped, w) := stepAll s.driver.execution (s.schedule ctx.tick) ctx s.participants w
  let calls := stepCalls ctx stepped
  let failures := stepFailures stepped
  match s.driver.componentFailure, failures with
  | .abort, (component, e) :: _ => s.abort w ctx.tick (.componentFailed ctx.tick component e) calls
  | _, _ =>
    { s with participants := markFailed stepped }.finishTick w ctx calls.length
      (failures.map listed) calls

/-- Run one tick. -/
def runTick [Time T] (s : Simulation M T) (w : World M) : Outcome M T (TickSummary T) :=
  match s.checkRunnable with
  | .error e => { result := .error e, simulation := s, world := w }
  | .ok () =>
    match s.clock.increment with
    | .error cause => s.abort w s.clock.ticks (.clock cause) []
    | .ok clock =>
      let w := w.openTick clock.ticks
      (s.enterTick clock w.environment).driveTick w ⟨clock.ticks, clock.current⟩

/-! ## The end -/

/-- Call the completion hook of every plugin that has not failed, all of them whatever comes of the
others. -/
def completeAll :
    List (PluginSlot M T) → World M → List ComponentFailure × World M × List (HookCall T)
  | [], w => ([], w, [])
  | slot :: rest, w =>
    if slot.failed then completeAll rest w
    else
      let (ending, w) := w.perform slot.plugin.complete
      let (failures, w, calls) := completeAll rest w
      let call : HookCall T := ⟨slot.component, none, .complete, none, ending⟩
      match ending.guarded with
      | .ok () => (failures, w, call :: calls)
      | .error e => (⟨slot.component, e.message⟩ :: failures, w, call :: calls)

/-- Complete the run. A second completion does nothing, and an aborted run cannot be completed. -/
def finish (s : Simulation M T) (w : World M) : Outcome M T Unit :=
  match s.status with
  | .completed _ => { result := .ok (), simulation := s, world := w }
  | .aborted _ => { result := .error (.notRunnable s.status), simulation := s, world := w }
  | _ =>
    let (failures, w, calls) := completeAll s.plugins w.closeTick.2
    { result := if failures.isEmpty then .ok () else .error (.completion failures)
      simulation := { s with status := .completed s.clock.ticks }
      world := w
      calls := calls }

end Simulation

end Cadence
