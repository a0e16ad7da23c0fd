import Cadence.Script.Memory

/-!
# Scripted components

Participants and plugins whose hooks are lists of commands. A hook logs the result of every command,
and ends early when a command says so or when one that must succeed fails.
-/

namespace Cadence.Script

/-- A command of a component script. -/
inductive ComponentCommand where
  | act (action : Action)
  | service (kind : ServiceKind)
  /-- A command that must succeed. -/
  | must (c : ComponentCommand)
  | regenerate
  /-- The names of the services that the handle holds. -/
  | services
  | leave
  /-- Deregister the participant of a name through its handle. -/
  | kick (who : String)
  | join (id : ParticipantId) (name : String)
  | context
  /-- End the hook. -/
  | stop (ending : HookEnd)
  deriving DecidableEq, Repr

/-- What a scripted participant does when it joins and in a tick. -/
structure ParticipantScript where
  onJoin : List ComponentCommand := []
  /-- The commands of a tick, by its number; a star is for every other tick. -/
  steps : OrderedMap String (List ComponentCommand) := {}

/-- What a scripted plugin does when it is added, in a tick, and at the end. -/
structure PluginScript where
  onAdd : List ComponentCommand := []
  steps : OrderedMap String (List ComponentCommand) := {}
  onComplete : List ComponentCommand := []

variable {T : Type}

/-- The result of a command. -/
abbrev Result : Type := Except EnvironmentError Value

/-- Some names as a value. -/
def namesValue (names : List String) : Value := .array (names.map .string)

/-- A list of members as a value. -/
def membersValue (members : List Member) : Value :=
  .ofFields [
    ("members", .array (members.map fun m => .array [m.id.encode, .string m.name])),
    ("ids", .array (members.map fun m => m.id.encode)), ("len", .nat members.length),
    ("empty", .bool members.isEmpty)]

/-- Shared state as a value. -/
def stateValue (entries : OrderedMap StateKey Value) : Value :=
  .ofFields (entries.entries.map fun e => (e.1.text, e.2))

/-- What a service shows. -/
def describe : Service → Program (Memory T) Value
  | .note _ text => return .string text
  | .members .environment => do return membersValue (← Program.request .members)
  | .members .unattended => return membersValue []
  | .view => do return stateValue (← Program.request .snapshot)
  | .database => do return namesValue (← Program.request .tableNames)

/-- What a service that was looked up shows. -/
def describeFound (found : Except EnvironmentError Service) : Program (Memory T) Result := do
  match found with
  | .ok s => return .ok (← describe s)
  | .error e => return .error e

/-- The commands of a tick. -/
def commandsAt (steps : OrderedMap String (List ComponentCommand)) (tick : UInt64) :
    List ComponentCommand :=
  (steps.get? (toString tick.toNat) <|> steps.get? "*").getD []

/-- What a component sees of the tick, as a value. -/
def contextValue [Time T] : Option (TickContext T) → Value
  | some ctx => .array [.nat ctx.tick.toNat, .string (Time.text ctx.time)]
  | none => .null

/-! ## Commands on a handle -/

/-- Submit an action. -/
def actWith (h : Handle) (action : Action) : Program (Memory T) Result := do
  return (← h.act action).map ActionOutcome.encode

/-- Leave the environment. -/
def leaveWith (h : Handle) : Program (Memory T) Result := do
  return (← h.leave).map fun _ => .null

/-- The names of the services that a handle holds. -/
def servicesOf (h : Handle) : Value := namesValue (ServiceSet.names h.services)

/-- Make the services of a handle anew, and keep the handle. -/
def regenerateWith (h : Handle) (keep : Handle → Memory T → Memory T) :
    Program (Memory T) Result := do
  match ← h.regenerate with
  | (.ok _, h) =>
    modify (keep h)
    return .ok (servicesOf h)
  | (.error e, _) => return .error e

/-- Look up a service and show it. -/
def serviceWith (h : Handle) (kind : ServiceKind) : Program (Memory T) Result := do
  describeFound (← h.service kind)

/-- Register a participant and keep its key under its own label. -/
def register (id : ParticipantId) (name label : String) : Program (Memory T) Result := do
  match ← Program.request (.register id name) with
  | .ok admission =>
    modify fun m => m.keepKey label admission.key
    return .ok (namesValue (ServiceSet.names admission.services))
  | .error e => return .error e

/-! ## Hooks -/

/-- Deregister the participant of a name through its handle, if it has one. -/
def kick (who : String) : Program (Memory T) Result := do
  match (← remembered).handles.get? who with
  | some h => leaveWith h
  | none => return .ok (.string "none")

/-- Keep the handle of the participant of a number. -/
def keepOwn (number : Nat) (h : Handle) (m : Memory T) : Memory T :=
  { m with own := m.own.insert number h }

/-- Perform a command of the participant of a number. -/
def performAs [Time T] (number : Nat) (ctx : Option (TickContext T)) (h : Handle) :
    ComponentCommand → Program (Memory T) Result
  | .act action => actWith h action
  | .service kind => serviceWith h kind
  | .must c => performAs number ctx h c
  | .regenerate => regenerateWith h (keepOwn number)
  | .services => return .ok (servicesOf h)
  | .leave => leaveWith h
  | .kick who => kick who
  | .join id name => register id name id.text
  | .context => return .ok (contextValue ctx)
  | .stop _ => return .ok .null

/-- Perform a command of a participant that may have a handle. -/
def performParticipant [Time T] (number : Nat) (ctx : Option (TickContext T))
    (c : ComponentCommand) :
    Program (Memory T) Result := do
  match (← remembered).own.get? number with
  | some h => performAs number ctx h c
  | none => return .ok .null

/-- Perform a command of a plugin, which can only look up services. -/
def performPlugin [Time T] (ctx : Option (TickContext T)) :
    ComponentCommand → Program (Memory T) Result
  | .service kind => do describeFound (← Program.request (.globalService kind))
  | .must c => performPlugin ctx c
  | .context => return .ok (contextValue ctx)
  | _ => return .ok .null

/-- Whether a command must succeed. -/
def ComponentCommand.isMust : ComponentCommand → Bool
  | .must _ => true
  | _ => false

/-- Perform commands up to the first that ends the hook: the results, and how the hook ends. -/
def performAll (perform : ComponentCommand → Program (Memory T) Result) :
    List ComponentCommand → Program (Memory T) (List Result × HookEnd)
  | [] => return ([], .fine)
  | .stop ending :: _ => return ([], ending)
  | c :: rest => do
    let r ← perform c
    match r, c.isMust with
    | .error e, true => return ([r], .failed (.environment e))
    | _, _ =>
      let (rs, ending) ← performAll perform rest
      return (r :: rs, ending)

/-- Run the commands of a hook and log their results. -/
def runHook (who : String) (participant : Option Nat) (hook : HookKind) (tick : Option UInt64)
    (perform : ComponentCommand → Program (Memory T) Result) (cs : List ComponentCommand) :
    Program (Memory T) HookEnd := do
  let (results, ending) ← performAll perform cs
  modify fun m => { m with log := m.log ++ [⟨who, participant, hook, tick, results⟩] }
  return ending

/-- Keep the handle and the key that a participant receives, and run the commands for when it joins.
-/
def join [Time T] (number : Nat) (script : ParticipantScript) (id : ParticipantId) (name : String)
    (h : Handle) : Program (Memory T) HookEnd := do
  modify fun m => keepOwn number h
    ({ m with handles := m.handles.insert name h }.keepKey id.text h.key)
  runHook name (some number) .initialise none
    (performParticipant number (none : Option (TickContext T))) script.onJoin

/-- A scripted participant of the given number. -/
def participant [Time T] (number : Nat) (script : ParticipantScript) (id : ParticipantId)
    (name : String) : Participant (Memory T) T where
  id := id
  name := name
  initialise := join number script id name
  step ctx :=
    runHook name (some number) .step (some ctx.tick) (performParticipant number (some ctx))
      (commandsAt script.steps ctx.tick)

/-- A scripted plugin. -/
def plugin [Time T] (script : PluginScript) (name : String) : Plugin (Memory T) T where
  name := name
  initialise :=
    runHook name none .initialise none (performPlugin (none : Option (TickContext T))) script.onAdd
  execute ctx :=
    runHook name none .execute (some ctx.tick) (performPlugin (some ctx))
      (commandsAt script.steps ctx.tick)
  complete :=
    runHook name none .complete none (performPlugin (none : Option (TickContext T)))
      script.onComplete

end Cadence.Script
