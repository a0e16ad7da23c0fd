import Cadence.Clock
import Cadence.World.Program

/-!
# Components

A participant acts: it is registered, receives a handle with its key, and is stepped once per tick.
A plugin observes: it runs after the participants of a tick and once at the end of the run. Their
hooks are programs that end well, with an error, or in a panic; `HookEnd.guarded` makes an error of
a panic.
-/

namespace Cadence

/-- What a component sees of the current tick. -/
structure TickContext (T : Type) where
  tick : UInt64
  time : T
  deriving DecidableEq, Repr

/-- Why a hook fails. -/
inductive ComponentError where
  | environment (e : EnvironmentError)
  | panicked (message : String)
  | failed (reason : String)
  /-- A failure of something the component depends on. -/
  | other (reason : String)
  deriving DecidableEq, Repr

namespace ComponentError

/-- The text of the cause. -/
def message : ComponentError → String
  | environment e => e.message
  | panicked s => "panicked: " ++ s
  | failed reason => reason
  | other reason => reason

end ComponentError

/-- How a hook ends. -/
inductive HookEnd where
  | fine
  | failed (e : ComponentError)
  | panicked (p : Panic)
  deriving DecidableEq, Repr

namespace HookEnd

/-- The error of a hook, a panic being one. -/
def guarded : HookEnd → Except ComponentError Unit
  | fine => .ok ()
  | failed e => .error e
  | panicked p => .error (.panicked p.message)

/-- The error of a hook, if it has one. -/
def failure? (ending : HookEnd) : Option ComponentError :=
  match ending.guarded with
  | .ok () => none
  | .error e => some e

end HookEnd

/-- A hook of a component. -/
abbrev Hook (M : Type) : Type := Program M HookEnd

/-- A participant's connection to the environment: who it is, its key, and the services made for it.
-/
structure Handle where
  id : ParticipantId
  key : Key
  services : ServiceSet
  deriving DecidableEq, Repr

/-- A component that acts. -/
structure Participant (M T : Type) where
  id : ParticipantId
  name : String
  initialise : Handle → Hook M
  step : TickContext T → Hook M

/-- A component that observes. -/
structure Plugin (M T : Type) where
  name : String
  initialise : Hook M := .done .fine
  execute : TickContext T → Hook M
  complete : Hook M := .done .fine

namespace Handle

variable {M : Type}

/-- The handle that a registration gives. -/
def ofAdmission (a : Admission) : Handle := ⟨a.participant, a.key, a.services⟩

/-- How a handle on the environment shows in a debug text. -/
def debugText (h : Handle) (e : Environment) : String :=
  "ParticipantHandle \x7b connector: " ++ e.debugText ++ ", id: " ++ h.id.debugText ++ ", key: " ++
    h.key.debugText ++ ", services: " ++ ServiceSet.debugText h.services ++ " \x7d"

/-- Submit an action. -/
def act (h : Handle) (action : Action) : Program M (Except EnvironmentError ActionOutcome) :=
  .request (.act action h.id h.key)

/-- Look up a service. -/
def service (h : Handle) (kind : ServiceKind) : Program M (Except EnvironmentError Service) :=
  .request (.participantService h.id h.key kind)

/-- Leave the environment. -/
def leave (h : Handle) : Program M (Except EnvironmentError Unit) :=
  .request (.deregister h.id h.key)

/-- Make the services anew; the handle after it has the new ones. -/
def regenerate (h : Handle) : Program M (Except EnvironmentError ServiceSet × Handle) := do
  match ← Program.request (.regenerate h.id h.key) with
  | .ok services => return (.ok services, { h with services := services })
  | .error e => return (.error e, h)

end Handle

/-! ## Services for plugins -/

/-- What plugins get of an environment: it finds services by their kinds, and can do nothing else.
-/
structure PluginManager (M : Type) where
  provide : ServiceKind → Program M (Option Service)

namespace PluginManager

variable {M : Type}

/-- The manager that an environment hands out. It looks among the global services when it is asked,
and keeps none of them. -/
def ofEnvironment (_ : Environment) : PluginManager M where
  provide kind := do return (← Program.request (.globalService kind)).toOption

/-- Look up a global service. -/
def service (m : PluginManager M) (kind : ServiceKind) :
    Program M (Except EnvironmentError Service) := do
  match ← m.provide kind with
  | some s => return .ok s
  | none => return .error (.unavailableService kind)

end PluginManager

/-! ## Reading shared state -/

namespace StateView

variable {M : Type}

/-- The value at a key of the shared state. -/
def read (key : StateKey) : Program M (Except StateError Value) := .request (.readState key)

/-- Whether a key of the shared state has a value. -/
def contains (key : StateKey) : Program M Bool := do
  match ← read key with
  | .ok _ => return true
  | .error _ => return false

/-- All shared state. -/
def snapshot : Program M (OrderedMap StateKey Value) := .request .snapshot

end StateView

/-! ## Places in the memory -/

/-- A place in a memory that holds something of one type. -/
structure Place (M σ : Type) where
  get : M → σ
  put : σ → M → M
  get_put : ∀ s m, get (put s m) = s

namespace Place

variable {M σ : Type}

/-- What the place holds. -/
def read (p : Place M σ) : Program M σ := do
  return p.get (← Program.request .remembered)

/-- Put something into the place. -/
def write (p : Place M σ) (s : σ) : Program M Unit := .request (.keep (p.put s))

/-- The place at one key of a map that a place holds; without an entry it holds the default. -/
def entry {κ : Type} [DecidableEq κ] [Ord κ] [Std.LawfulEqOrd κ]
    (p : Place M (OrderedMap κ σ)) (k : κ)
    (default : σ) : Place M σ where
  get m := ((p.get m).get? k).getD default
  put s m := p.put ((p.get m).insert k s) m
  get_put s m := by rw [p.get_put, OrderedMap.get?_insert_self]; rfl

end Place

end Cadence
