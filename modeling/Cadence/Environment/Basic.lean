import Cadence.Environment.Window
import Cadence.State.Registry

/-!
# The environment

The one gateway between participants and shared state. A registration issues a key, and every call
of a participant presents it: `Environment.authorize` accepts exactly the key of the registration
that is live. An action goes to the handler of its tag while the window is open (`Environment.act`).
What runs between the check and the entry of a registration, the generation of services, is not part
of this module; so registration comes in two parts here, `checkAbsent` and `enrol`, and the renewal
of services in three, `tenant`, `member?` and `install`.
-/

namespace Cadence

/-- A live registration. -/
structure Registration where
  id : ParticipantId
  name : String
  key : Key
  services : ServiceSet
  deriving DecidableEq, Repr

/-- One line of the members list. -/
structure Member where
  id : ParticipantId
  name : String
  deriving DecidableEq, Repr, Inhabited

/-- The answer to a successful registration. -/
structure Admission where
  participant : ParticipantId
  key : Key
  services : ServiceSet
  deriving DecidableEq, Repr

/-- The environment. -/
structure Environment where
  registry : Registry
  store : Store
  registrations : List Registration := []
  members : List Member := []
  globals : ServiceSet
  window : Window := {}
  supply : KeySupply
  drawn : Nat := 0

namespace Environment

/-- The environment with the given handlers and global services, before anybody registers. The
members list and the view of the shared state are always among its services. -/
def build (registry : Registry) (services : ServiceSet) (supply : KeySupply) : Environment where
  registry := registry
  store := .withOwners registry.keyOwners
  globals := ServiceSet.add (ServiceSet.add services (.members .environment)) .view
  supply := supply

/-! ## Registrations -/

/-- The live registration of a participant. -/
def registration? (e : Environment) (id : ParticipantId) : Option Registration :=
  e.registrations.find? fun r => r.id == id

/-- Whether a participant is registered. -/
def isRegistered (e : Environment) (id : ParticipantId) : Bool := (e.registration? id).isSome

/-- The registration of a participant, if the key is the one it issued. -/
def holder? (e : Environment) (id : ParticipantId) (key : Key) : Option Registration :=
  (e.registration? id).filter fun r => r.key == key

/-- Whether a key is the one that the live registration of a participant issued. -/
def isCurrent (e : Environment) (id : ParticipantId) (key : Key) : Bool := (e.holder? id key).isSome

/-- Check that a key is current. -/
def authorize (e : Environment) (id : ParticipantId) (key : Key) : Except EnvironmentError Unit :=
  if e.isCurrent id key then .ok () else .error (.invalidAuthorization id)

/-- Check that a participant is not registered. -/
def checkAbsent (e : Environment) (id : ParticipantId) : Except EnvironmentError Unit :=
  if e.isRegistered id then .error (.alreadyRegistered id) else .ok ()

/-- The next key of the supply that no live registration holds, and the place after it. -/
def nextKey (e : Environment) : Key × Nat :=
  e.supply.next (e.registrations.map Registration.key) e.drawn

/-- The environment with one more registration, under the next key. -/
def enter (e : Environment) (member : Member) (services : ServiceSet) : Environment :=
  { e with
    registrations := e.registrations ++ [⟨member.id, member.name, e.nextKey.1, services⟩]
    members := e.members ++ [member]
    drawn := e.nextKey.2 }

/-- Enter a participant with its services, unless it is registered already. -/
def enrol (e : Environment) (member : Member) (services : ServiceSet) :
    Except EnvironmentError Admission × Environment :=
  match e.checkAbsent member.id with
  | .error err => (.error err, e)
  | .ok () => (.ok ⟨member.id, e.nextKey.1, services⟩, e.enter member services)

/-- The environment without the registration of a participant. -/
def leave (e : Environment) (id : ParticipantId) : Environment :=
  { e with
    registrations := e.registrations.filter fun r => r.id != id
    members := e.members.filter fun m => m.id != id }

/-- Remove a participant; its key is not current any more. -/
def deregister (e : Environment) (id : ParticipantId) (key : Key) :
    Except EnvironmentError Unit × Environment :=
  match e.authorize id key with
  | .error err => (.error err, e)
  | .ok () => (.ok (), e.leave id)

/-- Registered participants in the order of their registrations. -/
def participants (e : Environment) : List ParticipantId := e.members.map Member.id

/-- The line of a participant in the members list. -/
def member? (e : Environment) (id : ParticipantId) : Option Member :=
  e.members.find? fun m => m.id == id

/-! ## Services -/

/-- Look up a global service. -/
def globalService (e : Environment) (kind : ServiceKind) : Except EnvironmentError Service :=
  match e.globals.get? kind with
  | some s => .ok s
  | none => .error (.unavailableService kind)

/-- Look up a service among those made for a participant. -/
def ownService (e : Environment) (id : ParticipantId) (key : Key) (kind : ServiceKind) :
    Except EnvironmentError (Option Service) :=
  match e.holder? id key with
  | none => .error (.invalidAuthorization id)
  | some r => .ok (r.services.get? kind)

/-- Look up a service for a participant: its own one, else the global one. -/
def participantService (e : Environment) (id : ParticipantId) (key : Key) (kind : ServiceKind) :
    Except EnvironmentError Service :=
  match e.ownService id key kind with
  | .error err => .error err
  | .ok (some s) => .ok s
  | .ok none => e.globalService kind

/-- Add a global service; the answer says whether it replaced one. -/
def addService (e : Environment) (s : Service) : Bool × Environment :=
  (e.globals.contains s.kind, { e with globals := ServiceSet.add e.globals s })

/-- Withdraw a global service; the answer says whether there was one. -/
def removeService (e : Environment) (kind : ServiceKind) : Bool × Environment :=
  (e.globals.contains kind, { e with globals := e.globals.erase kind })

/-- The name under which a participant is registered, for whoever has its key. -/
def tenant (e : Environment) (id : ParticipantId) (key : Key) : Except EnvironmentError String :=
  match e.holder? id key with
  | none => .error (.invalidAuthorization id)
  | some r => .ok r.name

/-- Give a participant new services, if its key is still current. -/
def install (e : Environment) (id : ParticipantId) (key : Key) (services : ServiceSet) :
    Except EnvironmentError ServiceSet × Environment :=
  match e.authorize id key with
  | .error err => (.error err, e)
  | .ok () =>
    (.ok services, { e with
      registrations := e.registrations.map fun r =>
        if r.id = id then { r with services := services } else r })

/-! ## Actions -/

/-- Change the statistics of the window. -/
def record (e : Environment) (f : ActionStats → ActionStats) : Environment :=
  { e with window := { e.window with stats := f e.window.stats } }

/-- The handler that an action goes to, or why it goes nowhere: the key comes first, then the
window, then the tag. -/
def route (e : Environment) (action : Action) (actor : ParticipantId) (key : Key) :
    Except EnvironmentError RegisteredHandler :=
  match e.authorize actor key with
  | .error err => .error err
  | .ok () =>
    match e.window.check with
    | .error err => .error err
    | .ok () => e.registry.resolve action.tag

/-- Count the end of an action that a handler has looked at, and answer for it. -/
def settle (e : Environment) (action : Action) (actor : ParticipantId) (handler : String) :
    HandlerEnd → Except EnvironmentError ActionOutcome × Environment
  | ending =>
    match ending.result with
    | .ok (.applied response) => (.ok (.applied response), e.record .addApplied)
    | .ok (.rejected reason) => (.ok (.rejected reason), e.record .addRejected)
    | .error reason =>
      (.error (.actionExecutionFailed action.tag handler reason),
        e.record fun s => s.addFailure ⟨actor, action.tag, handler, reason⟩)

/-- Submit an action. -/
def act (e : Environment) (action : Action) (actor : ParticipantId) (key : Key) :
    Except EnvironmentError ActionOutcome × Environment :=
  match e.route action actor key with
  | .error err => (.error err, e.record .addRefused)
  | .ok entry =>
    let (ending, store) := (entry.handler.handle entry.id action actor).run entry.id e.store
    { e with store := store }.settle action actor entry.name ending

/-- Open the window for a tick. -/
def openTick (e : Environment) (tick : UInt64) : Environment :=
  { e with window := e.window.openFor tick }

/-- Close the window; the answer is what it has counted. -/
def closeTick (e : Environment) : ActionStats × Environment :=
  (e.window.stats, { e with window := e.window.close })

/-! ## Debug texts -/

/-- How an environment shows before it is built, with the number of its generators. -/
def builderText (registry : Registry) (services : ServiceSet) (generators : Nat) : String :=
  "EnvironmentBuilder \x7b registry: " ++ registry.debugText ++ ", services: " ++
    ServiceSet.debugText services ++ ", generators: " ++ toString generators ++ " \x7d"

/-- How an environment shows in a debug text. -/
def debugText (e : Environment) : String :=
  "EnvironmentConnector \x7b registry: " ++ e.registry.debugText ++ ", participants: " ++
    toString e.members.length ++ ", services: [" ++
    Text.commaSeparated ((ServiceSet.names e.globals).map Text.quoted) ++ "], .. \x7d"

end Environment

/-- How the answer to a successful registration shows in a debug text. -/
def Admission.debugText (a : Admission) : String :=
  "EnvironmentRegistrationResponse \x7b participant: " ++ a.participant.debugText ++ ", key: " ++
    a.key.debugText ++ ", services: " ++ ServiceSet.debugText a.services ++ " \x7d"

end Cadence
