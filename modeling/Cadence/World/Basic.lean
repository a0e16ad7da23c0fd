import Cadence.World.Program

/-!
# The world of a run

Everything that components share: the environment, the generators of services, the database, the
controls of the run, a memory, and the events reported so far. What components do to the world comes
down to accesses: `Access.apply` performs one, and nothing happens between its beginning and its
end.
-/

namespace Cadence

/-- A policy that adds to the services of a member, or takes from them. -/
def Generator (M : Type) : Type := Member → ServiceSet → Program M ServiceSet

/-- What the components of a run share. -/
structure World (M : Type) where
  environment : Environment
  generators : List (Generator M) := []
  /-- Number of levels to which registrations may be nested in others. -/
  nesting : Nat := 1
  database : Database := {}
  operator : Operator := {}
  memory : M
  events : List Event := []

/-- An access to what components share that nothing comes in between. -/
inductive Access (M : Type) where
  /-- The memory that components share. -/
  | remembered
  /-- Change the memory. -/
  | keep (f : M → M)
  /-- Report an event. -/
  | report (e : Event)
  /-- Find the handler of an action. -/
  | route (action : Action) (actor : ParticipantId) (key : Key)
  /-- Count an action that no handler looks at. -/
  | refuse
  /-- Count an action that a handler has looked at. -/
  | settle (action : Action) (actor : ParticipantId) (handler : String) (ending : HandlerEnd)
  /-- The value at a key of the shared state. -/
  | readState (key : StateKey)
  /-- Write a value in the name of a handler. -/
  | write (key : StateKey) (value : Value) (caller : HandlerId)
  /-- Write several values in the name of a handler. -/
  | writeBatch (entries : List (StateKey × Value)) (caller : HandlerId)
  /-- Replace a value in the name of a handler. -/
  | update (key : StateKey) (caller : HandlerId) (f : Option Value → Except Refusal Value)
  /-- All shared state. -/
  | snapshot
  /-- Check that a participant is not registered. -/
  | checkAbsent (id : ParticipantId)
  /-- Enter a participant with its services. -/
  | enrol (member : Member) (services : ServiceSet)
  /-- Deregister a participant. -/
  | deregister (id : ParticipantId) (key : Key)
  /-- The name under which a participant is registered, for whoever has its key. -/
  | tenant (id : ParticipantId) (key : Key)
  /-- The line of a participant in the members list. -/
  | memberLine (id : ParticipantId)
  /-- Give a participant new services. -/
  | install (id : ParticipantId) (key : Key) (services : ServiceSet)
  /-- Look up a service among those made for a participant. -/
  | ownService (id : ParticipantId) (key : Key) (kind : ServiceKind)
  /-- Look up a global service. -/
  | globalService (kind : ServiceKind)
  /-- Add a global service. -/
  | addService (s : Service)
  /-- Withdraw a global service. -/
  | removeService (kind : ServiceKind)
  /-- Whether a participant is registered. -/
  | isRegistered (id : ParticipantId)
  /-- Whether a key is the one of the live registration of a participant. -/
  | isCurrent (id : ParticipantId) (key : Key)
  /-- The members list. -/
  | members
  /-- The names of the tables of the database. -/
  | tableNames
  /-- Call the database. -/
  | database (c : DatabaseCall)
  /-- Control the run. -/
  | control (c : OperatorCommand)

/-- What the world answers to an access. -/
abbrev Access.Reply {M : Type} : Access M → Type
  | remembered => M
  | keep _ => Unit
  | report _ => Unit
  | route _ _ _ => Except EnvironmentError RegisteredHandler
  | refuse => Unit
  | settle _ _ _ _ => Except EnvironmentError ActionOutcome
  | readState _ => Except StateError Value
  | write _ _ _ => Except StateError (Option Value)
  | writeBatch _ _ => Except StateError Unit
  | update _ _ _ => Except (UpdateError Refusal) Value
  | snapshot => OrderedMap StateKey Value
  | checkAbsent _ => Except EnvironmentError Unit
  | enrol _ _ => Except EnvironmentError Admission
  | deregister _ _ => Except EnvironmentError Unit
  | tenant _ _ => Except EnvironmentError String
  | memberLine _ => Option Member
  | install _ _ _ => Except EnvironmentError ServiceSet
  | ownService _ _ _ => Except EnvironmentError (Option Service)
  | globalService _ => Except EnvironmentError Service
  | addService _ => Bool
  | removeService _ => Bool
  | isRegistered _ => Bool
  | isCurrent _ _ => Bool
  | members => List Member
  | tableNames => List String
  | database c => c.Reply
  | control _ => Unit

namespace World

variable {M α : Type}

/-- The world with another environment, and an answer. -/
def inEnvironment (w : World M) (r : α × Environment) : α × World M :=
  (r.1, { w with environment := r.2 })

/-- The world with other shared state, and an answer. -/
def inStore (w : World M) (r : α × Store) : α × World M :=
  w.inEnvironment (r.1, { w.environment with store := r.2 })

/-- Open the action window for a tick. -/
def openTick (w : World M) (tick : UInt64) : World M :=
  { w with environment := w.environment.openTick tick }

/-- Close the action window; the answer is what it has counted. -/
def closeTick (w : World M) : ActionStats × World M := w.inEnvironment w.environment.closeTick

end World

/-- Perform an access: the answer, and the world after it. -/
def Access.apply {M : Type} : (a : Access M) → World M → a.Reply × World M
  | remembered, w => (w.memory, w)
  | keep f, w => ((), { w with memory := f w.memory })
  | report e, w => ((), { w with events := w.events ++ [e] })
  | route action actor key, w => (w.environment.route action actor key, w)
  | refuse, w => w.inEnvironment ((), w.environment.record .addRefused)
  | settle action actor handler ending, w =>
    w.inEnvironment (w.environment.settle action actor handler ending)
  | readState key, w => (w.environment.store.read key, w)
  | write key value caller, w => w.inStore (w.environment.store.write key value caller)
  | writeBatch entries caller, w => w.inStore (w.environment.store.writeBatch entries caller)
  | update key caller f, w => w.inStore (w.environment.store.update key caller f)
  | snapshot, w => (w.environment.store.snapshot, w)
  | checkAbsent id, w => (w.environment.checkAbsent id, w)
  | enrol member services, w => w.inEnvironment (w.environment.enrol member services)
  | deregister id key, w => w.inEnvironment (w.environment.deregister id key)
  | tenant id key, w => (w.environment.tenant id key, w)
  | memberLine id, w => (w.environment.member? id, w)
  | install id key services, w => w.inEnvironment (w.environment.install id key services)
  | ownService id key kind, w => (w.environment.ownService id key kind, w)
  | globalService kind, w => (w.environment.globalService kind, w)
  | addService s, w => w.inEnvironment (w.environment.addService s)
  | removeService kind, w => w.inEnvironment (w.environment.removeService kind)
  | isRegistered id, w => (w.environment.isRegistered id, w)
  | isCurrent id key, w => (w.environment.isCurrent id key, w)
  | members, w => (w.environment.members, w)
  | tableNames, w => (w.database.tableNames, w)
  | database c, w => ((w.database.perform c).1, { w with database := (w.database.perform c).2 })
  | control c, w => ((), { w with operator := w.operator.obey c })

end Cadence
