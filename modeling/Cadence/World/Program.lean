import Cadence.Database.Basic
import Cadence.Environment.Basic
import Cadence.Log.Event
import Cadence.Operator

/-!
# Programs of components

Components run code of their own. What they can do to the world is a request, and a program is a
tree of requests with a continuation for every reply, so that a statement about every component is a
statement about every tree. `M` is the type of the memory that the components of a run share.
-/

namespace Cadence

/-- A call on the database. -/
inductive DatabaseCall where
  | start
  | stop
  | create (d : TableDescriptor)
  | insert (table : String) (scope : RowScope) (row : Row)
  | commit
  deriving DecidableEq, Repr

/-- What the database answers to a call. -/
abbrev DatabaseCall.Reply : DatabaseCall → Type
  | start => Unit
  | stop => Unit
  | create _ => Except DbError Unit
  | insert _ _ _ => Except DbError Unit
  | commit => Except DbError Nat

/-- Make a call: the answer, and the database after it. -/
def Database.perform (db : Database) : (c : DatabaseCall) → c.Reply × Database
  | .start => ((), db.start)
  | .stop => ((), db.stop)
  | .create d => db.create d
  | .insert table scope row => db.insert table scope row
  | .commit => db.commit

/-- What a running component can ask for. -/
inductive Request (M : Type) where
  /-- The memory that components share. -/
  | remembered
  /-- Change the memory. -/
  | keep (f : M → M)
  /-- Report an event. -/
  | report (e : Event)
  /-- Submit an action. -/
  | act (action : Action) (actor : ParticipantId) (key : Key)
  /-- Register a participant. -/
  | register (id : ParticipantId) (name : String)
  /-- Deregister a participant. -/
  | deregister (id : ParticipantId) (key : Key)
  /-- Generate the services of a participant anew. -/
  | regenerate (id : ParticipantId) (key : Key)
  /-- Look up a service for a participant. -/
  | participantService (id : ParticipantId) (key : Key) (kind : ServiceKind)
  /-- Look up a global service. -/
  | globalService (kind : ServiceKind)
  /-- Add a global service. -/
  | addService (s : Service)
  /-- Withdraw a global service. -/
  | removeService (kind : ServiceKind)
  /-- Whether a participant is registered. -/
  | isRegistered (id : ParticipantId)
  /-- Whether a key is the one of the live registration of a participant. -/
  | isCurrent (id : ParticipantId) (key : Key)
  /-- The members list of the environment. -/
  | members
  /-- All shared state. -/
  | snapshot
  /-- The value at a key of the shared state. -/
  | readState (key : StateKey)
  /-- The names of the tables of the database. -/
  | tableNames
  /-- Call the database. -/
  | database (c : DatabaseCall)
  /-- Control the run. -/
  | control (c : OperatorCommand)

/-- What the world answers to a request. -/
abbrev Request.Reply {M : Type} : Request M → Type
  | remembered => M
  | keep _ => Unit
  | report _ => Unit
  | act _ _ _ => Except EnvironmentError ActionOutcome
  | register _ _ => Except EnvironmentError Admission
  | deregister _ _ => Except EnvironmentError Unit
  | regenerate _ _ => Except EnvironmentError ServiceSet
  | participantService _ _ _ => Except EnvironmentError Service
  | globalService _ => Except EnvironmentError Service
  | addService _ => Bool
  | removeService _ => Bool
  | isRegistered _ => Bool
  | isCurrent _ _ => Bool
  | members => List Member
  | snapshot => OrderedMap StateKey Value
  | readState _ => Except StateError Value
  | tableNames => List String
  | database c => c.Reply
  | control _ => Unit

/-- A program that ends with a result after finitely many requests. -/
inductive Program (M : Type) (α : Type) where
  | done (a : α)
  | ask (q : Request M) (next : q.Reply → Program M α)

namespace Program

variable {M α β : Type}

/-- Make one request. -/
def request (q : Request M) : Program M q.Reply := ask q done

/-- Go on with what a program ends with. -/
def bind : Program M α → (α → Program M β) → Program M β
  | done a, f => f a
  | ask q next, f => ask q fun r => (next r).bind f

instance : Monad (Program M) where
  pure := done
  bind := bind

/-- Every request that the program can come to satisfies the predicate. -/
def Uses (allowed : Request M → Prop) : Program M α → Prop
  | done _ => True
  | ask q next => allowed q ∧ ∀ r, (next r).Uses allowed

end Program

end Cadence
