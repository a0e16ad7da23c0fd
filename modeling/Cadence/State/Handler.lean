import Cadence.State.Store

/-!
# Handlers

A handler declares the tags of the actions it takes and the keys of the shared state it owns. What
it does about an action is a program: a tree of calls on the store, each followed by a continuation
for every reply, that ends in an outcome, an error or a panic. `HandlerProgram.run` performs the
calls in the name of the handler; what was written before an error or a panic stays.
-/

namespace Cadence

/-- What code leaves behind that breaks off without an answer. -/
inductive Panic where
  | text (message : String)
  | other
  deriving DecidableEq, Repr

namespace Panic

/-- The text of a panic. -/
def message : Panic → String
  | text s => s
  | other => "non-string panic payload"

end Panic

/-- Why a handler fails. -/
inductive HandlerError where
  | state (e : StateError)
  | payload (e : PayloadError)
  | failed (reason : String)
  deriving DecidableEq, Repr

namespace HandlerError

/-- The text of the cause. -/
def message : HandlerError → String
  | state e => e.message
  | payload e => e.message
  | failed reason => reason

end HandlerError

/-- Why the function of an update yields no value. -/
inductive Refusal where
  | rejected (reason : String)
  | failed (e : HandlerError)
  | panicked (p : Panic)
  deriving DecidableEq, Repr

/-- How the handling of an action ends. -/
inductive HandlerEnd where
  | finished (outcome : ActionOutcome)
  | failed (e : HandlerError)
  | panicked (p : Panic)
  deriving DecidableEq, Repr

namespace HandlerEnd

/-- The outcome, or the text of the failure. -/
def result : HandlerEnd → Except String ActionOutcome
  | finished outcome => .ok outcome
  | failed e => .error e.message
  | panicked p => .error ("panicked: " ++ p.message)

/-- How a handler ends that gives up because an update did not happen. -/
def ofUpdateError : UpdateError Refusal → HandlerEnd
  | .state e => .failed (.state e)
  | .function (.rejected reason) => .finished (.rejected reason)
  | .function (.failed e) => .failed e
  | .function (.panicked p) => .panicked p

/-- How a handler ends whose answer is the value of an update. -/
def ofUpdate : Except (UpdateError Refusal) Value → HandlerEnd
  | .ok v => .finished (.applied v)
  | .error e => ofUpdateError e

end HandlerEnd

/-- What a handler does about one action. -/
inductive HandlerProgram where
  | stop (ending : HandlerEnd)
  | read (key : StateKey) (next : Except StateError Value → HandlerProgram)
  | write (key : StateKey) (value : Value)
      (next : Except StateError (Option Value) → HandlerProgram)
  | writeBatch (entries : List (StateKey × Value)) (next : Except StateError Unit → HandlerProgram)
  | update (key : StateKey) (f : Option Value → Except Refusal Value)
      (next : Except (UpdateError Refusal) Value → HandlerProgram)

namespace HandlerProgram

/-- Perform the first call of a program, if it has one, in the name of the caller. A panic inside an
update function ends the program. -/
def step (caller : HandlerId) (s : Store) : HandlerProgram → HandlerProgram × Store
  | stop ending => (stop ending, s)
  | read key next => (next (s.read key), s)
  | write key value next => (next (s.write key value caller).1, (s.write key value caller).2)
  | writeBatch entries next =>
    (next (s.writeBatch entries caller).1, (s.writeBatch entries caller).2)
  | update key f next =>
    let (reply, s) := s.update key caller f
    match reply with
    | .error (.function (.panicked p)) => (stop (.panicked p), s)
    | reply => (next reply, s)

/-- Perform all calls of a program in the name of the caller: how it ends, and the store after it.
-/
def run (caller : HandlerId) : HandlerProgram → Store → HandlerEnd × Store
  | stop ending, s => (ending, s)
  | read key next, s => (next (s.read key)).run caller s
  | write key value next, s =>
    (next (s.write key value caller).1).run caller (s.write key value caller).2
  | writeBatch entries next, s =>
    (next (s.writeBatch entries caller).1).run caller (s.writeBatch entries caller).2
  | update key f next, s =>
    match s.update key caller f with
    | (.error (.function (.panicked p)), s) => (.panicked p, s)
    | (reply, s) => (next reply).run caller s

end HandlerProgram

/-- A handler: its name, what it declares, and what it does. -/
structure Handler where
  name : String
  tags : List ActionTag
  keys : List StateKey := []
  handle : HandlerId → Action → ParticipantId → HandlerProgram

end Cadence
