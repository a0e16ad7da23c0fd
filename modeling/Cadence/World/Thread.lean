import Cadence.World.Basic

/-!
# Threads

What a component does, access by access. A request takes one access or several: an action is routed,
handled and counted, and a registration runs the generators between its check and its entry.
Generators are programs that may register somebody in turn. The number of levels to which such
registrations are nested is limited; beyond the last one generators are not run.

`Thread.run` performs a thread with nothing in between. `World.interleave` performs several side by
side, in the order that a schedule gives.
-/

namespace Cadence

/-- The accesses that a component makes, each followed by a continuation for every reply. -/
inductive Thread (M α : Type) where
  | done (a : α)
  | access (a : Access M) (next : a.Reply → Thread M α)

namespace Thread

variable {M α β : Type}

/-- One access. -/
def once (a : Access M) : Thread M a.Reply := access a done

/-- Go on with what a thread ends with. -/
def bind : Thread M α → (α → Thread M β) → Thread M β
  | done a, f => f a
  | access a next, f => access a fun r => (next r).bind f

/-- Apply a function to what a thread ends with. -/
def map (f : α → β) (t : Thread M α) : Thread M β := t.bind fun a => done (f a)

/-- Perform all accesses: what the thread ends with, and the world after it. -/
def run : Thread M α → World M → α × World M
  | done a, w => (a, w)
  | access a next, w => (next (a.apply w).1).run (a.apply w).2

/-- Perform the first access, if there is one. -/
def step : Thread M α → World M → Thread M α × World M
  | done a, w => (done a, w)
  | access a next, w => (next (a.apply w).1, (a.apply w).2)

/-! ## The accesses of a request -/

/-- What a handler does, in the name of the caller. A panic inside an update function ends it. -/
def ofHandler (caller : HandlerId) : HandlerProgram → Thread M HandlerEnd
  | .stop ending => done ending
  | .read key next => access (.readState key) fun r => ofHandler caller (next r)
  | .write key value next => access (.write key value caller) fun r => ofHandler caller (next r)
  | .writeBatch entries next =>
    access (.writeBatch entries caller) fun r => ofHandler caller (next r)
  | .update key f next =>
    access (.update key caller f) fun r =>
      match r with
      | .error (.function (.panicked p)) => done (.panicked p)
      | r => ofHandler caller (next r)

/-- Submit an action. -/
def act (action : Action) (actor : ParticipantId) (key : Key) :
    Thread M (Except EnvironmentError ActionOutcome) :=
  access (.route action actor key) fun r =>
    match r with
    | .error e => access .refuse fun _ => done (.error e)
    | .ok entry =>
      (ofHandler entry.id (entry.handler.handle entry.id action actor)).bind fun ending =>
        once (.settle action actor entry.name ending)

/-- Look up a service for a participant: its own one, else the global one. -/
def participantService (id : ParticipantId) (key : Key) (kind : ServiceKind) :
    Thread M (Except EnvironmentError Service) :=
  access (.ownService id key kind) fun r =>
    match r with
    | .error e => done (.error e)
    | .ok (some s) => done (.ok s)
    | .ok none => once (.globalService kind)

/-- Register a participant: check, generate its services, enter it. -/
def register (generate : Member → Option (Thread M ServiceSet)) (id : ParticipantId)
    (name : String) : Thread M (Except EnvironmentError Admission) :=
  access (.checkAbsent id) fun r =>
    match r, generate ⟨id, name⟩ with
    | .error e, _ => done (.error e)
    | .ok (), none => done (.error (.nestedTooDeeply id))
    | .ok (), some generation => generation.bind fun services => once (.enrol ⟨id, name⟩ services)

/-- Make the services of a participant anew: check, find its line, generate, install. -/
def regenerate (generate : Member → Option (Thread M ServiceSet)) (id : ParticipantId) (key : Key) :
    Thread M (Except EnvironmentError ServiceSet) :=
  access (.tenant id key) fun r =>
    match r with
    | .error e => done (.error e)
    | .ok name =>
      access (.memberLine id) fun line =>
        match generate (line.getD ⟨id, name⟩) with
        | none => done (.error (.nestedTooDeeply id))
        | some generation => generation.bind fun services => once (.install id key services)

/-- The accesses of a request, given how services are generated. -/
def serve (generate : Member → Option (Thread M ServiceSet)) :
    (q : Request M) → Thread M q.Reply
  | .remembered => once .remembered
  | .keep f => once (.keep f)
  | .report e => once (.report e)
  | .act action actor key => act action actor key
  | .register id name => register generate id name
  | .deregister id key => once (.deregister id key)
  | .regenerate id key => regenerate generate id key
  | .participantService id key kind => participantService id key kind
  | .globalService kind => once (.globalService kind)
  | .addService s => once (.addService s)
  | .removeService kind => once (.removeService kind)
  | .isRegistered id => once (.isRegistered id)
  | .isCurrent id key => once (.isCurrent id key)
  | .members => once .members
  | .snapshot => once .snapshot
  | .readState key => once (.readState key)
  | .tableNames => once .tableNames
  | .database c => once (.database c)
  | .control c => once (.control c)

/-- The accesses of a program, given those of requests. -/
def ofProgram (serve : (q : Request M) → Thread M q.Reply) : Program M α → Thread M α
  | .done a => done a
  | .ask q next => (serve q).bind fun r => ofProgram serve (next r)

/-- Run generators in order, each on the services that the one before it left. -/
def generation (serve : (q : Request M) → Thread M q.Reply) (member : Member) :
    List (Generator M) → ServiceSet → Thread M ServiceSet
  | [], services => done services
  | g :: rest, services => (ofProgram serve (g member services)).bind (generation serve member rest)

/-- The accesses of a request with the given number of levels left for nested registrations. -/
def ofRequest (generators : List (Generator M)) : Nat → (q : Request M) → Thread M q.Reply
  | 0 => serve fun _ => none
  | levels + 1 =>
    serve fun member => some (generation (ofRequest generators levels) member generators {})

end Thread

namespace World

variable {M α : Type}

/-- The accesses of a program in the world. -/
def thread (w : World M) (p : Program M α) : Thread M α :=
  .ofProgram (.ofRequest w.generators (w.nesting + 1)) p

/-- Run a program in the world, with nothing in between. -/
def perform (w : World M) (p : Program M α) : α × World M := (w.thread p).run w

/-- Make one request. -/
def call (w : World M) (q : Request M) : q.Reply × World M := w.perform (.request q)

/-- Run threads one after another. -/
def runAll : List (Thread M α) → World M → List α × World M
  | [], w => ([], w)
  | t :: rest, w =>
    let (a, w) := t.run w
    let (others, w) := runAll rest w
    (a :: others, w)

/-- Run threads side by side. Every entry of the schedule is the place of the thread that makes the
next access; when the schedule is over, the threads run to their ends one after another. -/
def interleave : List Nat → List (Thread M α) → World M → List α × World M
  | [], threads, w => runAll threads w
  | i :: rest, threads, w =>
    match threads[i]? with
    | none => interleave rest threads w
    | some t => interleave rest (threads.set i (t.step w).1) (t.step w).2

end World

end Cadence
