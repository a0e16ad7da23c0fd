import Cadence.World.Component

/-!
# The recorder

A plugin that writes the whole shared state into a table of the database after every tick, one row
per entry, and commits.
-/

namespace Cadence

/-- What a recorder remembers: whether it has been initialised, and how many rows it has committed.
-/
structure RecorderState where
  ready : Bool := false
  rowsRecorded : Nat := 0
  deriving DecidableEq, Repr, Inhabited

namespace Recorder

/-- The name of the table unless another one is given. -/
def defaultTable : String := "shared_state"

/-- The description of the recorder's table. -/
def describe (table : String) : TableDescriptor where
  name := table
  fields := [⟨"key", .text⟩, ⟨"value", .json⟩, ⟨"time", .text⟩]
  perTimestep := true

/-- The row of an entry of the shared state. -/
def row (time : String) (key : StateKey) (value : Value) : Row :=
  (((({} : Row).put "key" key.encode).put "value" value).put "time" (.string time))

variable {M T : Type}

/-- Call the database; a refusal is a failure of the hook. -/
def call (c : DatabaseCall) {α : Type} (reply : c.Reply → Except DbError α) :
    Program M (Except ComponentError α) := do
  match reply (← Program.request (.database c)) with
  | .ok a => return .ok a
  | .error e => return .error (.other e.message)

/-- Start the database and create the table. -/
def initialise (place : Place M RecorderState) (table : String) : Program M HookEnd := do
  match ← Program.request (.globalService .view) with
  | .error e => return .failed (.environment e)
  | .ok _ =>
    let state ← place.read
    place.write { state with ready := true }
    match (describe table).build with
    | .error e => return .failed (.other e.message)
    | .ok descriptor =>
      Program.request (.database .start)
      match ← call (.create descriptor) id with
      | .error e => return .failed e
      | .ok () => return .fine

/-- Insert a row for every entry, up to the first that is refused. -/
def insertAll (table : String) (scope : RowScope) (time : String) :
    List (StateKey × Value) → Program M (Except ComponentError Unit)
  | [] => return .ok ()
  | (key, value) :: rest => do
    match ← call (.insert table scope (row time key value)) id with
    | .error e => return .error e
    | .ok () => insertAll table scope time rest

/-- Record the shared state of a tick. -/
def execute [Time T] (place : Place M RecorderState) (table : String) (ctx : TickContext T) :
    Program M HookEnd := do
  let state ← place.read
  if state.ready then
    let entries := (← Program.request .snapshot).entries
    match ← insertAll table (.atTick ctx.tick) (Time.text ctx.time) entries with
    | .error e => return .failed e
    | .ok () =>
      match ← call .commit id with
      | .error e => return .failed e
      | .ok committed =>
        place.write { state with rowsRecorded := state.rowsRecorded + committed }
        return .fine
  else return .failed (.failed "state recorder used before initialise")

/-- Stop the database. -/
def complete : Program M HookEnd := do
  Program.request (.database .stop)
  return .fine

/-- The recorder into a table. -/
def plugin [Time T] (place : Place M RecorderState) (table : String) : Plugin M T where
  name := "state-recorder"
  initialise := initialise place table
  execute := execute place table
  complete := complete

end Recorder

end Cadence
