import Cadence.Ring
import Cadence.World.Component

/-!
# The reporter of the ring

A plugin that reports how many cells of the ring are occupied after every tick, and the ring and the
tally at the end of the run.
-/

namespace Cadence.Reporter

/-- The part that reports the events of the demonstration. -/
def target : String := "lockstep_engine::scenario"

variable {M T : Type}

/-- The ring of the shared state, or why it cannot be read. -/
def readRing : Program M (Except ComponentError Ring) := do
  match Ring.load ((← Program.request .snapshot).get? Ring.key) with
  | .ok ring => return .ok ring
  | .error e => return .error (.other e.message)

/-- The number of members that a list of members shows. -/
def count : Roster → Program M Nat
  | .environment => do return (← Program.request .members).length
  | .unattended => return 0

/-- Look up the services that are needed. -/
def initialise (place : Place M (Option Roster)) : Program M HookEnd := do
  match ← Program.request (.globalService .view) with
  | .error e => return .failed (.environment e)
  | .ok _ =>
    match ← Program.request (.globalService .members) with
    | .error e => return .failed (.environment e)
    | .ok (.members roster) =>
      place.write (some roster)
      return .fine
    | .ok _ => return .failed (.environment (.unavailableService .members))

/-- Report the ring after a tick. -/
def execute (place : Place M (Option Roster)) (ctx : TickContext T) : Program M HookEnd := do
  match ← place.read with
  | none => return .failed (.failed "reporter used before initialise")
  | some roster =>
    match ← readRing with
    | .error e => return .failed e
    | .ok ring =>
      let walkers ← count roster
      Program.request (.report ⟨.debug, target, "Ring occupancy",
        [("tick", .nat ctx.tick.toNat), ("walkers", .nat walkers), ("occupied", .nat ring.occupied),
          ("collisions", .nat ring.collisions.toNat)]⟩)
      return .fine

/-- Report the ring at the end. -/
def complete (place : Place M (Option Roster)) : Program M HookEnd := do
  match ← place.read with
  | none => return .failed (.failed "reporter used before initialise")
  | some _ =>
    match ← readRing with
    | .error e => return .failed e
    | .ok ring =>
      let tally := Tally.load ((← Program.request .snapshot).get? Tally.key)
      Program.request (.report ⟨.info, target, "Ring final state",
        [("walkers", .nat ring.positions.size), ("occupied", .nat ring.occupied),
          ("collisions", .nat ring.collisions.toNat), ("tally", .nat tally)]⟩)
      return .fine

/-- The reporter. -/
def plugin (place : Place M (Option Roster)) : Plugin M T where
  name := "ring-reporter"
  initialise := initialise place
  execute := execute place
  complete := complete place

end Cadence.Reporter
