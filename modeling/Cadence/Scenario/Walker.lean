import Cadence.Random
import Cadence.Ring
import Cadence.World.Component

/-!
# Walkers

A walker enters the ring on a random cell when it joins, takes one random step per tick, and tallies
it. Its steps are those of its own stream of random numbers, which the place it is given holds.
-/

namespace Cadence

/-- What a walker remembers: its stream, and its handle from when it is on the ring. -/
structure WalkerState where
  stream : RandomStream
  handle : Option Handle := none
  deriving DecidableEq, Repr

namespace Walker

/-- The part that reports the events of the demonstration. -/
def target : String := "lockstep_engine::scenario"

/-- A walker of the given seed before it joins. -/
def fresh (seed : UInt64) : WalkerState := ⟨.seeded seed, none⟩

/-- The seed of a walker created after some others. -/
def seedOf (seed : UInt64) (created : Nat) : UInt64 := seed + UInt64.ofNat created

/-- The action to enter the ring on a cell. -/
def enterAction (cell : UInt32) : Action := ⟨Ring.enterTag, EnterParams.encode ⟨cell⟩⟩

/-- The action to take a step. -/
def moveAction (step : Int8) : Action := ⟨Ring.moveTag, MoveParams.encode ⟨step⟩⟩

/-- How a rejection shows in a debug text. -/
def rejectionText (reason : String) : String :=
  "Rejected \x7b reason: " ++ Text.quoted reason ++ " \x7d"

variable {M T : Type}

/-- Enter the ring on a random cell. -/
def initialise (place : Place M WalkerState) (name : String) (size : UInt32) (handle : Handle) :
    Program M HookEnd := do
  if size = 0 then
    return .panicked (.text "cannot sample empty range")
  else
    let state ← place.read
    let (cell, stream) := state.stream.below size.toNat
    place.write { state with stream := stream }
    match ← handle.act (enterAction (UInt32.ofNat cell)) with
    | .error e => return .failed (.environment e)
    | .ok (.rejected reason) =>
      return .failed (.failed ("could not enter the ring: " ++ rejectionText reason))
    | .ok (.applied _) =>
      Program.request (.report ⟨.debug, target, "Walker entered the ring",
        [("walker", .string name), ("cell", .nat cell)]⟩)
      place.write { stream := stream, handle := some handle }
      return .fine

/-- Take a random step, and tally it. -/
def step (place : Place M WalkerState) (name : String) (ctx : TickContext T) :
    Program M HookEnd := do
  let state ← place.read
  let (drawn, stream) := state.stream.below 3
  place.write { state with stream := stream }
  match state.handle with
  | none => return .failed (.failed "walker used before initialise")
  | some handle =>
    match ← handle.act (moveAction (Int8.ofInt ((drawn : Int) - 1))) with
    | .error e => return .failed (.environment e)
    | .ok outcome =>
      if let .rejected reason := outcome then
        Program.request (.report ⟨.debug, target, "Move rejected",
          [("walker", .string name), ("tick", .nat ctx.tick.toNat),
            ("outcome", .string (rejectionText reason))]⟩)
      match ← handle.act (.bare Tally.tag) with
      | .error e => return .failed (.environment e)
      | .ok _ => return .fine

/-- A walker on a ring of the given size. -/
def participant (place : Place M WalkerState) (size : UInt32) (id : ParticipantId) (name : String) :
    Participant M T where
  id := id
  name := name
  initialise := initialise place name size
  step := step place name

end Walker

end Cadence
