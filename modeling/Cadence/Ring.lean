import Cadence.Numeric.Word
import Cadence.State.Handler

/-!
# The ring

Walkers stand on the cells of a ring. Two handlers own the shared state of the demonstration: one
places and moves the walkers and counts how often one of them lands on an occupied cell, the other
tallies. `Ring.enter` and `Ring.move` are the rules of the ring; a refusal leaves the stored ring as
it was.
-/

namespace Cadence

/-- Where every walker stands, and how often one landed on an occupied cell. -/
structure Ring where
  positions : OrderedMap ParticipantId UInt32 := {}
  collisions : UInt64 := 0
  deriving DecidableEq, Repr, Inhabited

/-- Parameters of an action to enter the ring. -/
structure EnterParams where
  cell : UInt32
  deriving DecidableEq, Repr

/-- Parameters of an action to move on the ring. -/
structure MoveParams where
  step : Int8
  deriving DecidableEq, Repr

namespace EnterParams

/-- Parameters as a value. -/
def encode (p : EnterParams) : Value := .ofFields [("cell", .nat p.cell.toNat)]

/-- Read parameters. -/
def decode (v : Value) : Except DecodeError EnterParams := do
  let r ← Record.ofValue "EnterParams" ["cell"] v
  let cell ← r.required "cell" Decode.uint32
  r.done ⟨cell⟩

end EnterParams

namespace MoveParams

/-- Parameters as a value. -/
def encode (p : MoveParams) : Value := .ofFields [("step", .int p.step.toInt)]

/-- Read parameters. -/
def decode (v : Value) : Except DecodeError MoveParams := do
  let r ← Record.ofValue "MoveParams" ["step"] v
  let step ← r.required "step" Decode.int8
  r.done ⟨step⟩

end MoveParams

namespace Ring

/-! ## Values -/

/-- Positions as a value. -/
def encodePositions (m : OrderedMap ParticipantId UInt32) : Value :=
  .ofFields (m.entries.map fun e => (e.1.text, .nat e.2.toNat))

/-- Read positions. -/
def decodePositions (v : Value) : Except DecodeError (OrderedMap ParticipantId UInt32) :=
  Decode.map ParticipantId.ofText Decode.uint32 v

/-- A ring as a value. -/
def encode (r : Ring) : Value :=
  .ofFields [("positions", encodePositions r.positions), ("collisions", .nat r.collisions.toNat)]

/-- Read a ring. The fields of an object are looked at in the order of their names, and all that are
given before any that is missing. -/
def decode (v : Value) : Except DecodeError Ring := do
  let r ← Record.ofValue "RingState" ["positions", "collisions"] v
  if !r.byPosition then
    let _ ← r.optional "collisions" Decode.uint64
  let positions ← r.required "positions" decodePositions
  let collisions ← r.required "collisions" Decode.uint64
  r.done ⟨positions, collisions⟩

/-- The key of the ring in the shared state. -/
def key : StateKey := ⟨"ring"⟩

/-- The ring that the shared state holds; without a value it is empty. -/
def load : Option Value → Except HandlerError Ring
  | none => .ok {}
  | some v =>
    match decode v with
    | .ok r => .ok r
    | .error cause => .error (.failed ("corrupt ring: " ++ cause.message))

/-- The ring of a store. -/
def ofStore (s : Store) : Except HandlerError Ring := load (s.entries.get? key)

/-! ## The rules -/

/-- The cells on which somebody stands. -/
def cells (r : Ring) : List UInt32 := r.positions.values

/-- Whether somebody stands on a cell. -/
def isOccupied (r : Ring) (cell : UInt32) : Bool := r.cells.contains cell

/-- Number of cells on which somebody stands. -/
def occupied (r : Ring) : Nat := (OrderedMap.distinct r.cells).length

/-- The ring with one more collision, if there is one. -/
def collideIf (r : Ring) (collides : Bool) : Ring :=
  if collides then { r with collisions := Word.bump r.collisions } else r

/-- The ring with a walker put on a cell. -/
def place (r : Ring) (actor : ParticipantId) (cell : UInt32) : Ring :=
  { r with positions := r.positions.insert actor cell }

/-- Put a newcomer on a cell of a ring of the given size. -/
def enter (size : UInt32) (r : Ring) (actor : ParticipantId) (cell : UInt32) :
    Except Refusal Ring :=
  if size ≤ cell then .error (.rejected "cell outside the ring")
  else if r.positions.contains actor then .error (.rejected "already on the ring")
  else .ok ((r.collideIf (r.isOccupied cell)).place actor cell)

/-- The cell that a step leads to on a ring of the given size; the cells of a ring close up. -/
def cellAfter? (size cell : UInt32) (step : Int8) : Option UInt32 :=
  if size = 0 then none
  else some (UInt32.ofNat (((cell.toNat : Int) + step.toInt) % (size.toNat : Int)).toNat)

/-- Move a walker by one cell at most. -/
def move (size : UInt32) (r : Ring) (actor : ParticipantId) (step : Int8) : Except Refusal Ring :=
  if step < -1 ∨ 1 < step then .error (.rejected "step must be -1, 0, or 1")
  else
    match r.positions.get? actor with
    | none => .error (.rejected "not on the ring")
    | some cell =>
      match cellAfter? size cell step with
      | none => .error (.failed (.failed "ring arithmetic out of range"))
      | some next => .ok ((r.collideIf (next != cell && r.isOccupied next)).place actor next)

/-! ## Handlers -/

/-- Tag of the action to enter the ring. -/
def enterTag : ActionTag := ⟨"enter"⟩

/-- Tag of the action to move on the ring. -/
def moveTag : ActionTag := ⟨"move"⟩

/-- What an action of a walker makes of the ring. -/
def apply (size : UInt32) (action : Action) (actor : ParticipantId) (r : Ring) :
    Except Refusal Ring :=
  if action.tag = enterTag then
    match action.params EnterParams.decode with
    | .ok p => r.enter size actor p.cell
    | .error e => .error (.failed (.payload e))
  else
    match action.params MoveParams.decode with
    | .ok p => r.move size actor p.step
    | .error e => .error (.failed (.payload e))

/-- What an action of a walker makes of the stored ring. -/
def applyStored (size : UInt32) (action : Action) (actor : ParticipantId) (stored : Option Value) :
    Except Refusal Value :=
  match load stored with
  | .error e => .error (.failed e)
  | .ok r => (r.apply size action actor).map encode

/-- The handler that owns a ring of the given size. -/
def handler (size : UInt32) : Handler where
  name := "ring"
  tags := [enterTag, moveTag]
  keys := [key]
  handle _ action actor :=
    .update key (applyStored size action actor) fun reply => .stop (.ofUpdate reply)

end Ring

namespace Tally

/-- The key of the tally in the shared state. -/
def key : StateKey := ⟨"tally"⟩

/-- Tag of the action that adds one to the tally. -/
def tag : ActionTag := ⟨"tally"⟩

/-- The tally that the shared state holds; anything but an unsigned number counts as zero. -/
def load (stored : Option Value) : Nat := (stored.bind Value.asUInt64?).getD 0

/-- The tally after one more. -/
def next (n : Nat) : Nat := min (n + 1) maxUInt64

/-- The tally of a store. -/
def ofStore (s : Store) : Nat := load (s.entries.get? key)

/-- The handler that owns the tally. -/
def handler : Handler where
  name := "tally"
  tags := [tag]
  keys := [key]
  handle _ _ _ :=
    .update key (fun stored => .ok (.nat (next (load stored)))) fun reply => .stop (.ofUpdate reply)

end Tally

end Cadence
