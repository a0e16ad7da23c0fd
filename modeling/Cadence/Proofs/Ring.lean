import Cadence.Proofs.Decoding
import Cadence.Proofs.Identifiers
import Cadence.Proofs.Maps
import Cadence.Ring

/-!
# The rules of the ring

A ring in order reads back from its value (`Ring.decode_encode`). It is `Ring.Peopled` by some
walkers when exactly these stand on it, each on one of its cells. The rules let a newcomer enter on
any cell (`Ring.enter_eq`) and a walker take any step of one cell at most (`Ring.move_eq`), and the
ring stays peopled (`Ring.Peopled.enter`, `Ring.Peopled.move`).
-/

namespace Cadence

/-! ## Values read back -/

/-- The parameters of an entry are read back. -/
lemma EnterParams.decode_encode (p : EnterParams) : decode p.encode = .ok p := by
  show (Decode.uint32 (.nat p.cell.toNat) >>= fun cell => .ok ⟨cell⟩) = .ok p
  rw [Decode.uint32_nat]
  rfl

/-- The parameters of a move are read back. -/
lemma MoveParams.decode_encode (p : MoveParams) : decode p.encode = .ok p := by
  show (Decode.int8 (.int p.step.toInt) >>= fun step => .ok ⟨step⟩) = .ok p
  rw [Decode.int8_int]
  rfl

namespace Ring

variable {r : Ring}

/-- Positions are read back as long as they are in order. -/
lemma decodePositions_encodePositions (sorted : r.positions.Sorted) :
    decodePositions (encodePositions r.positions) = .ok r.positions := by
  refine Decode.map_ofFields sorted ?_ ?_
  · have names := sorted.nodup_keys.map ParticipantId.text_injective
    rwa [OrderedMap.keys, List.map_map] at names
  · exact fun e _ => ⟨ParticipantId.ofText_text e.1, Decode.uint32_nat e.2⟩

/-- A ring is encoded as a record of two fields. -/
lemma encode_eq (r : Ring) : r.encode =
    .object [("collisions", .nat r.collisions.toNat),
      ("positions", encodePositions r.positions)] := by
  have order : compare "collisions" "positions" = .lt := by decide
  simp only [encode, Value.ofFields, OrderedMap.ofList, OrderedMap.insertAll, OrderedMap.insert,
    OrderedMap.insertEntry, OrderedMap.empty, List.foldl_cons, List.foldl_nil, order]

/-- A ring whose positions are in order is read back. -/
theorem decode_encode (sorted : r.positions.Sorted) : decode r.encode = .ok r := by
  rw [encode_eq]
  show (Except.map some (Decode.uint64 (.nat r.collisions.toNat)) >>= fun _ =>
    decodePositions (encodePositions r.positions) >>= fun positions =>
      Decode.uint64 (.nat r.collisions.toNat) >>= fun collisions => .ok ⟨positions, collisions⟩) =
    .ok r
  rw [Decode.uint64_nat, decodePositions_encodePositions sorted]
  rfl

/-! ## The rules -/

/-- The ring after a newcomer has entered it on a cell. -/
def joined (r : Ring) (actor : ParticipantId) (cell : UInt32) : Ring :=
  (r.collideIf (r.isOccupied cell)).place actor cell

/-- The ring after a walker has gone from one cell to another. -/
def gone (r : Ring) (actor : ParticipantId) (cell next : UInt32) : Ring :=
  (r.collideIf (next != cell && r.isOccupied next)).place actor next

/-- A collision changes no position. -/
lemma positions_collideIf (r : Ring) (collides : Bool) :
    (r.collideIf collides).positions = r.positions := by
  cases collides <;> rfl

/-- Whoever joins stands in the cell that it has entered. -/
lemma positions_joined (r : Ring) (actor : ParticipantId) (cell : UInt32) :
    (r.joined actor cell).positions = r.positions.insert actor cell := by
  rw [joined, place, positions_collideIf]

/-- Whoever goes stands in the cell that it goes to. -/
lemma positions_gone (r : Ring) (actor : ParticipantId) (cell next : UInt32) :
    (r.gone actor cell next).positions = r.positions.insert actor next := by
  rw [gone, place, positions_collideIf]

section Rules

variable {size cell next : UInt32} {actor : ParticipantId} {step : Int8}

/-- A walker that is not on the ring enters on any of its cells. -/
theorem enter_eq (absent : r.positions.get? actor = none) (inside : cell < size) :
    r.enter size actor cell = .ok (r.joined actor cell) := by
  have new : ¬r.positions.contains actor = true := by
    rw [OrderedMap.contains, absent]
    nofun
  rw [enter, if_neg (UInt32.not_le.2 inside), if_neg new]
  rfl

/-- A walker on the ring takes any step of one cell at most. -/
theorem move_eq (short : ¬(step < -1 ∨ 1 < step)) (stands : r.positions.get? actor = some cell)
    (lands : cellAfter? size cell step = some next) :
    r.move size actor step = .ok (r.gone actor cell next) := by
  rw [move, if_neg short, stands]
  dsimp only
  rw [lands]
  rfl

end Rules

/-- Exactly the given walkers stand on the ring, each on one of its cells. -/
structure Peopled (size : UInt32) (walkers : List ParticipantId) (r : Ring) : Prop where
  sorted : r.positions.Sorted
  keys : r.positions.keys.Perm walkers
  inside : ∀ cell ∈ r.cells, cell < size

variable {size : UInt32} {walkers : List ParticipantId}

/-- Nobody is on a ring that nobody has entered. -/
lemma peopled_empty (size : UInt32) : Peopled size [] {} where
  sorted := OrderedMap.sorted_empty
  keys := .refl _
  inside := fun _ mem => absurd mem List.not_mem_nil

/-- From a cell a step leads to the one so many cells further around the ring. -/
lemma cellAfter?_eq (ring : size ≠ 0) (cell : UInt32) (step : Int8) :
    ∃ next, cellAfter? size cell step = some next ∧ next < size ∧
      (next.toNat : Int) = ((cell.toNat : Int) + step.toInt) % (size.toNat : Int) := by
  rw [cellAfter?, if_neg ring]
  have pos : 0 < size.toNat := Nat.pos_of_ne_zero fun zero => ring (UInt32.toNat_inj.1 zero)
  have low := Int.emod_nonneg ((cell.toNat : Int) + step.toInt) (b := size.toNat) (by omega)
  have high := Int.emod_lt_of_pos ((cell.toNat : Int) + step.toInt) (b := size.toNat) (by omega)
  have bound := size.toNat_lt
  have small : (((cell.toNat : Int) + step.toInt) % (size.toNat : Int)).toNat < UInt32.size := by
    simp only [UInt32.size]
    omega
  refine ⟨_, rfl, ?_, ?_⟩
  · rw [UInt32.lt_iff_toNat_lt, UInt32.toNat_ofNat_of_lt' small]
    omega
  · rw [UInt32.toNat_ofNat_of_lt' small]
    omega

namespace Peopled

variable (h : Peopled size walkers r) {actor : ParticipantId} {cell : UInt32}
include h

/-- A collision changes nothing about who is on the ring. -/
lemma collideIf (collides : Bool) : Peopled size walkers (r.collideIf collides) := by
  cases collides with
  | false => exact h
  | true => exact ⟨h.sorted, h.keys, h.inside⟩

/-- Whoever is placed inside the ring leaves all cells that are taken inside. -/
lemma inside_place (inside : cell < size) : ∀ c ∈ (r.place actor cell).cells, c < size := by
  intro c mem
  obtain ⟨e, found, rfl⟩ := List.mem_map.1 mem
  rcases OrderedMap.mem_insertEntry found with rfl | before
  · exact inside
  · exact h.inside _ (List.mem_map_of_mem before)

/-- Those on the ring are the walkers. -/
lemma mem_keys_iff : actor ∈ r.positions.keys ↔ actor ∈ walkers := h.keys.mem_iff

/-- A new walker that is placed inside the ring is on it behind the others. -/
lemma place_new (new : actor ∉ walkers) (inside : cell < size) :
    Peopled size (walkers ++ [actor]) (r.place actor cell) where
  sorted := OrderedMap.sorted_insert h.sorted actor cell
  keys := by
    have joined := OrderedMap.insert_perm (mt h.mem_keys_iff.1 new) cell
    exact ((joined.map Prod.fst).trans (h.keys.cons actor)).trans
      (List.perm_append_singleton actor walkers).symm
  inside := h.inside_place inside

/-- An old walker that is placed inside the ring is on it with the same others. -/
lemma place_old (old : actor ∈ walkers) (inside : cell < size) :
    Peopled size walkers (r.place actor cell) where
  sorted := OrderedMap.sorted_insert h.sorted actor cell
  keys := by
    rw [place, OrderedMap.keys_insert_of_mem h.sorted (h.mem_keys_iff.2 old)]
    exact h.keys
  inside := h.inside_place inside

/-- A new walker enters. -/
theorem enter (new : actor ∉ walkers) (inside : cell < size) :
    Peopled size (walkers ++ [actor]) (r.joined actor cell) :=
  (h.collideIf _).place_new new inside

/-- An old walker moves. -/
theorem move (old : actor ∈ walkers) {next : UInt32} (inside : next < size) :
    Peopled size walkers (r.gone actor cell next) :=
  (h.collideIf _).place_old old inside

/-- A new walker is not yet on the ring. -/
lemma absent (new : actor ∉ walkers) : r.positions.get? actor = none := by
  by_contra found
  exact new (h.mem_keys_iff.1 (OrderedMap.mem_keys_iff.2 found))

/-- An old walker stands somewhere. -/
lemma stands (old : actor ∈ walkers) : ∃ cell, r.positions.get? actor = some cell :=
  Option.ne_none_iff_exists'.1 (OrderedMap.mem_keys_iff.1 (h.mem_keys_iff.2 old))

end Peopled

end Ring

end Cadence
