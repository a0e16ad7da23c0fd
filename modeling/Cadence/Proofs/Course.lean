import Cadence.Proofs.Ring
import Cadence.Scenario.Walker

/-!
# The courses of walkers

Where a walker goes is determined by its seed and the size of the ring alone: `Walker.course` gives
its cell and its stream after any number of steps. A ring follows the courses of some walkers if
each stands where its own has led it (`Ring.Follows`), and stays so when one of them takes its next
step. How often a walker lands on an occupied cell depends on the cells alone, not on who stands
there; `Walker.collisions` counts it for walkers that step in turn.
-/

namespace Cadence

namespace Walker

/-- The step that a number drawn below three stands for. -/
def stride (drawn : Nat) : Int8 := Int8.ofInt ((drawn : Int) - 1)

/-- The step that a draw below three makes is one cell at most. -/
lemma stride_short {drawn : Nat} (h : drawn < 3) : ¬(stride drawn < -1 ∨ 1 < stride drawn) := by
  have all : ∀ n ∈ List.range 3, ¬(stride n < -1 ∨ 1 < stride n) := by decide
  exact all drawn (List.mem_range.2 h)

/-- The cell of a walker and its stream, after it has entered the ring and taken some steps. -/
def course (size : UInt32) (stream : RandomStream) : Nat → UInt32 × RandomStream
  | 0 => (UInt32.ofNat (stream.below size.toNat).1, (stream.below size.toNat).2)
  | t + 1 =>
    let drawn := (course size stream t).2.below 3
    ((Ring.cellAfter? size (course size stream t).1 (stride drawn.1)).getD 0, drawn.2)

variable {size : UInt32} (stream : RandomStream) (ring : size ≠ 0)
include ring

/-- A cell that is drawn is one of the ring. -/
lemma cell_inside : UInt32.ofNat (stream.below size.toNat).1 < size := by
  have pos : 0 < size.toNat := Nat.pos_of_ne_zero fun zero => ring (UInt32.toNat_inj.1 zero)
  have inside := stream.below_lt pos
  have bound := size.toNat_lt
  rwa [UInt32.lt_iff_toNat_lt, UInt32.toNat_ofNat_of_lt' (by simp only [UInt32.size]; omega)]

/-- Every step leads a walker from cell to cell. -/
lemma course_lands (t : Nat) :
    Ring.cellAfter? size (course size stream t).1 (stride ((course size stream t).2.below 3).1) =
      some (course size stream (t + 1)).1 := by
  obtain ⟨next, lands, -, -⟩ := Ring.cellAfter?_eq ring (course size stream t).1
    (stride ((course size stream t).2.below 3).1)
  rw [course]
  dsimp only
  rw [lands]
  rfl

/-- A course stays in the ring. -/
lemma course_inside (t : Nat) : (course size stream t).1 < size := by
  cases t with
  | zero => exact cell_inside stream ring
  | succ t =>
    obtain ⟨next, lands, inside, -⟩ := Ring.cellAfter?_eq ring (course size stream t).1
      (stride ((course size stream t).2.below 3).1)
    rw [course_lands stream ring] at lands
    obtain rfl := Option.some.inj lands
    exact inside

omit ring

/-! ## Collisions -/

variable (size) (seed : UInt64)

/-- The cell of the walker of the given number, after some steps. -/
def cellOf (n t : Nat) : UInt32 := (course size (.seeded (seedOf seed n)) t).1

/-- The stream of the walker of the given number, after some steps. -/
def streamOf (n t : Nat) : RandomStream := (course size (.seeded (seedOf seed n)) t).2

/-- A course begins with what its own stream draws first. -/
-- with the stream as a variable, since nothing should evaluate the seeding
lemma course_seeded {stream : RandomStream} {n : Nat}
    (seeded : RandomStream.seeded (seedOf seed n) = stream) :
    cellOf size seed n 0 = UInt32.ofNat (stream.below size.toNat).1 ∧
      streamOf size seed n 0 = (stream.below size.toNat).2 := by
  rw [cellOf, streamOf, seeded]
  exact ⟨rfl, rfl⟩

/-- The cells of the first walkers, each of which has taken as many steps as told. -/
def cellsOf (paces : Nat → Nat) (walkers : Nat) : List UInt32 :=
  (List.range walkers).map fun n => cellOf size seed n (paces n)

/-- One collision more, if there is one. -/
def collide (count : UInt64) (collides : Bool) : UInt64 :=
  if collides then Word.bump count else count

/-- The steps that walkers have taken after some of them have stepped in a tick. -/
def inTick (t stepped n : Nat) : Nat := if n < stepped then t + 1 else t

/-- Collisions after some walkers have entered. -/
def collisionsEntering : Nat → UInt64
  | 0 => 0
  | n + 1 => collide (collisionsEntering n)
      ((cellsOf size seed (fun _ => 0) n).contains (cellOf size seed n 0))

/-- Collisions after some of the walkers have stepped in a tick, given those before it. -/
def collisionsStepping (walkers t : Nat) (before : UInt64) : Nat → UInt64
  | 0 => before
  | n + 1 => collide (collisionsStepping walkers t before n)
      (cellOf size seed n (t + 1) != cellOf size seed n t &&
        (cellsOf size seed (inTick t n) walkers).contains (cellOf size seed n (t + 1)))

/-- Collisions of walkers that have entered and taken some steps in turn. -/
def collisions (walkers : Nat) : Nat → UInt64
  | 0 => collisionsEntering size seed walkers
  | t + 1 => collisionsStepping size seed walkers t (collisions walkers t) walkers

variable {size seed}

/-- In a tick walkers step in turn. -/
lemma inTick_succ (t n : Nat) : inTick t (n + 1) = Function.update (inTick t n) n (t + 1) := by
  funext m
  rw [inTick, Function.update_apply, inTick]
  by_cases same : m = n
  · rw [if_pos same, if_pos (Nat.lt_succ_of_le (Nat.le_of_eq same))]
  · have before : m < n + 1 ↔ m < n := by omega
    rw [if_neg same]
    simp only [before]

end Walker

namespace Ring

open Walker

variable {size : UInt32} {seed : UInt64} {walkers : List ParticipantId} {paces : Nat → Nat}
  {r : Ring}

/-- Every walker stands where its course has led it in as many steps as told. -/
structure Follows (size : UInt32) (seed : UInt64) (walkers : List ParticipantId)
    (paces : Nat → Nat) (r : Ring) : Prop extends r.Peopled size walkers where
  stands : ∀ (n : Nat) id, walkers[n]? = some id →
    r.positions.get? id = some (cellOf size seed n (paces n))

/-- Nobody follows a course in an empty ring. -/
lemma follows_empty (size : UInt32) (seed : UInt64) (paces : Nat → Nat) :
    Follows size seed [] paces {} :=
  ⟨peopled_empty size, nofun⟩

/-- A collision is counted if there is one. -/
lemma collisions_collideIf (r : Ring) (collides : Bool) :
    (r.collideIf collides).collisions = collide r.collisions collides := by
  cases collides <;> rfl

/-- Who joins in an occupied cell collides. -/
lemma collisions_joined (r : Ring) (actor : ParticipantId) (cell : UInt32) :
    (r.joined actor cell).collisions = collide r.collisions (r.isOccupied cell) :=
  r.collisions_collideIf _

/-- Who goes to another cell that is occupied collides. -/
lemma collisions_gone (r : Ring) (actor : ParticipantId) (cell next : UInt32) :
    (r.gone actor cell next).collisions =
      collide r.collisions (next != cell && r.isOccupied next) :=
  r.collisions_collideIf _

namespace Follows

variable (h : Follows size seed walkers paces r)
include h

/-- No walker is listed twice. -/
lemma nodup : walkers.Nodup := h.keys.nodup_iff.1 h.sorted.nodup_keys

/-- The entries of the positions are the walkers with their cells. -/
lemma entries_perm : r.positions.entries.Perm
    (walkers.zipIdx.map fun p => (p.1, cellOf size seed p.2 (paces p.2))) := by
  refine OrderedMap.entries_perm_of_get? h.sorted ?_ ?_
  · rw [List.map_map]
    show r.positions.keys.Perm (walkers.zipIdx.map Prod.fst)
    rw [List.zipIdx_map_fst]
    exact h.keys
  · intro p mem
    obtain ⟨⟨id, n⟩, at_n, rfl⟩ := List.mem_map.1 mem
    exact h.stands n id (List.mem_zipIdx_iff_getElem?.1 at_n)

/-- Walkers that have taken as many steps stand alike. -/
theorem positions_eq {r' : Ring} (h' : Follows size seed walkers paces r') :
    r.positions = r'.positions :=
  OrderedMap.eq_of_perm h.sorted h'.sorted (h.entries_perm.trans h'.entries_perm.symm)

/-- A cell is occupied if it is that of some walker. -/
lemma isOccupied_eq (cell : UInt32) :
    r.isOccupied cell = (cellsOf size seed paces walkers.length).contains cell := by
  have values : r.cells.Perm (cellsOf size seed paces walkers.length) := by
    have perm := h.entries_perm.map Prod.snd
    rw [List.map_map] at perm
    have numbers : (walkers.zipIdx.map fun p => cellOf size seed p.2 (paces p.2)) =
        cellsOf size seed paces walkers.length := by
      rw [cellsOf, List.range_eq_range', ← List.zipIdx_map_snd 0 walkers, List.map_map]
      rfl
    rw [← numbers]
    exact perm
  rw [isOccupied, Bool.eq_iff_iff, List.contains_iff_mem, List.contains_iff_mem]
  exact values.mem_iff

/-- As walkers enter, collisions are those of their first cells. -/
lemma collisions_entering (entering : paces = fun _ => 0)
    (count : r.collisions = collisionsEntering size seed walkers.length) (actor : ParticipantId) :
    (r.joined actor (cellOf size seed walkers.length 0)).collisions =
      collisionsEntering size seed (walkers.length + 1) := by
  rw [collisions_joined, h.isOccupied_eq, count, entering]
  rfl

/-- As walkers step, collisions are those of their courses. -/
lemma collisions_stepping {t n : Nat} {before : UInt64} (stepping : paces = inTick t n)
    (count : r.collisions = collisionsStepping size seed walkers.length t before n)
    (actor : ParticipantId) :
    (r.gone actor (cellOf size seed n t) (cellOf size seed n (t + 1))).collisions =
      collisionsStepping size seed walkers.length t before (n + 1) := by
  rw [collisions_gone, h.isOccupied_eq, count, stepping]
  rfl

/-- A newcomer enters on the first cell of its course. -/
theorem join {actor : ParticipantId} (new : actor ∉ walkers)
    (inside : cellOf size seed walkers.length 0 < size) (first : paces walkers.length = 0) :
    Follows size seed (walkers ++ [actor]) paces
      (r.joined actor (cellOf size seed walkers.length 0)) where
  toPeopled := h.toPeopled.enter new inside
  stands := by
    intro n id at_n
    rw [positions_joined, OrderedMap.get?_insert]
    rcases Nat.lt_trichotomy n walkers.length with before | rfl | after
    · rw [List.getElem?_append_left before] at at_n
      have other : id ≠ actor := fun same => new (same ▸ List.mem_of_getElem? at_n)
      rw [if_neg other]
      exact h.stands n id at_n
    · rw [List.getElem?_concat_length] at at_n
      rw [if_pos (Option.some.inj at_n).symm, first]
    · rw [List.getElem?_eq_none (by rw [List.length_append]; exact after)] at at_n
      cases at_n

/-- A walker takes the next step of its course. -/
theorem go {n t : Nat} {actor : ParticipantId} (at_n : walkers[n]? = some actor)
    (inside : cellOf size seed n (t + 1) < size) :
    Follows size seed walkers (Function.update paces n (t + 1))
      (r.gone actor (cellOf size seed n t) (cellOf size seed n (t + 1))) where
  toPeopled := h.toPeopled.move (List.mem_of_getElem? at_n) inside
  stands := by
    intro m id at_m
    rw [positions_gone, OrderedMap.get?_insert]
    by_cases same : m = n
    · subst same
      rw [at_n] at at_m
      rw [if_pos (Option.some.inj at_m).symm, Function.update_self]
    · have other : id ≠ actor := by
        rintro rfl
        obtain ⟨below, -⟩ := List.getElem?_eq_some_iff.1 at_m
        exact same ((List.getElem?_inj below h.nodup).1 (at_m.trans at_n.symm))
      rw [if_neg other, Function.update_of_ne same]
      exact h.stands m id at_m

end Follows

end Ring

end Cadence
