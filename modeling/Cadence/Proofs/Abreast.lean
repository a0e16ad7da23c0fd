import Cadence.Proofs.Errands
import Cadence.Proofs.Stage

/-!
# Walkers of a demonstration side by side

The walkers on the stage are a gathering (`Stage.gathering`). Stepped side by side, each of them
draws from its own stream, takes the next step of its course and tallies it, whatever the others do
in between (`brings_step`).
-/

namespace Cadence.Scenario

open World

variable {c : ScenarioConfig} {slots : List Slot} {tallied t : Nat} {w : World Memory} {r : Ring}
  {b : Board}

/-- What the components of a demonstration remember while its walkers step: each of them has the
stream that is told, and all else is as before. -/
structure Recalls (slots : List Slot) (before : Memory) (streams : Nat → RandomStream)
    (m : Memory) : Prop where
  reporter : m.reporter = before.reporter
  recorder : m.recorder = before.recorder
  handles : ∀ n, m.handleOf? n = before.handleOf? n
  streams : ∀ (n : Nat) slot, slots[n]? = some slot → m.streamOf? n = some (streams n)
  unmade : ∀ n, slots.length ≤ n → m.walkers.get? n = none

/-- To remember the stream of one walker recalls the streams of the others. -/
lemma Recalls.put {before : Memory} {streams : Nat → RandomStream} {m : Memory}
    (h : Recalls slots before streams m) {n : Nat} {handle : Handle}
    (handles : before.handleOf? n = some handle) (below : n < slots.length) (seed : UInt64)
    (stream : RandomStream) : Recalls slots before (Function.update streams n stream)
      ((Memory.walkerPlace seed n).put ⟨stream, some handle⟩ m) where
  reporter := h.reporter
  recorder := h.recorder
  handles := by
    intro k
    rw [Memory.handleOf?_put]
    split
    · next same => rw [same, handles]
    · exact h.handles k
  streams := by
    intro k slot at_k
    rw [Memory.streamOf?_put, Function.update_apply]
    split
    · rfl
    · exact h.streams k slot at_k
  unmade := by
    intro k beyond
    show (m.walkers.insert n _).get? k = none
    rw [OrderedMap.get?_insert_of_ne (by omega)]
    exact h.unmade k beyond

/-- The walkers of a demonstration, where their courses have led them. -/
def standers (c : ScenarioConfig) (slots : List Slot) (t : Nat) : List Stander :=
  slots.mapIdx fun n slot =>
    ⟨slot.participant.id, slot.key, Walker.cellOf c.ringSize c.seed n t⟩

/-- The standers are the walkers in their order. -/
lemma getElem?_standers (n : Nat) : (standers c slots t)[n]? = slots[n]?.map fun slot =>
    ⟨slot.participant.id, slot.key, Walker.cellOf c.ringSize c.seed n t⟩ :=
  List.getElem?_mapIdx

/-- Each walker stands in the cell of its course. -/
lemma standers_of_slots {n : Nat} {slot : Slot} (at_n : slots[n]? = some slot) :
    (standers c slots t)[n]? =
      some ⟨slot.participant.id, slot.key, Walker.cellOf c.ringSize c.seed n t⟩ := by
  rw [getElem?_standers, at_n, Option.map_some]

/-- The standers go by the identifiers of the walkers. -/
lemma map_id_standers : (standers c slots t).map Stander.id =
    slots.map fun slot => slot.participant.id := by
  refine List.ext_getElem? fun n => ?_
  rw [List.getElem?_map, getElem?_standers, List.getElem?_map, Option.map_map]
  rfl

/-- Whoever stands in the ring is one of the walkers. -/
lemma of_mem_standers {p : Stander} (mem : p ∈ standers c slots t) :
    ∃ (n : Nat) (slot : Slot), slots[n]? = some slot ∧
      p = ⟨slot.participant.id, slot.key, Walker.cellOf c.ringSize c.seed n t⟩ := by
  obtain ⟨n, at_n⟩ := List.mem_iff_getElem?.1 mem
  rw [getElem?_standers, Option.map_eq_some_iff] at at_n
  obtain ⟨slot, at_slot, rfl⟩ := at_n
  exact ⟨n, slot, at_slot, rfl⟩

/-- The walkers on the stage may act. -/
def Stage.gathering (h : Stage c slots tallied w) (courses : Courses c slots (fun _ => t) r w)
    (ring : c.ringSize ≠ 0) (opened : w.environment.window.phase ≠ .closed)
    (hosts : w.environment.Hosts c.ringSize b)
    (shows : b.Shows c.ringSize (slots.map fun slot => slot.participant.id) tallied) :
    Gathering Memory where
  size := c.ringSize
  ring := ring
  world := w
  board := b
  hosts := hosts
  opened := opened
  sorted := shows.peopled.sorted
  inside := shows.peopled.inside
  bounded := shows.bounded
  walkers := standers c slots t
  distinct := by
    rw [map_id_standers]
    exact courses.follows.nodup
  registered := by
    intro p mem
    obtain ⟨n, slot, at_n, rfl⟩ := of_mem_standers mem
    exact (h.ready n slot at_n).current
  stands := by
    intro p mem
    obtain ⟨n, slot, at_n, rfl⟩ := of_mem_standers mem
    obtain rfl := courses.ring_eq hosts shows.peopled.sorted
    exact courses.follows.stands n _ (by rw [List.getElem?_map, at_n, Option.map_some])

/-- What the walkers hold together is what the board shows. -/
lemma shows_of_held {x : Gathering Memory} {recalls : (Nat → RandomStream) → Memory → Prop}
    {g : Nat → Share RandomStream} {b : Board} {m : Memory} {walkers : List ParticipantId}
    (held : x.Held recalls g b m) (shows : x.board.Shows x.size walkers tallied) :
    b.Shows x.size walkers (tallied + Share.total Share.tallied x.walkers.length g) where
  peopled := ⟨held.peopled.sorted, held.peopled.keys.trans shows.peopled.keys, held.peopled.inside⟩
  tally := by
    rw [held.tally, shows.tally]
    omega
  entered := by
    rw [held.entered]
    exact shows.entered
  begun := by
    rw [held.begun, shows.begun]
    omega

/-- The share of a walker before its step in a tick. -/
def shareBefore (c : ScenarioConfig) (t n : Nat) : Share RandomStream :=
  ⟨Walker.cellOf c.ringSize c.seed n t, 0, 0, Walker.streamOf c.ringSize c.seed n t⟩

/-- The share of a walker after its step in a tick: two of its actions have been counted. -/
def shareAfter (c : ScenarioConfig) (t n : Nat) : Share RandomStream :=
  ⟨Walker.cellOf c.ringSize c.seed n (t + 1), 1, 2, Walker.streamOf c.ringSize c.seed n (t + 1)⟩

/-- The courses of walkers whose shares are those after their steps. -/
lemma courses_of_held {x : Gathering Memory} {before m : Memory} {g : Nat → Share RandomStream}
    {b : Board} (held : x.Held (Recalls slots before) g b m) {w' : World Memory}
    (walkers : x.walkers = standers c slots t) (after : ∀ n < slots.length, g n = shareAfter c t n)
    (hosts : w'.environment.Hosts c.ringSize b) (memory : w'.memory = m)
    (peopled : b.ring.Peopled c.ringSize (slots.map fun slot => slot.participant.id)) :
    Courses c slots (fun _ => t + 1) b.ring w' where
  stored := ofStore_of_hosts hosts peopled.sorted
  follows := by
    refine ⟨peopled, fun n id at_n => ?_⟩
    rw [List.getElem?_map, Option.map_eq_some_iff] at at_n
    obtain ⟨slot, at_slot, rfl⟩ := at_n
    obtain ⟨below, -⟩ := List.getElem?_eq_some_iff.1 at_slot
    have stands := held.stands n _ (walkers ▸ standers_of_slots at_slot)
    rw [after n below] at stands
    exact stands
  streams := by
    intro n slot at_n
    obtain ⟨below, -⟩ := List.getElem?_eq_some_iff.1 at_n
    have streams := held.recalls.streams n slot at_n
    rw [after n below, ← memory] at streams
    exact streams
  unmade := by
    rw [memory]
    exact held.recalls.unmade

section Steps

variable {x : Gathering Memory} {n : Nat} {slot : Slot} {generators : List (Generator Memory)}
  {levels : Nat}

/-- A walker reads what it has remembered since it joined and last drew. -/
lemma brings_remembered (at_n : slots[n]? = some slot) (ready : Ready c w n slot) :
    (Thread.ofProgram (.ofRequest generators (levels + 1))
        (Memory.walkerPlace c.seed n).read).Brings (x.Invariant (Recalls slots w.memory)) n
      (fun state l => state = ⟨Walker.streamOf c.ringSize c.seed n t,
        some ⟨slot.participant.id, slot.key, {}⟩⟩ ∧ l = shareBefore c t n) (shareBefore c t n) := by
  refine Thread.brings_read ?_
  rintro g _ own ⟨b, m, rfl, held⟩
  have handle := (held.recalls.handles n).trans ready.handle
  have stream := held.recalls.streams n slot at_n
  rw [own] at stream
  exact Memory.get_walkerPlace c.seed handle stream

/-- A walker remembers what is left of its stream. -/
lemma brings_drawn (at_n : slots[n]? = some slot) (ready : Ready c w n slot)
    (stream : RandomStream) (l : Share RandomStream) :
    (Thread.ofProgram (.ofRequest generators (levels + 1)) ((Memory.walkerPlace c.seed n).write
        ⟨stream, some ⟨slot.participant.id, slot.key, {}⟩⟩)).Brings
      (x.Invariant (Recalls slots w.memory)) n (fun _ l' => l' = l.recalling stream) l := by
  obtain ⟨below, -⟩ := List.getElem?_eq_some_iff.1 at_n
  refine Thread.brings_write (l.recalling stream) ?_
  rintro g w' rfl inv
  exact inv.recall n fun before => before.put ready.handle below c.seed stream

variable (size : x.size = c.ringSize) (walkers : x.walkers = standers c slots t)
include size walkers

/-- A walker draws, takes the next step of its course and tallies it, whatever others do in between.
-/
theorem brings_step (at_n : slots[n]? = some slot) (ready : Ready c w n slot)
    (ctx : TickContext IntegerTime) :
    (Simulation.stepThread ctx w slot).Brings (x.Invariant (Recalls slots w.memory)) n
      (fun ending l => ending = some .fine ∧ l = shareAfter c t n) (shareBefore c t n) := by
  have at_x : x.walkers[n]? =
      some ⟨slot.participant.id, slot.key, Walker.cellOf c.ringSize c.seed n t⟩ := by
    rw [walkers]
    exact standers_of_slots at_n
  have inside : Walker.cellOf c.ringSize c.seed n (t + 1) < x.size := by
    rw [size]
    exact Walker.course_inside _ (size ▸ x.ring) (t + 1)
  have lands : Ring.cellAfter? x.size (Walker.cellOf c.ringSize c.seed n t)
      (Walker.stride ((Walker.streamOf c.ringSize c.seed n t).below 3).1) =
        some (Walker.cellOf c.ringSize c.seed n (t + 1)) := by
    rw [size]
    exact Walker.course_lands _ (size ▸ x.ring) t
  have short := Walker.stride_short
    ((Walker.streamOf c.ringSize c.seed n t).below_lt (by decide : 0 < 3))
  obtain ⟨name, walks⟩ := ready.walker
  -- in turn: what is remembered, what is left of the stream, the step, and the tally
  rw [Simulation.stepThread, ready.unfailed, if_neg Bool.false_ne_true, walks]
  refine Thread.Brings.map (Q := fun ending l => ending = .fine ∧ l = shareAfter c t n) ?_
    fun ending l ends => ⟨congrArg some ends.1, ends.2⟩
  refine Thread.brings_program_bind (brings_remembered at_n ready) ?_
  rintro _ _ ⟨rfl, rfl⟩
  refine Thread.brings_program_bind (brings_drawn at_n ready _ _) ?_
  rintro _ _ rfl
  refine Thread.brings_program_bind
    (Thread.brings_handle (Gathering.brings_move at_x short inside lands)) ?_
  rintro _ _ ⟨⟨v, rfl⟩, rfl⟩
  refine Thread.brings_program_bind (Thread.brings_handle (Gathering.brings_tally at_x _)) ?_
  rintro _ _ ⟨⟨v', rfl⟩, rfl⟩
  exact ⟨rfl, rfl⟩

end Steps

/-- All walkers on the stage step side by side: none of them fails, and each takes the next step of
its course. -/
theorem Stage.abreast (h : Stage c slots tallied w) (courses : Courses c slots (fun _ => t) r w)
    (ring : c.ringSize ≠ 0) (opened : w.environment.window.phase ≠ .closed) (schedule : List Nat)
    (ctx : TickContext IntegerTime) :
    ∃ w' r', World.interleave schedule (slots.map (Simulation.stepThread ctx w)) w =
        (slots.map fun _ => some .fine, w') ∧
      Underway c slots tallied w slots.length w' ∧ Courses c slots (fun _ => t + 1) r' w' := by
  obtain ⟨b, hosts, shows⟩ := h.board
  let x := h.gathering courses ring opened hosts shows
  have size : x.walkers.length = slots.length := List.length_mapIdx
  have recalls : Recalls slots w.memory (fun n => (shareBefore c t n).own) w.memory :=
    ⟨rfl, rfl, fun _ => rfl, courses.streams, courses.unmade⟩
  have inv : x.Invariant (Recalls slots w.memory) (shareBefore c t) w := by
    refine Gathering.held_start (x := x) ?_ (fun _ => rfl) (fun _ => rfl) recalls
    intro n p at_n
    obtain ⟨slot, -, rfl⟩ := Option.map_eq_some_iff.1 ((getElem?_standers n).symm.trans at_n)
    rfl
  have brings : ∀ (n : Nat) u, (slots.map (Simulation.stepThread ctx w))[n]? = some u →
      u.Brings (x.Invariant (Recalls slots w.memory)) n
        (fun ending l => ending = some .fine ∧ l = shareAfter c t n) (shareBefore c t n) := by
    intro n u at_n
    rw [List.getElem?_map, Option.map_eq_some_iff] at at_n
    obtain ⟨slot, at_slot, rfl⟩ := at_n
    exact brings_step rfl rfl at_slot (h.ready n slot at_slot) ctx
  obtain ⟨g, ⟨b', m, world, held⟩, count, ends⟩ := World.interleave_brings schedule brings inv
  rw [size] at world
  have length : (World.interleave schedule (slots.map (Simulation.stepThread ctx w)) w).1.length =
      slots.length := count.trans (List.length_map _)
  -- all shares are known in the end, and with them the tally and the count of actions
  have after : ∀ n < slots.length, g n = shareAfter c t n := fun n below =>
    (ends n _ (List.getElem?_eq_getElem (length.symm ▸ below))).2
  have tallies : Share.total Share.tallied slots.length g = slots.length := by
    rw [Share.total_const (k := 1) fun n below => by rw [after n below]; rfl, Nat.mul_one]
  have counts : Share.total Share.counted slots.length g = 2 * slots.length := by
    rw [Share.total_const (k := 2) fun n below => by rw [after n below]; rfl, Nat.mul_comm]
  have shows' := shows_of_held held shows
  rw [size, tallies] at shows'
  rw [counts] at world
  have hosts' := Gathering.hosts_showing x b' (ActionStats.addApplied^[2 * slots.length]
    w.environment.window.stats) m
  refine ⟨_, b'.ring, Prod.ext ?_ world, ⟨⟨h.unguided, h.members, ⟨b', hosts', shows'⟩, ?_⟩,
    ⟨rfl, rfl, rfl, rfl, held.recalls.reporter, held.recalls.recorder⟩, rfl⟩,
    courses_of_held held rfl after hosts' rfl shows'.peopled⟩
  · refine List.ext_getElem (by rw [length, List.length_map]) fun n below _ => ?_
    rw [List.getElem_map]
    exact (ends n _ (List.getElem?_eq_getElem below)).1
  · exact fun n slot at_n => (h.ready n slot at_n).of_eq rfl (held.recalls.handles n)

end Cadence.Scenario
