import Cadence.Proofs.Board
import Cadence.Proofs.Course
import Cadence.Proofs.Hooks

/-!
# Walkers on the stage

The stage of a demonstration is set for some slots when each of them is that of a walker which is
registered, stands on the ring and holds its handle (`Scenario.Stage`). While the window is open
every walker then steps without failing, its two actions are applied, and the stage stays set
(`Stage.step`). Where the walkers stand on it and how their random numbers go on is the matter of
`Scenario.Courses`.
-/

namespace Cadence.Scenario

open World

/-- The slots of a demonstration. -/
abbrev Slot : Type := ParticipantSlot Memory IntegerTime

/-- The handle that the walker of the given number has. -/
def Memory.handleOf? (m : Memory) (n : Nat) : Option Handle :=
  (m.walkers.get? n).bind WalkerState.handle

/-- To store the state of one walker leaves the handles of the others. -/
lemma Memory.handleOf?_put (seed : UInt64) (m : Memory) (k : Nat) (state : WalkerState) (n : Nat) :
    ((walkerPlace seed k).put state m).handleOf? n =
      if n = k then state.handle else m.handleOf? n := by
  show (((m.walkers).insert k state).get? n).bind WalkerState.handle = _
  rw [OrderedMap.get?_insert]
  split <;> rfl

/-- The stream of the walker of the given number. -/
def Memory.streamOf? (m : Memory) (n : Nat) : Option RandomStream :=
  (m.walkers.get? n).map WalkerState.stream

/-- To store the state of one walker leaves the streams of the others. -/
lemma Memory.streamOf?_put (seed : UInt64) (m : Memory) (k : Nat) (state : WalkerState) (n : Nat) :
    ((walkerPlace seed k).put state m).streamOf? n =
      if n = k then some state.stream else m.streamOf? n := by
  show (((m.walkers).insert k state).get? n).map WalkerState.stream = _
  rw [OrderedMap.get?_insert]
  split <;> rfl

/-- The state of a walker is put together from its handle and its stream. -/
lemma Memory.get_walkerPlace (seed : UInt64) {m : Memory} {n : Nat} {handle : Handle}
    {stream : RandomStream} (handles : m.handleOf? n = some handle)
    (streams : m.streamOf? n = some stream) :
    (walkerPlace seed n).get m = ⟨stream, some handle⟩ := by
  obtain ⟨⟨_, _⟩, found, rfl⟩ := Option.bind_eq_some_iff.1 handles
  rw [streamOf?, found] at streams
  obtain rfl := Option.some.inj streams
  show (m.walkers.get? n).getD _ = _
  rw [found]
  rfl

/-- The walker of the given number has joined in a slot, and can step. -/
structure Ready (c : ScenarioConfig) (w : World Memory) (n : Nat) (slot : Slot) : Prop where
  walker : ∃ name, slot.participant = walker c n slot.participant.id name
  current : w.environment.keyOf? slot.participant.id = some slot.key
  handle : w.memory.handleOf? n = some ⟨slot.participant.id, slot.key, {}⟩
  unfailed : slot.failed = false

/-- The walkers of some slots are on the ring, and some steps have been tallied. -/
structure Stage (c : ScenarioConfig) (slots : List Slot) (tallied : Nat) (w : World Memory) :
    Prop where
  unguided : w.generators = []
  members : w.environment.participants = slots.map fun slot => slot.participant.id
  board : ∃ b, w.environment.Hosts c.ringSize b ∧
    b.Shows c.ringSize (slots.map fun slot => slot.participant.id) tallied
  ready : ∀ n slot, slots[n]? = some slot → Ready c w n slot

/-- What walkers leave as it is. -/
structure Untouched (w w' : World Memory) : Prop where
  globals : w'.environment.globals = w.environment.globals
  phase : w'.environment.window.phase = w.environment.window.phase
  database : w'.database = w.database
  operator : w'.operator = w.operator
  reporter : w'.memory.reporter = w.memory.reporter
  recorder : w'.memory.recorder = w.memory.recorder

/-- As it is, a world is untouched. -/
lemma Untouched.refl (w : World Memory) : Untouched w w := ⟨rfl, rfl, rfl, rfl, rfl, rfl⟩

/-- What leaves a world untouched twice leaves it untouched. -/
lemma Untouched.trans {a b c : World Memory} (ab : Untouched a b) (bc : Untouched b c) :
    Untouched a c where
  globals := bc.globals.trans ab.globals
  phase := bc.phase.trans ab.phase
  database := bc.database.trans ab.database
  operator := bc.operator.trans ab.operator
  reporter := bc.reporter.trans ab.reporter
  recorder := bc.recorder.trans ab.recorder

/-- A walker stays ready as long as its key and its handle are the same. -/
lemma Ready.of_eq {c : ScenarioConfig} {w w' : World Memory} {n : Nat} {slot : Slot}
    (h : Ready c w n slot)
    (keys : w'.environment.keyOf? slot.participant.id = w.environment.keyOf? slot.participant.id)
    (handles : w'.memory.handleOf? n = w.memory.handleOf? n) : Ready c w' n slot where
  walker := h.walker
  current := keys.trans h.current
  handle := handles.trans h.handle
  unfailed := h.unfailed

/-- Every walker has followed its course for as many steps as told, and nobody else has drawn
anything yet. -/
structure Courses (c : ScenarioConfig) (slots : List Slot) (paces : Nat → Nat) (r : Ring)
    (w : World Memory) : Prop where
  stored : Ring.ofStore w.environment.store = .ok r
  follows : r.Follows c.ringSize c.seed (slots.map fun slot => slot.participant.id) paces
  streams : ∀ n slot, slots[n]? = some slot → w.memory.streamOf? n =
    some (Walker.streamOf c.ringSize c.seed n (paces n))
  unmade : ∀ n, slots.length ≤ n → w.memory.walkers.get? n = none

variable {c : ScenarioConfig} {slots : List Slot} {tallied : Nat} {w : World Memory}
  {paces : Nat → Nat} {r : Ring}

/-! ## What the stage does not depend on -/

/-- The stage of a world with other events, and where plugins remember something else. -/
lemma Stage.of_plugins (h : Stage c slots tallied w) {w' : World Memory}
    (unguided : w'.generators = w.generators) (environment : w'.environment = w.environment)
    (walkers : w'.memory.walkers = w.memory.walkers) : Stage c slots tallied w' where
  unguided := unguided.trans h.unguided
  members := by rw [environment]; exact h.members
  board := by rw [environment]; exact h.board
  ready := fun n slot found => (h.ready n slot found).of_eq (by rw [environment])
    (by rw [Memory.handleOf?, walkers]; rfl)

/-- The stage is the same under any window. -/
lemma Stage.of_window (h : Stage c slots tallied w) (window : Window) :
    Stage c slots tallied { w with environment := { w.environment with window := window } } where
  unguided := h.unguided
  members := h.members
  board := by
    obtain ⟨b, hosts, shows⟩ := h.board
    exact ⟨b, ⟨hosts.registry, hosts.store⟩, shows⟩
  ready := fun n slot found => (h.ready n slot found).of_eq rfl rfl

/-- The courses of walkers in a world with the same shared state, in which they remember the
same. -/
lemma Courses.of_eq (h : Courses c slots paces r w) {w' : World Memory}
    (store : w'.environment.store = w.environment.store)
    (walkers : w'.memory.walkers = w.memory.walkers) : Courses c slots paces r w' where
  stored := by rw [store]; exact h.stored
  follows := h.follows
  streams := fun n slot found => by
    rw [Memory.streamOf?, walkers]
    exact h.streams n slot found
  unmade := by rw [walkers]; exact h.unmade

/-- Everybody on the stage is live. -/
lemma Stage.filter_isLive (h : Stage c slots tallied w) :
    slots.filter (fun slot => slot.isLive w.environment) = slots := by
  refine List.filter_eq_self.2 fun slot mem => ?_
  obtain ⟨n, at_n⟩ := List.mem_iff_getElem?.1 mem
  exact Environment.isCurrent_iff.2 (h.ready n slot at_n).current

/-- The ring on the stage is readable. -/
lemma Stage.exists_ring (h : Stage c slots tallied w) :
    ∃ ring, Ring.load (w.environment.store.entries.get? Ring.key) = .ok ring := by
  obtain ⟨b, hosts, shows⟩ := h.board
  rw [hosts.store]
  exact ⟨b.ring, shows.load_ring⟩

/-- The shared state has an entry for the ring once somebody is there, and one for the tally once
something is counted. -/
lemma Stage.size_entries (h : Stage c slots tallied w) :
    w.environment.store.entries.size =
      (if slots = [] then 0 else 1) + if tallied = 0 then 0 else 1 := by
  obtain ⟨b, hosts, shows⟩ := h.board
  rw [hosts.store, shows.size_entries]
  simp only [List.map_eq_nil_iff]

/-! ## Steps -/

/-- The ring of a board is the ring that the walkers stand in. -/
lemma Courses.ring_eq (h : Courses c slots paces r w) {b : Board}
    (hosts : w.environment.Hosts c.ringSize b) (sorted : b.ring.positions.Sorted) :
    b.ring = r := by
  have stored := h.stored
  rw [hosts.store, Ring.ofStore, Board.load_ring sorted] at stored
  exact Except.ok.inj stored

/-- The ring that the store shows is the ring of the board. -/
lemma ofStore_of_hosts {e : Environment} {size : UInt32} {b : Board} (hosts : e.Hosts size b)
    (sorted : b.ring.positions.Sorted) : Ring.ofStore e.store = .ok b.ring := by
  rw [hosts.store, Ring.ofStore, Board.load_ring sorted]

/-- A walker on the stage takes the next step of its course without failing, and both of its actions
are applied. -/
theorem Stage.step (h : Stage c slots tallied w) (courses : Courses c slots paces r w)
    (ring : c.ringSize ≠ 0) (opened : w.environment.window.phase ≠ .closed) {n : Nat} {slot : Slot}
    (at_n : slots[n]? = some slot) (ctx : TickContext IntegerTime) :
    ∃ w', w.perform (slot.participant.step ctx) = (.fine, w') ∧ Stage c slots (tallied + 1) w' ∧
      Courses c slots (Function.update paces n (paces n + 1))
        (r.gone slot.participant.id (Walker.cellOf c.ringSize c.seed n (paces n))
          (Walker.cellOf c.ringSize c.seed n (paces n + 1))) w' ∧
      Untouched w w' ∧ w'.environment.window.stats =
        w.environment.window.stats.addApplied.addApplied := by
  have ready := h.ready n slot at_n
  obtain ⟨name, walks⟩ := ready.walker
  obtain ⟨b, hosts, shows⟩ := h.board
  obtain rfl := courses.ring_eq hosts shows.peopled.sorted
  have at_id : (slots.map fun slot => slot.participant.id)[n]? = some slot.participant.id := by
    rw [List.getElem?_map, at_n, Option.map_some]
  have inside := Walker.course_inside (.seeded (Walker.seedOf c.seed n)) ring (paces n + 1)
  have follows := courses.follows.go at_id inside
  have remembers := Memory.get_walkerPlace c.seed ready.handle (courses.streams n slot at_n)
  -- it moves, and the board that this leaves is the one on which its step is tallied
  have short := Walker.stride_short
    ((Walker.streamOf c.ringSize c.seed n (paces n)).below_lt (by decide : 0 < 3))
  obtain ⟨v₁, moved⟩ := Environment.act_move hosts opened ready.current shows.peopled.sorted short
    (courses.follows.stands n _ at_id) (Walker.course_lands _ ring _)
  have hosts₁ : (w.environment.applied { b with ring? := some (b.ring.gone slot.participant.id
      (Walker.cellOf c.ringSize c.seed n (paces n))
      (Walker.cellOf c.ringSize c.seed n (paces n + 1))) }).Hosts c.ringSize _ := hosts.applied
  have shows₁ := shows.move (List.mem_of_getElem? at_id) follows.toPeopled
  obtain ⟨v₂, counted⟩ := Environment.act_tally hosts₁ opened ready.current shows₁.bounded
  rw [walks]
  refine ⟨_, Walker.perform_step ctx remembers moved counted, ?_, ⟨?_, follows, ?_, ?_⟩,
    ⟨rfl, rfl, rfl, rfl, rfl, rfl⟩, rfl⟩
  · refine ⟨h.unguided, h.members, ⟨_, hosts₁.applied, shows₁.count⟩, fun m other at_m => ?_⟩
    refine (h.ready m other at_m).of_eq rfl ?_
    show ((Memory.walkerPlace c.seed n).put _ w.memory).handleOf? m = _
    rw [Memory.handleOf?_put]
    split
    · next same => rw [same, ready.handle]
    · rfl
  · exact ofStore_of_hosts hosts₁.applied follows.sorted
  · intro m other at_m
    show ((Memory.walkerPlace c.seed n).put _ w.memory).streamOf? m = _
    rw [Memory.streamOf?_put]
    split
    · next same =>
      rw [same, Function.update_self]
      rfl
    · next different =>
      rw [Function.update_of_ne different]
      exact courses.streams m other at_m
  · intro m beyond
    have other : m ≠ n := by
      obtain ⟨below, -⟩ := List.getElem?_eq_some_iff.1 at_n
      omega
    show (w.memory.walkers.insert n _).get? m = none
    rw [OrderedMap.get?_insert_of_ne other]
    exact courses.unmade m beyond

/-- Some walkers have stepped in a tick: their steps have been tallied, and two actions of each have
been applied. -/
structure Underway (c : ScenarioConfig) (slots : List Slot) (tallied : Nat) (before : World Memory)
    (n : Nat) (w : World Memory) : Prop where
  stage : Stage c slots (tallied + n) w
  untouched : Untouched before w
  stats : w.environment.window.stats =
    ActionStats.addApplied^[2 * n] before.environment.window.stats

/-! ## Walkers join -/

/-- Nobody on the stage has an identifier that is not registered. -/
lemma Stage.not_mem (h : Stage c slots tallied w) {id : ParticipantId}
    (absent : w.environment.keyOf? id = none) :
    id ∉ slots.map fun slot => slot.participant.id := by
  intro mem
  obtain ⟨slot, found, rfl⟩ := List.mem_map.1 mem
  obtain ⟨n, at_n⟩ := List.mem_iff_getElem?.1 found
  rw [(h.ready n slot at_n).current] at absent
  cases absent

/-- One more walker stands on the stage when it is ready and the others are as they were. -/
lemma Stage.append (h : Stage c slots tallied w) {w' : World Memory} {slot : Slot} {b : Board}
    (unguided : w'.generators = w.generators)
    (members : w'.environment.participants = w.environment.participants ++ [slot.participant.id])
    (hosts : w'.environment.Hosts c.ringSize b)
    (shows : b.Shows c.ringSize
      ((slots.map fun slot => slot.participant.id) ++ [slot.participant.id]) tallied)
    (keys : ∀ old ∈ slots, w'.environment.keyOf? old.participant.id =
      w.environment.keyOf? old.participant.id)
    (handles : ∀ n, n ≠ slots.length → w'.memory.handleOf? n = w.memory.handleOf? n)
    (ready : Ready c w' slots.length slot) : Stage c (slots ++ [slot]) tallied w' where
  unguided := unguided.trans h.unguided
  members := by
    rw [members, h.members, List.map_append]
    rfl
  board := by
    rw [List.map_append]
    exact ⟨b, hosts, shows⟩
  ready := by
    intro n other at_n
    rcases Nat.lt_or_ge n slots.length with before | after
    · rw [List.getElem?_append_left before] at at_n
      exact (h.ready n other at_n).of_eq (keys other (List.mem_of_getElem? at_n))
        (handles n (Nat.ne_of_lt before))
    · rw [List.getElem?_append_right after] at at_n
      obtain ⟨last, -⟩ := List.getElem?_eq_some_iff.1 at_n
      obtain rfl : n = slots.length :=
        Nat.le_antisymm (Nat.sub_eq_zero_iff_le.1 (Nat.lt_one_iff.1 last)) after
      rw [Nat.sub_self] at at_n
      obtain rfl := Option.some.inj at_n
      exact ready

/-- One more walker has entered on the first cell of its course, and no other has drawn. -/
lemma Courses.append (h : Courses c slots paces r w) {w' : World Memory} {slot : Slot} {r' : Ring}
    (stored : Ring.ofStore w'.environment.store = .ok r')
    (follows : r'.Follows c.ringSize c.seed
      ((slots.map fun slot => slot.participant.id) ++ [slot.participant.id]) paces)
    (first : w'.memory.streamOf? slots.length =
      some (Walker.streamOf c.ringSize c.seed slots.length (paces slots.length)))
    (others : ∀ n, n ≠ slots.length → w'.memory.walkers.get? n = w.memory.walkers.get? n) :
    Courses c (slots ++ [slot]) paces r' w' where
  stored := stored
  follows := by
    rw [List.map_append]
    exact follows
  streams := by
    intro n other at_n
    by_cases last : n = slots.length
    · rw [last]
      exact first
    · obtain ⟨below, -⟩ := List.getElem?_eq_some_iff.1 at_n
      rw [List.length_append, List.length_singleton] at below
      rw [List.getElem?_append_left (by omega)] at at_n
      rw [Memory.streamOf?, others n last]
      exact h.streams n other at_n
  unmade := by
    intro n beyond
    rw [List.length_append, List.length_singleton] at beyond
    rw [others n (by omega)]
    exact h.unmade n (by omega)

/-- A walker that is not registered joins: it is registered, enters the ring on the first cell of
its course, and stands on the stage. -/
theorem Stage.join (h : Stage c slots tallied w) (courses : Courses c slots paces r w)
    (first : paces slots.length = 0) (ring : c.ringSize ≠ 0)
    (opened : w.environment.window.phase ≠ .closed) {id : ParticipantId}
    (absent : w.environment.keyOf? id = none) (name : String) :
    ∃ admission w₁ w₂, w.call (.register id name) = (.ok admission, w₁) ∧
      w₁.perform ((walker c slots.length id name).initialise (.ofAdmission admission)) =
        (.fine, w₂) ∧
      Stage c (slots ++ [⟨walker c slots.length id name, admission.key, false⟩]) tallied w₂ ∧
      Courses c (slots ++ [⟨walker c slots.length id name, admission.key, false⟩]) paces
        (r.joined id (Walker.cellOf c.ringSize c.seed slots.length 0)) w₂ ∧
      Untouched w w₂ ∧
      ∀ other, other ≠ id → w₂.environment.keyOf? other = w.environment.keyOf? other := by
  obtain ⟨b, hosts, shows⟩ := h.board
  obtain rfl := courses.ring_eq hosts shows.peopled.sorted
  have registered := call_register_unguided h.unguided absent name
  obtain ⟨key, drawn⟩ : ∃ key, w.environment.nextKey.1 = key := ⟨_, rfl⟩
  have keys : ∀ i, (w.environment.enter ⟨id, name⟩ {}).keyOf? i =
      if i = id then some key else w.environment.keyOf? i := by
    rw [← drawn]
    exact Environment.keyOf?_enter absent
  rw [drawn] at registered
  have new := h.not_mem absent
  -- a registration touches neither the handlers nor the store
  have hosts₁ : (w.environment.enter ⟨id, name⟩ {}).Hosts c.ringSize b :=
    ⟨hosts.registry, hosts.store⟩
  have current : (w.environment.enter ⟨id, name⟩ {}).keyOf? id = some key := by
    rw [keys, if_pos rfl]
  have others : ∀ other, other ≠ id → (w.environment.enter ⟨id, name⟩ {}).keyOf? other =
      w.environment.keyOf? other := fun other ne => (keys other).trans (if_neg ne)
  obtain ⟨stream, seeded⟩ : ∃ stream,
      RandomStream.seeded (Walker.seedOf c.seed slots.length) = stream := ⟨_, rfl⟩
  obtain ⟨cell, next⟩ := Walker.course_seeded c.ringSize c.seed seeded
  -- nobody of its number has drawn, so its stream is that of its seed
  have fresh : ((Memory.walkerPlace c.seed slots.length).get w.memory).stream = stream := by
    show ((w.memory.walkers.get? slots.length).getD _).stream = _
    rw [courses.unmade _ (Nat.le_refl _), ← seeded]
    rfl
  have length : (slots.map fun slot => slot.participant.id).length = slots.length :=
    List.length_map _
  have inside : Walker.cellOf c.ringSize c.seed slots.length 0 < c.ringSize :=
    Walker.course_inside (.seeded (Walker.seedOf c.seed slots.length)) ring 0
  have follows := courses.follows.join new (by rw [length]; exact inside) (by rw [length, first])
  rw [length] at follows
  obtain ⟨v, entered⟩ := Environment.act_enter hosts₁ opened current shows.peopled.sorted
    (shows.peopled.absent new) inside
  rw [cell] at entered follows
  have hosts₂ : ((w.environment.enter ⟨id, name⟩ {}).applied { b with ring? := some (b.ring.joined
      id (UInt32.ofNat (stream.below c.ringSize.toNat).1)) }).Hosts c.ringSize _ := hosts₁.applied
  obtain ⟨state, events, initialised⟩ := Walker.perform_initialise
    (Memory.walkerPlace c.seed slots.length) name ⟨id, key, {}⟩
    { w with environment := w.environment.enter ⟨id, name⟩ {} } fresh ring entered
  have handles : ∀ n, ((Memory.walkerPlace c.seed slots.length).put
      ⟨(stream.below c.ringSize.toNat).2, some ⟨id, key, {}⟩⟩
        ((Memory.walkerPlace c.seed slots.length).put state w.memory)).handleOf? n =
          if n = slots.length then some ⟨id, key, {}⟩ else w.memory.handleOf? n := by
    intro n
    rw [Memory.handleOf?_put, Memory.handleOf?_put]
    by_cases last : n = slots.length
    · rw [if_pos last, if_pos last]
    · rw [if_neg last, if_neg last, if_neg last]
  refine ⟨_, _, _, registered, initialised, ?_, courses.append ?_ ?_ ?_ ?_,
    ⟨rfl, rfl, rfl, rfl, rfl, rfl⟩, others⟩
  · refine h.append rfl List.map_append hosts₂ (shows.enter follows.toPeopled) ?_ ?_ ?_
    · exact fun old mem => others _ fun same => new (same ▸ List.mem_map_of_mem mem)
    · exact fun n other => (handles n).trans (if_neg other)
    · exact ⟨⟨name, rfl⟩, current, (handles _).trans (if_pos rfl), rfl⟩
  · rw [cell]
    exact ofStore_of_hosts hosts₂ follows.sorted
  · rw [cell]
    exact follows
  · rw [first, next, Memory.streamOf?_put, if_pos rfl]
  · intro n other
    show ((w.memory.walkers.insert slots.length _).insert slots.length _).get? n = _
    rw [OrderedMap.get?_insert_of_ne other, OrderedMap.get?_insert_of_ne other]

end Cadence.Scenario
