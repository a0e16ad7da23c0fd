import Cadence.Proofs.Registration
import Cadence.Proofs.Ring
import Cadence.Proofs.Window
import Cadence.Scenario.Basic

/-!
# What walkers leave in the shared state

The board of a demonstration is what its two handlers keep in the shared state: the ring, from when
the first walker has entered it, and the tally, from when the first step has been tallied. While the
window is open every action of a walker is applied (`Environment.act_enter`, `act_move`,
`act_tally`), and what the board shows afterwards is one walker more (`Board.Shows.enter`), the same
walkers (`Board.Shows.move`), or one step more (`Board.Shows.count`).
-/

namespace Cadence

namespace Scenario

/-- What the shared state of a demonstration holds. -/
structure Board where
  ring? : Option Ring := none
  tally? : Option Nat := none

namespace Board

variable (b : Board)

/-- The ring, empty as long as nobody has entered it. -/
def ring : Ring := b.ring?.getD {}

/-- The number of steps that have been tallied. -/
def tally : Nat := b.tally?.getD 0

/-- The entries of the shared state. -/
def entries : OrderedMap StateKey Value :=
  ⟨(b.ring?.map fun r => (Ring.key, r.encode)).toList ++
    (b.tally?.map fun n => (Tally.key, .nat n)).toList⟩

/-- The entry of the ring is the ring, encoded. -/
lemma get?_ring : b.entries.get? Ring.key = b.ring?.map Ring.encode := by
  obtain ⟨_ | r, _ | n⟩ := b <;> rfl

/-- The entry of the tally is the tally, as a number. -/
lemma get?_tally : b.entries.get? Tally.key = b.tally?.map Value.nat := by
  obtain ⟨_ | r, _ | n⟩ := b <;> rfl

/-- To write a ring to its entry is to have it on the board. -/
lemma insert_ring (r : Ring) :
    b.entries.insert Ring.key r.encode = { b with ring? := some r }.entries := by
  obtain ⟨_ | r, _ | n⟩ := b <;> rfl

/-- To write a tally to its entry is to have it on the board. -/
lemma insert_tally (n : Nat) :
    b.entries.insert Tally.key (.nat n) = { b with tally? := some n }.entries := by
  obtain ⟨_ | r, _ | n⟩ := b <;> rfl

variable {b}

/-- A ring that is loaded from its entry is the one on the board. -/
lemma load_ring (sorted : b.ring.positions.Sorted) :
    Ring.load (b.entries.get? Ring.key) = .ok b.ring := by
  rw [get?_ring]
  obtain ⟨_ | r, tally?⟩ := b
  · rfl
  · have sorted : r.positions.Sorted := sorted
    show Ring.load (some r.encode) = .ok r
    rw [Ring.load, Ring.decode_encode sorted]

/-- A tally that is loaded from its entry is the one on the board. -/
lemma load_tally (bounded : b.tally ≤ maxUInt64) :
    Tally.load (b.entries.get? Tally.key) = b.tally := by
  rw [get?_tally]
  obtain ⟨ring?, _ | n⟩ := b
  · rfl
  · show (Value.asUInt64? (.nat n)).getD 0 = n
    rw [Value.nat, Value.asUInt64?, if_pos ⟨Int.natCast_nonneg _, Int.ofNat_le.2 bounded⟩]
    rfl

/-- The board after some walkers have entered and some steps have been tallied. -/
structure Shows (size : UInt32) (walkers : List ParticipantId) (tallied : Nat) (b : Board) :
    Prop where
  peopled : b.ring.Peopled size walkers
  tally : b.tally = min tallied maxUInt64
  entered : b.ring?.isSome = true ↔ walkers ≠ []
  begun : b.tally?.isSome = true ↔ tallied ≠ 0

variable {size : UInt32} {walkers : List ParticipantId} {tallied : Nat}

/-- A board with nothing on it shows a ring that nobody has entered, and no actions. -/
lemma shows_empty (size : UInt32) : Shows size [] 0 {} where
  peopled := Ring.peopled_empty size
  tally := rfl
  entered := ⟨nofun, fun entered => absurd rfl entered⟩
  begun := ⟨nofun, fun begun => absurd rfl begun⟩

namespace Shows

variable (h : b.Shows size walkers tallied)
include h

/-- The ring of a board that shows something loads. -/
lemma load_ring : Ring.load (b.entries.get? Ring.key) = .ok b.ring :=
  Board.load_ring h.peopled.sorted

/-- The tally of a board fits into a word. -/
lemma bounded : b.tally ≤ maxUInt64 := by
  rw [h.tally]
  exact Nat.min_le_right _ _

/-- A tally loads as the number of actions, capped at the largest word. -/
lemma load_tally : Tally.load (b.entries.get? Tally.key) = min tallied maxUInt64 := by
  rw [Board.load_tally h.bounded, h.tally]

/-- A board has an entry for the ring as soon as somebody has entered it, and one for the tally as
soon as there is something to count. -/
lemma size_entries :
    b.entries.size = (if walkers = [] then 0 else 1) + if tallied = 0 then 0 else 1 := by
  have entered := h.entered
  have begun := h.begun
  obtain ⟨_ | r, _ | n⟩ := b <;> simp_all [entries, OrderedMap.size]

/-- A ring with one more walker is shown on the board on which it is put. -/
lemma enter {r : Ring} {actor : ParticipantId} (peopled : r.Peopled size (walkers ++ [actor])) :
    Shows size (walkers ++ [actor]) tallied { b with ring? := some r } where
  peopled := peopled
  tally := h.tally
  entered := ⟨fun _ => List.append_ne_nil_of_right_ne_nil _ (List.cons_ne_nil _ _), fun _ => rfl⟩
  begun := h.begun

/-- So is one on which a walker has moved. -/
lemma move {r : Ring} {actor : ParticipantId} (old : actor ∈ walkers)
    (peopled : r.Peopled size walkers) : Shows size walkers tallied { b with ring? := some r } where
  peopled := peopled
  tally := h.tally
  entered := ⟨fun _ => List.ne_nil_of_mem old, fun _ => rfl⟩
  begun := h.begun

/-- A board on which one more action is counted shows one more. -/
lemma count : Shows size walkers (tallied + 1)
    { b with tally? := some (Tally.next b.tally) } where
  peopled := h.peopled
  tally := by
    show min (b.tally + 1) maxUInt64 = min (tallied + 1) maxUInt64
    rw [h.tally]
    omega
  entered := h.entered
  begun := ⟨fun _ => Nat.succ_ne_zero tallied, fun _ => rfl⟩

end Shows

end Board

/-! ## The handlers -/

/-- The handlers of the demonstration, accepted. -/
def handlers (size : UInt32) : Registry :=
  (({} : Registry).add (Ring.handler size)).add Tally.handler

variable {size : UInt32}

/-- On a ring that has cells both handlers are accepted. -/
lemma registry_eq (ring : size ≠ 0) : registry size = .ok (handlers size) := by
  rw [registry, ringHandler, if_neg ring]
  rfl

/-- Tags are taken by the handler that names them: those of the ring by the first, that of the tally
by the second. -/
lemma get?_byTag (tag : ActionTag) : (handlers size).byTag.get? tag =
    if tag ∈ Tally.handler.tags then some 1
    else if tag ∈ (Ring.handler size).tags then some 0 else none := by
  rw [handlers, Registry.add, OrderedMap.get?_insertAll_map, Registry.add,
    OrderedMap.get?_insertAll_map]
  rfl

/-- Keys belong to the handler that names them. -/
lemma get?_keyOwners (key : StateKey) : (handlers size).keyOwners.get? key =
    if key ∈ Tally.handler.keys then some ⟨1⟩
    else if key ∈ (Ring.handler size).keys then some ⟨0⟩ else none := by
  rw [handlers, Registry.add, OrderedMap.get?_insertAll_map, Registry.add,
    OrderedMap.get?_insertAll_map]
  rfl

/-- An action on the ring goes to the handler of the ring. -/
lemma resolve_ring {tag : ActionTag} (takes : tag ∈ (Ring.handler size).tags) :
    (handlers size).resolve tag = .ok ⟨⟨0⟩, Ring.handler size⟩ := by
  have other : tag ∉ Tally.handler.tags := by
    have apart : ∀ t ∈ [Ring.enterTag, Ring.moveTag], t ∉ [Tally.tag] := by decide
    exact apart tag takes
  rw [Registry.resolve, Registry.handlerOf?, get?_byTag, if_neg other, if_pos takes]
  rfl

/-- An action to be counted goes to the handler of the tally. -/
lemma resolve_tally : (handlers size).resolve Tally.tag = .ok ⟨⟨1⟩, Tally.handler⟩ := by
  have takes : Tally.tag ∈ Tally.handler.tags := List.mem_singleton_self _
  rw [Registry.resolve, Registry.handlerOf?, get?_byTag, if_pos takes]
  rfl

/-- The entry of the ring belongs to the handler of the ring. -/
lemma owner_ring : (handlers size).keyOwners.get? Ring.key = some ⟨0⟩ := by
  have other : Ring.key ∉ Tally.handler.keys := by
    show Ring.key ∉ [Tally.key]
    decide
  rw [get?_keyOwners, if_neg other]
  exact if_pos (List.mem_singleton_self _)

/-- The entry of the tally belongs to the handler of the tally. -/
lemma owner_tally : (handlers size).keyOwners.get? Tally.key = some ⟨1⟩ := by
  rw [get?_keyOwners]
  exact if_pos (List.mem_singleton_self _)

end Scenario

/-- An update is made by the owner of its key, if the function gives a value. -/
lemma Store.update_of_made {s : Store} {place : StateKey} {caller : HandlerId}
    {f : Option Value → Except Refusal Value} {v : Value}
    (owned : s.ownerOf? place = some caller) (made : f (s.entries.get? place) = .ok v) :
    s.update place caller f = (.ok v, s.set place v) := by
  have passes : s.authorize place caller = .ok () := by rw [authorize, if_pos owned]
  rw [update_of_ok passes, made]

namespace Ring

variable (r : Ring) (size : UInt32) (actor : ParticipantId)

/-- The action to enter puts the walker into the cell that it names. -/
lemma apply_enter (cell : UInt32) :
    r.apply size (Walker.enterAction cell) actor = r.enter size actor cell := by
  rw [Walker.enterAction, apply, if_pos rfl, Action.params, EnterParams.decode_encode]

/-- The action to move takes the walker on by the step that it names. -/
lemma apply_move (step : Int8) :
    r.apply size (Walker.moveAction step) actor = r.move size actor step := by
  have other : moveTag ≠ enterTag := by decide
  rw [Walker.moveAction, apply, if_neg other, Action.params, MoveParams.decode_encode]

end Ring

/-- What a tally makes of the stored one. -/
def Tally.applyStored (stored : Option Value) : Except Refusal Value :=
  .ok (.nat (next (load stored)))

open Scenario

namespace Environment

variable {e : Environment} {action : Action} {actor : ParticipantId} {key : Key}

/-- The action is applied of a handler that does one update, if the update is made. -/
lemma act_update {entry : RegisteredHandler} {place : StateKey}
    {f : Option Value → Except Refusal Value} {v : Value} {s : Store}
    (routed : e.route action actor key = .ok entry)
    (handles : entry.handler.handle entry.id action actor =
      .update place f fun reply => .stop (.ofUpdate reply))
    (updated : e.store.update place entry.id f = (.ok v, s)) :
    e.act action actor key =
      (.ok (.applied v), { e with store := s }.record .addApplied) := by
  rw [act, routed]
  dsimp only
  rw [handles, HandlerProgram.run, updated]
  rfl

/-- The handlers of a demonstration serve in the environment, and the board is as given. -/
structure Hosts (size : UInt32) (b : Board) (e : Environment) : Prop where
  registry : e.registry = handlers size
  store : e.store = ⟨(handlers size).keyOwners, b.entries⟩

/-- The environment after an action that was applied and has left the given board. -/
def applied (e : Environment) (b : Board) : Environment :=
  { e with store := { e.store with entries := b.entries } }.record .addApplied

variable {size : UInt32} {b b' : Board} {walkers : List ParticipantId} {tallied : Nat}

/-- An environment that hosts the board hosts the one that an action has left. -/
lemma Hosts.applied (h : e.Hosts size b) : (e.applied b').Hosts size b' where
  registry := h.registry
  store := congrArg (fun s : Store => { s with entries := b'.entries }) h.store

section Updates

variable (h : e.Hosts size b)
include h

/-- What the rules make of the ring is written on the board. -/
lemma Hosts.update_ring {r : Ring} (sorted : b.ring.positions.Sorted)
    (made : b.ring.apply size action actor = .ok r) :
    e.store.update Ring.key ⟨0⟩ (Ring.applyStored size action actor) =
      (.ok r.encode, { e.store with entries := { b with ring? := some r }.entries }) := by
  have owned : e.store.ownerOf? Ring.key = some ⟨0⟩ := by
    rw [h.store]
    exact owner_ring
  have stored : Ring.applyStored size action actor (e.store.entries.get? Ring.key) =
      .ok r.encode := by
    rw [h.store, Ring.applyStored, Board.load_ring sorted]
    dsimp only
    rw [made]
    rfl
  rw [Store.update_of_made owned stored, ← Board.insert_ring, Store.set, h.store]

/-- The tally on the board is one more. -/
lemma Hosts.update_tally (bounded : b.tally ≤ maxUInt64) :
    e.store.update Tally.key ⟨1⟩ Tally.applyStored =
      (.ok (.nat (Tally.next b.tally)),
        { e.store with entries := { b with tally? := some (Tally.next b.tally) }.entries }) := by
  have owned : e.store.ownerOf? Tally.key = some ⟨1⟩ := by
    rw [h.store]
    exact owner_tally
  have tally : Tally.load (e.store.entries.get? Tally.key) = b.tally := by
    rw [h.store]
    exact Board.load_tally bounded
  have made : Tally.applyStored (e.store.entries.get? Tally.key) =
      .ok (.nat (Tally.next b.tally)) := by
    rw [Tally.applyStored, tally]
  rw [Store.update_of_made owned made, ← Board.insert_tally, Store.set, h.store]

end Updates

section Actions

variable (h : e.Hosts size b) (opened : e.window.phase ≠ .closed)
  (current : e.keyOf? actor = some key)
include h opened current

/-- An action whose tag a handler takes is routed to it. -/
lemma route_of_hosts {entry : RegisteredHandler}
    (takes : (handlers size).resolve action.tag = .ok entry) :
    e.route action actor key = .ok entry := by
  rw [route_of_open opened (isCurrent_iff.2 current), h.registry, takes]

/-- An action on the ring that the rules allow is applied, and leaves the ring that they make. -/
lemma act_ring {r : Ring} (takes : action.tag ∈ (Ring.handler size).tags)
    (sorted : b.ring.positions.Sorted) (made : b.ring.apply size action actor = .ok r) :
    e.act action actor key =
      (.ok (.applied r.encode), e.applied { b with ring? := some r }) :=
  act_update (route_of_hosts h opened current (resolve_ring takes)) rfl (h.update_ring sorted made)

/-- A walker that is not on the ring enters it at any of its cells. -/
theorem act_enter {cell : UInt32} (sorted : b.ring.positions.Sorted)
    (absent : b.ring.positions.get? actor = none) (inside : cell < size) :
    ∃ v, e.act (Walker.enterAction cell) actor key =
      (.ok (.applied v), e.applied { b with ring? := some (b.ring.joined actor cell) }) :=
  ⟨_, act_ring h opened current (.head _) sorted
    ((Ring.apply_enter _ _ _ _).trans (Ring.enter_eq absent inside))⟩

/-- A walker on the ring moves by a short step that lands on it. -/
theorem act_move {step : Int8} {cell next : UInt32} (sorted : b.ring.positions.Sorted)
    (short : ¬(step < -1 ∨ 1 < step)) (stands : b.ring.positions.get? actor = some cell)
    (lands : Ring.cellAfter? size cell step = some next) :
    ∃ v, e.act (Walker.moveAction step) actor key =
      (.ok (.applied v), e.applied { b with ring? := some (b.ring.gone actor cell next) }) :=
  ⟨_, act_ring h opened current (.tail _ (.head _)) sorted
    ((Ring.apply_move _ _ _ _).trans (Ring.move_eq short stands lands))⟩

/-- Every action is counted. -/
theorem act_tally (bounded : b.tally ≤ maxUInt64) :
    ∃ v, e.act (.bare Tally.tag) actor key =
      (.ok (.applied v), e.applied { b with tally? := some (Tally.next b.tally) }) :=
  ⟨_, act_update (route_of_hosts h opened current resolve_tally) rfl (h.update_tally bounded)⟩

end Actions

end Environment

end Cadence
