import Cadence.Proofs.Board
import Cadence.Proofs.Interleaving
import Mathlib.Algebra.BigOperators.Group.Finset.Basic

/-!
# Errands of walkers

Walkers that are registered and stand on a ring submit actions side by side (`Gathering`). All of
them read and replace one shared value. What holds whatever the order is told of what each of them
has done so far, its `Share`: it stands where its own steps have led it, those who do nothing stand
where they stood, and the tally counts what all of them have tallied (`Gathering.Held`). Every step
and every tally keeps this (`Gathering.brings_move`, `Gathering.brings_tally`), so all that is
submitted is applied, and comes to the same in whatever order (`Gathering.errands_carried`).
-/

namespace Cadence

open Scenario

variable {M σ : Type}

/-- The world with another board, other statistics and another memory. -/
def World.showing (w : World M) (b : Board) (stats : ActionStats) (m : M) : World M :=
  { w with
    environment :=
      { w.environment with
        store := { w.environment.store with entries := b.entries }
        window := { w.environment.window with stats := stats } }
    memory := m }

/-- Where a walker stands, how many steps it has tallied, how many of its actions have been counted,
and what it remembers. -/
structure Share (σ : Type) where
  cell : UInt32
  tallied : Nat := 0
  counted : Nat := 0
  own : σ

namespace Share

variable {n : Nat}

/-- After a step to a cell. -/
def moved (l : Share σ) (cell : UInt32) : Share σ := { l with cell := cell }

/-- After one more step has been tallied. -/
def tallying (l : Share σ) : Share σ := { l with tallied := l.tallied + 1 }

/-- After one more action has been counted. -/
def counting (l : Share σ) : Share σ := { l with counted := l.counted + 1 }

/-- After something else is remembered. -/
def recalling (l : Share σ) (own : σ) : Share σ := { l with own := own }

/-- What a change of one share leaves the same in that share it leaves the same in all of them. -/
lemma update_same {α : Type} (f : Share σ → α) (g : Nat → Share σ) (i : Nat) {l : Share σ}
    (same : f l = f (g i)) (j : Nat) : f (Function.update g i l j) = f (g j) := by
  rw [Function.update_apply]
  split
  · next here => rw [same, here]
  · rfl

/-- The sum over some shares. -/
def total (f : Share σ → Nat) (n : Nat) (g : Nat → Share σ) : Nat :=
  ∑ i ∈ Finset.range n, f (g i)

variable {f : Share σ → Nat} {g : Nat → Share σ}

/-- So it leaves their sum. -/
lemma total_congr {g' : Nat → Share σ} (same : ∀ j, f (g' j) = f (g j)) :
    total f n g' = total f n g :=
  Finset.sum_congr rfl fun j _ => same j

/-- When one share grows, the sum grows by as much. -/
lemma total_update {i : Nat} (below : i < n) {l : Share σ} {more : Nat}
    (grown : f l = f (g i) + more) :
    total f n (Function.update g i l) = total f n g + more := by
  -- the sum without the summand that changes is the same on both sides
  have mem := Finset.mem_range.2 below
  rw [total, total, ← Finset.add_sum_erase _ (fun j => f (Function.update g i l j)) mem,
    ← Finset.add_sum_erase _ (fun j => f (g j)) mem]
  have others : ∑ j ∈ (Finset.range n).erase i, f (Function.update g i l j) =
      ∑ j ∈ (Finset.range n).erase i, f (g j) :=
    Finset.sum_congr rfl fun j left => by
      rw [Function.update_of_ne (Finset.ne_of_mem_erase left)]
  rw [others, Function.update_self, grown]
  omega

/-- The sum of shares that are all the same. -/
lemma total_const {k : Nat} (each : ∀ i < n, f (g i) = k) : total f n g = n * k := by
  rw [total, Finset.sum_const_nat fun i mem => each i (Finset.mem_range.1 mem), Finset.card_range]

/-- The sum over the shares of the members of a list. -/
lemma total_eq {α : Type} {l : List α} {k : α → Nat}
    (each : ∀ (i : Nat) a, l[i]? = some a → f (g i) = k a) :
    total f l.length g = (l.map k).sum := by
  show ((List.range l.length).map fun i => f (g i)).sum = _
  congr 1
  refine List.ext_getElem (by rw [List.length_map, List.length_map, List.length_range]) ?_
  intro i below below'
  rw [List.getElem_map, List.getElem_map, List.getElem_range]
  exact each i _ (List.getElem?_eq_getElem _)

end Share

/-! ## Walkers side by side -/

/-- A walker that is registered under a key and stands on a cell. -/
structure Stander where
  id : ParticipantId
  key : Key
  cell : UInt32

/-- Walkers that may act on a ring; others may stand on it with them. -/
structure Gathering (M : Type) where
  size : UInt32
  ring : size ≠ 0
  world : World M
  board : Board
  hosts : world.environment.Hosts size board
  opened : world.environment.window.phase ≠ .closed
  sorted : board.ring.positions.Sorted
  inside : ∀ cell ∈ board.ring.cells, cell < size
  bounded : board.tally ≤ maxUInt64
  walkers : List Stander
  distinct : (walkers.map Stander.id).Nodup
  registered : ∀ p ∈ walkers, world.environment.keyOf? p.id = some p.key
  stands : ∀ p ∈ walkers, board.ring.positions.get? p.id = some p.cell

namespace Gathering

variable (x : Gathering M) (recalls : (Nat → σ) → M → Prop)

/-- What the walkers of a gathering have made of board and memory, told of their shares. -/
structure Held (g : Nat → Share σ) (b : Board) (m : M) : Prop where
  peopled : b.ring.Peopled x.size x.board.ring.positions.keys
  entered : b.ring?.isSome = x.board.ring?.isSome
  stands : ∀ (i : Nat) p, x.walkers[i]? = some p →
    b.ring.positions.get? p.id = some (g i).cell
  others : ∀ id ∉ x.walkers.map Stander.id,
    b.ring.positions.get? id = x.board.ring.positions.get? id
  tally : b.tally = min (x.board.tally + Share.total Share.tallied x.walkers.length g) maxUInt64
  begun : b.tally?.isSome = true ↔
    x.board.tally?.isSome = true ∨ Share.total Share.tallied x.walkers.length g ≠ 0
  recalls : recalls (fun i => (g i).own) m

/-- What holds of the world of a gathering all the time: but for board and memory it is as it was,
and every action that is done has been counted. -/
def Invariant (g : Nat → Share σ) (w : World M) : Prop :=
  ∃ b m, w = x.world.showing b
    (ActionStats.addApplied^[Share.total Share.counted x.walkers.length g]
    x.world.environment.window.stats) m ∧ x.Held recalls g b m

variable {x recalls} {g : Nat → Share σ} {b : Board} {m : M} {stats : ActionStats} {w : World M}

/-- Standers are known apart by their identifiers. -/
lemma place_unique {i j : Nat} {p q : Stander} (at_i : x.walkers[i]? = some p)
    (at_j : x.walkers[j]? = some q) (same : q.id = p.id) : j = i := by
  have ids : (x.walkers.map Stander.id)[j]? = (x.walkers.map Stander.id)[i]? := by
    rw [List.getElem?_map, List.getElem?_map, at_i, at_j, Option.map_some, Option.map_some, same]
  obtain ⟨below, -⟩ := List.getElem?_eq_some_iff.1 at_j
  exact (List.getElem?_inj (by rwa [List.length_map]) x.distinct).1 ids

/-- A world that shows a board hosts it. -/
lemma hosts_showing (x : Gathering M) (b : Board) (stats : ActionStats) (m : M) :
    (x.world.showing b stats m).environment.Hosts x.size b where
  registry := x.hosts.registry
  store := congrArg (fun s : Store => { s with entries := b.entries }) x.hosts.store

/-- Before anybody has begun the shares agree with the world. -/
lemma held_start (shares : ∀ (i : Nat) p, x.walkers[i]? = some p → (g i).cell = p.cell)
    (nothing : ∀ i, (g i).tallied = 0) (uncounted : ∀ i, (g i).counted = 0)
    (kept : recalls (fun i => (g i).own) x.world.memory) : x.Invariant recalls g x.world := by
  have tallied : Share.total Share.tallied x.walkers.length g = 0 :=
    Finset.sum_eq_zero fun i _ => nothing i
  have counted : Share.total Share.counted x.walkers.length g = 0 :=
    Finset.sum_eq_zero fun i _ => uncounted i
  refine ⟨x.board, x.world.memory, ?_, ⟨x.sorted, .refl _, x.inside⟩, rfl, ?_, fun _ _ => rfl, ?_,
    ?_, kept⟩
  · rw [counted]
    have store := x.hosts.store
    show x.world = { x.world with environment := { x.world.environment with
      store := { x.world.environment.store with entries := x.board.entries } } }
    rw [store, ← store]
  · intro i p at_i
    rw [shares i p at_i]
    exact x.stands p (List.mem_of_getElem? at_i)
  · rw [tallied, Nat.add_zero, Nat.min_eq_left x.bounded]
  · rw [tallied]
    exact ⟨.inl, fun h => h.resolve_right fun ne => ne rfl⟩

/-- Shares that tell the same of cells, tallies and memories. -/
lemma Held.of_same (held : x.Held recalls g b m) {g' : Nat → Share σ}
    (cell : ∀ j, (g' j).cell = (g j).cell) (tallied : ∀ j, (g' j).tallied = (g j).tallied)
    (own : ∀ j, (g' j).own = (g j).own) : x.Held recalls g' b m where
  peopled := held.peopled
  entered := held.entered
  stands := fun i p at_i => by rw [cell]; exact held.stands i p at_i
  others := held.others
  tally := by rw [Share.total_congr tallied]; exact held.tally
  begun := by rw [Share.total_congr tallied]; exact held.begun
  recalls := by rw [funext own]; exact held.recalls

/-- Somebody remembers something else. -/
lemma Invariant.recall (inv : x.Invariant recalls g w) (i : Nat) {own : σ} {m : M}
    (kept : recalls (fun j => (g j).own) w.memory →
      recalls (Function.update (fun j => (g j).own) i own) m) :
    x.Invariant recalls (Function.update g i ((g i).recalling own)) { w with memory := m } := by
  obtain ⟨b, before, rfl, held⟩ := inv
  have counted := Share.update_same Share.counted g i (l := (g i).recalling own) rfl
  have tallied := Share.update_same Share.tallied g i (l := (g i).recalling own) rfl
  have cell := Share.update_same Share.cell g i (l := (g i).recalling own) rfl
  have owns : (fun j => (Function.update g i ((g i).recalling own) j).own) =
      Function.update (fun j => (g j).own) i own := by
    funext j
    rw [Function.update_apply, Function.update_apply]
    split <;> rfl
  refine ⟨b, m, by rw [Share.total_congr counted]; rfl, held.peopled, held.entered, ?_, held.others,
    ?_, ?_, ?_⟩
  · intro j p at_j
    rw [cell]
    exact held.stands j p at_j
  · rw [Share.total_congr tallied]
    exact held.tally
  · rw [Share.total_congr tallied]
    exact held.begun
  · rw [owns]
    exact kept held.recalls

section Steps

variable {i : Nat} {p : Stander} (at_i : x.walkers[i]? = some p)
include at_i

/-- Who stands in the ring has an action routed to the handler of its tag. -/
lemma route_of_invariant {action : Action} {entry : RegisteredHandler}
    (takes : (handlers x.size).resolve action.tag = .ok entry) (inv : x.Invariant recalls g w) :
    w.environment.route action p.id p.key = .ok entry := by
  obtain ⟨b, m, rfl, -⟩ := inv
  have registered : x.world.environment.keyOf? p.id = some p.key :=
    x.registered p (List.mem_of_getElem? at_i)
  exact Environment.route_of_hosts (hosts_showing x b _ m) x.opened registered takes

/-- The invariant survives that an applied action is counted. -/
lemma Invariant.count (inv : x.Invariant recalls g w) :
    x.Invariant recalls (Function.update g i (g i).counting)
      { w with environment := w.environment.record .addApplied } := by
  obtain ⟨below, -⟩ := List.getElem?_eq_some_iff.1 at_i
  obtain ⟨b, m, rfl, held⟩ := inv
  have more : Share.total Share.counted x.walkers.length (Function.update g i (g i).counting) =
      Share.total Share.counted x.walkers.length g + 1 := Share.total_update below rfl
  refine ⟨b, m, ?_, held.of_same (Share.update_same _ g i rfl) (Share.update_same _ g i rfl)
    (Share.update_same _ g i rfl)⟩
  rw [more, Function.iterate_succ_apply']
  rfl

/-- One of the walkers has gone to the next cell. -/
lemma Held.go (held : x.Held recalls g b m) {next : UInt32} (inside : next < x.size) :
    x.Held recalls (Function.update g i ((g i).moved next))
      { b with ring? := some (b.ring.gone p.id (g i).cell next) } m where
  peopled := by
    refine held.peopled.move ?_ inside
    rw [OrderedMap.mem_keys_iff, x.stands p (List.mem_of_getElem? at_i)]
    exact Option.some_ne_none _
  entered := by
    rw [← held.entered]
    have stands := held.stands i p at_i
    obtain ⟨_ | r, tally?⟩ := b
    · cases stands
    · rfl
  stands := by
    intro j q at_j
    show (b.ring.gone p.id (g i).cell next).positions.get? q.id = _
    rw [Ring.positions_gone, OrderedMap.get?_insert]
    by_cases same : j = i
    · subst same
      rw [at_i] at at_j
      obtain rfl := Option.some.inj at_j
      rw [if_pos rfl, Function.update_self]
      rfl
    · have other : q.id ≠ p.id := fun eq => same (place_unique at_i at_j eq)
      rw [if_neg other, Function.update_of_ne same]
      exact held.stands j q at_j
  others := by
    intro id absent
    have other : id ≠ p.id := fun same =>
      absent (same ▸ List.mem_map_of_mem (List.mem_of_getElem? at_i))
    show (b.ring.gone p.id (g i).cell next).positions.get? id = _
    rw [Ring.positions_gone, OrderedMap.get?_insert, if_neg other]
    exact held.others id absent
  tally := by
    have tallied := Share.update_same Share.tallied g i (l := (g i).moved next) rfl
    rw [Share.total_congr tallied]
    exact held.tally
  begun := by
    have tallied := Share.update_same Share.tallied g i (l := (g i).moved next) rfl
    rw [Share.total_congr tallied]
    exact held.begun
  recalls := by
    have own := Share.update_same Share.own g i (l := (g i).moved next) rfl
    rw [funext own]
    exact held.recalls

/-- What a stander holds survives that it tallies. -/
lemma Held.count (held : x.Held recalls g b m) :
    x.Held recalls (Function.update g i (g i).tallying)
      { b with tally? := some (Tally.next b.tally) } m where
  peopled := held.peopled
  entered := held.entered
  stands := fun j q at_j => by
    rw [Share.update_same Share.cell g i (l := (g i).tallying) rfl]
    exact held.stands j q at_j
  others := held.others
  tally := by
    obtain ⟨below, -⟩ := List.getElem?_eq_some_iff.1 at_i
    have tally := held.tally
    have grown : (g i).tallying.tallied = (g i).tallied + 1 := rfl
    rw [Share.total_update below grown]
    show min (b.tally + 1) maxUInt64 = _
    omega
  begun := by
    obtain ⟨below, -⟩ := List.getElem?_eq_some_iff.1 at_i
    have grown : (g i).tallying.tallied = (g i).tallied + 1 := rfl
    rw [Share.total_update below grown]
    exact ⟨fun _ => .inr (Nat.succ_ne_zero _), fun _ => rfl⟩
  recalls := by
    rw [funext (Share.update_same Share.own g i (l := (g i).tallying) rfl)]
    exact held.recalls

/-- A walker takes a step to the next cell, whatever the others do. -/
theorem brings_move {l : Share σ} {step : Int8} {next : UInt32}
    (short : ¬(step < -1 ∨ 1 < step)) (inside : next < x.size)
    (lands : Ring.cellAfter? x.size l.cell step = some next) :
    (Thread.act (Walker.moveAction step) p.id p.key).Brings (x.Invariant recalls) i
      (fun r l' => (∃ v, r = .ok (.applied v)) ∧ l' = (l.moved next).counting) l := by
  refine Thread.brings_act ⟨⟨0⟩, Ring.handler x.size⟩ (l.moved next) rfl ?_ ?_ ?_
  · exact fun g w _ inv => route_of_invariant at_i (resolve_ring (.tail _ (.head _))) inv
  · rintro g w rfl ⟨b, m, rfl, held⟩
    -- whatever the others have made of the board, this walker stands where it has left itself
    have made := Ring.move_eq short (held.stands i p at_i) lands
    rw [← Ring.apply_move] at made
    have updated := (hosts_showing x b (ActionStats.addApplied^[Share.total Share.counted
      x.walkers.length g] x.world.environment.window.stats) m).update_ring held.peopled.sorted made
    have counted := Share.update_same Share.counted g i (l := (g i).moved next) rfl
    refine ⟨_, congrArg Prod.fst updated, _, m, ?_, held.go at_i inside⟩
    rw [updated, Share.total_congr counted]
    rfl
  · rintro g w holds inv
    rw [← holds]
    exact inv.count at_i

/-- A walker tallies a step, whatever the others do. -/
theorem brings_tally (l : Share σ) :
    (Thread.act (.bare Tally.tag) p.id p.key).Brings (x.Invariant recalls) i
      (fun r l' => (∃ v, r = .ok (.applied v)) ∧ l' = l.tallying.counting) l := by
  have handles : Tally.handler.handle ⟨1⟩ (.bare Tally.tag) p.id =
      .update Tally.key Tally.applyStored fun reply => .stop (.ofUpdate reply) := rfl
  refine Thread.brings_act ⟨⟨1⟩, Tally.handler⟩ l.tallying handles ?_ ?_ ?_
  · exact fun g w _ inv => route_of_invariant at_i resolve_tally inv
  · rintro g w rfl ⟨b, m, rfl, held⟩
    have bounded : b.tally ≤ maxUInt64 := by
      rw [held.tally]
      exact Nat.min_le_right _ _
    have updated := (hosts_showing x b (ActionStats.addApplied^[Share.total Share.counted
      x.walkers.length g] x.world.environment.window.stats) m).update_tally bounded
    have counted := Share.update_same Share.counted g i (l := (g i).tallying) rfl
    refine ⟨_, congrArg Prod.fst updated, _, m, ?_, held.count at_i⟩
    rw [updated, Share.total_congr counted]
    rfl
  · rintro g w holds inv
    rw [← holds]
    exact inv.count at_i

end Steps

end Gathering

/-! ## Errands -/

/-- What a walker on a ring may submit: a step of one cell at most, or a tally. -/
inductive Errand where
  | move (step : Int8) (short : ¬(step < -1 ∨ 1 < step))
  | tally

namespace Errand

/-- The action of an errand. -/
def action : Errand → Action
  | move step _ => Walker.moveAction step
  | tally => .bare Tally.tag

/-- By how many cells an errand leads on. -/
def shift : Errand → Int
  | move step _ => step.toInt
  | tally => 0

/-- How much an errand tallies. -/
def tallies : Errand → Nat
  | move _ _ => 0
  | tally => 1

end Errand

/-- Submit some actions one after another. -/
def Thread.submit (actor : ParticipantId) (key : Key) :
    List Action → Thread M (List (Except EnvironmentError ActionOutcome))
  | [] => done []
  | action :: rest =>
    (act action actor key).bind fun answer => (submit actor key rest).map (answer :: ·)

namespace Gathering

variable {x : Gathering M} {recalls : (Nat → σ) → M → Prop}

/-- What a walker that held some share has made of its errands: all of them have been applied, and
have led it on from where it stood. -/
structure Done (x : Gathering M) (errands : List Errand) (before : Share σ)
    (answers : List (Except EnvironmentError ActionOutcome)) (l : Share σ) : Prop where
  applied : ∀ answer ∈ answers, ∃ v, answer = .ok (.applied v)
  answered : answers.length = errands.length
  cell : (l.cell.toNat : Int) =
    ((before.cell.toNat : Int) + (errands.map Errand.shift).sum) % (x.size.toNat : Int)
  tallied : l.tallied = before.tallied + (errands.map Errand.tallies).sum
  own : l.own = before.own

section Done

variable {errands : List Errand} {l l' : Share σ} {answer : Except EnvironmentError ActionOutcome}
  {answers : List (Except EnvironmentError ActionOutcome)}

/-- Without errands nothing is left to do. -/
lemma Done.nil (inside : l.cell < x.size) : x.Done [] l [] l where
  applied := fun _ mem => absurd mem List.not_mem_nil
  answered := rfl
  cell := by
    have below := UInt32.lt_iff_toNat_lt.1 inside
    rw [List.map_nil, List.sum_nil, Int.add_zero, Int.emod_eq_of_lt (by omega) (by omega)]
  tallied := rfl
  own := rfl

/-- A move is done, and then the rest. -/
lemma Done.move {step : Int8} {next : UInt32} (short : ¬(step < -1 ∨ 1 < step))
    (value : (next.toNat : Int) = ((l.cell.toNat : Int) + step.toInt) % (x.size.toNat : Int))
    (applied : ∃ v, answer = .ok (.applied v))
    (h : x.Done errands (l.moved next).counting answers l') :
    x.Done (.move step short :: errands) l (answer :: answers) l' where
  applied := List.forall_mem_cons.2 ⟨applied, h.applied⟩
  answered := congrArg (· + 1) h.answered
  cell := by
    rw [h.cell, List.map_cons, List.sum_cons, ← Int.add_assoc]
    show ((next.toNat : Int) + _) % _ = _
    rw [value, Int.emod_add_emod]
    rfl
  tallied := by
    rw [h.tallied, List.map_cons, List.sum_cons, Errand.tallies, Nat.zero_add]
    rfl
  own := h.own

/-- A tally is done, and then the rest. -/
lemma Done.tally (applied : ∃ v, answer = .ok (.applied v))
    (h : x.Done errands l.tallying.counting answers l') :
    x.Done (.tally :: errands) l (answer :: answers) l' where
  applied := List.forall_mem_cons.2 ⟨applied, h.applied⟩
  answered := congrArg (· + 1) h.answered
  cell := by
    rw [h.cell, List.map_cons, List.sum_cons, Errand.shift, Int.zero_add]
    rfl
  tallied := by
    rw [h.tallied, List.map_cons, List.sum_cons, Errand.tallies, ← Nat.add_assoc]
    rfl
  own := h.own

/-- A walker does all its errands, whatever the others do. -/
theorem brings_submit {i : Nat} {p : Stander} (at_i : x.walkers[i]? = some p)
    (errands : List Errand) (inside : l.cell < x.size) :
    (Thread.submit p.id p.key (errands.map Errand.action)).Brings (x.Invariant recalls) i
      (x.Done errands l) l := by
  induction errands generalizing l with
  | nil => exact .nil inside
  | cons errand rest ih =>
    cases errand with
    | move step short =>
      obtain ⟨next, lands, within, value⟩ := Ring.cellAfter?_eq x.ring l.cell step
      refine (brings_move at_i short within lands).bind ?_
      rintro answer _ ⟨applied, rfl⟩
      exact (ih (l := (l.moved next).counting) within).map fun answers l' others =>
        others.move short value applied
    | tally =>
      refine (brings_tally at_i l).bind ?_
      rintro answer _ ⟨applied, rfl⟩
      exact (ih (l := l.tallying.counting) inside).map fun answers l' others =>
        others.tally applied

end Done

/-- The walkers of a gathering, each submitting its errands. -/
def submissions (x : Gathering M) (errands : ParticipantId → List Errand) :
    List (Thread M (List (Except EnvironmentError ActionOutcome))) :=
  x.walkers.map fun p => .submit p.id p.key ((errands p.id).map Errand.action)

/-- All errands of a gathering have been applied: every walker stands where its own steps have led
it, nobody else has been moved, and every tally counts. -/
structure Carried (x : Gathering M) (errands : ParticipantId → List Errand)
    (answers : List (List (Except EnvironmentError ActionOutcome))) (w : World M) : Prop where
  answered : answers.map List.length = x.walkers.map fun p => (errands p.id).length
  applied : ∀ given ∈ answers, ∀ answer ∈ given, ∃ v, answer = .ok (.applied v)
  ring : ∃ r, Ring.ofStore w.environment.store = .ok r ∧
    (∀ p ∈ x.walkers, ∃ cell, r.positions.get? p.id = some cell ∧ (cell.toNat : Int) =
      ((p.cell.toNat : Int) + ((errands p.id).map Errand.shift).sum) % (x.size.toNat : Int)) ∧
    ∀ id ∉ x.walkers.map Stander.id, r.positions.get? id = x.board.ring.positions.get? id
  tally : Tally.ofStore w.environment.store = min (x.board.tally +
    (x.walkers.map fun p => ((errands p.id).map Errand.tallies).sum).sum) maxUInt64

/-- The errands of a gathering have been carried out if each of its walkers has done its own. -/
lemma Held.carried {errands : ParticipantId → List Errand} {g g' : Nat → Share σ} {b : Board}
    {m : M} {answers : List (List (Except EnvironmentError ActionOutcome))} {w : World M}
    (held : x.Held recalls g' b m) (hosts : w.environment.Hosts x.size b)
    (start : ∀ (i : Nat) p, x.walkers[i]? = some p → (g i).cell = p.cell ∧ (g i).tallied = 0)
    (length : answers.length = x.walkers.length)
    (done : ∀ (i : Nat) given, answers[i]? = some given →
      ∃ p, x.walkers[i]? = some p ∧ x.Done (errands p.id) (g i) given (g' i)) :
    x.Carried errands answers w := by
  have told : ∀ (i : Nat) p, x.walkers[i]? = some p →
      ((g' i).cell.toNat : Int) = ((p.cell.toNat : Int) + ((errands p.id).map Errand.shift).sum) %
        (x.size.toNat : Int) ∧
      (g' i).tallied = ((errands p.id).map Errand.tallies).sum := by
    intro i p at_i
    obtain ⟨below, -⟩ := List.getElem?_eq_some_iff.1 at_i
    rw [← length] at below
    obtain ⟨q, at_q, all⟩ := done i _ (List.getElem?_eq_getElem below)
    obtain rfl := Option.some.inj (at_i.symm.trans at_q)
    obtain ⟨cell, nothing⟩ := start i p at_i
    rw [← cell]
    refine ⟨all.cell, ?_⟩
    rw [all.tallied, nothing, Nat.zero_add]
  have bounded : b.tally ≤ maxUInt64 := by
    rw [held.tally]
    exact Nat.min_le_right _ _
  refine ⟨?_, ?_, ⟨b.ring, ?_, ?_, held.others⟩, ?_⟩
  · refine List.ext_getElem (by rw [List.length_map, List.length_map, length]) fun i below _ => ?_
    rw [List.length_map] at below
    obtain ⟨p, at_p, all⟩ := done i _ (List.getElem?_eq_getElem below)
    obtain ⟨_, rfl⟩ := List.getElem?_eq_some_iff.1 at_p
    rw [List.getElem_map, List.getElem_map, all.answered]
  · intro given mem
    obtain ⟨i, at_i⟩ := List.mem_iff_getElem?.1 mem
    obtain ⟨p, -, all⟩ := done i given at_i
    exact all.applied
  · rw [hosts.store, Ring.ofStore, Board.load_ring held.peopled.sorted]
  · intro p mem
    obtain ⟨i, at_i⟩ := List.mem_iff_getElem?.1 mem
    exact ⟨_, held.stands i p at_i, (told i p at_i).1⟩
  · rw [hosts.store, Tally.ofStore, Board.load_tally bounded, held.tally,
      Share.total_eq fun i p at_i => (told i p at_i).2]

/-- Whatever the order of their accesses, the walkers of a gathering carry out all their errands. -/
theorem errands_carried (x : Gathering M) (errands : ParticipantId → List Errand)
    (schedule : List Nat) :
    x.Carried errands (World.interleave schedule (x.submissions errands) x.world).1
      (World.interleave schedule (x.submissions errands) x.world).2 := by
  -- nothing is remembered here, so shares differ in cells, tallies and counts only
  let g : Nat → Share Unit := fun i => ⟨(x.walkers[i]?.map Stander.cell).getD 0, 0, 0, ()⟩
  have start : ∀ (i : Nat) p, x.walkers[i]? = some p → (g i).cell = p.cell := fun i p at_i => by
    show (x.walkers[i]?.map Stander.cell).getD 0 = p.cell
    rw [at_i]
    rfl
  have inv : x.Invariant (fun _ _ => True) g x.world :=
    held_start start (fun _ => rfl) (fun _ => rfl) trivial
  have brings : ∀ (i : Nat) t, (x.submissions errands)[i]? = some t →
      t.Brings (x.Invariant fun _ _ => True) i (fun given l => ∃ p, x.walkers[i]? = some p ∧
        x.Done (errands p.id) (g i) given l) (g i) := by
    intro i t at_t
    rw [submissions, List.getElem?_map, Option.map_eq_some_iff] at at_t
    obtain ⟨p, at_i, rfl⟩ := at_t
    have inside : (g i).cell < x.size := by
      rw [start i p at_i]
      exact x.inside _ (List.mem_map_of_mem
        (OrderedMap.mem_of_get? x.sorted (x.stands p (List.mem_of_getElem? at_i))))
    exact (brings_submit at_i (errands p.id) inside).mono fun given l all => ⟨p, at_i, all⟩
  obtain ⟨g', ⟨b, m, world, held⟩, count, ends⟩ := World.interleave_brings schedule brings inv
  have hosts := hosts_showing x b (ActionStats.addApplied^[Share.total Share.counted
    x.walkers.length g'] x.world.environment.window.stats) m
  rw [← world] at hosts
  exact held.carried hosts (fun i p at_i => ⟨start i p at_i, rfl⟩)
    (count.trans (List.length_map _)) ends

end Gathering

end Cadence
