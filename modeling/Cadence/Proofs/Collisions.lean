import Cadence.Proofs.Rules
import Mathlib.Data.Finset.Card

/-!
# Collisions

A landing is a collision exactly if the actor comes to a cell on which somebody else stands
(`Ring.collides_iff`). Every landing frees a cell at most, and takes a new one unless it is a
collision; so those that share a cell are no more than the collisions (`Ring.Counts.landed`), and
there are no more of these than landings (`collisions_account`).
-/

namespace Cadence

variable {M α : Type}

namespace Ring

variable {r : Ring} {size : UInt32} {actor : ParticipantId} {cell : UInt32}

/-! ## Who collides -/

/-- The actor comes to a cell on which somebody else stands. -/
def Collides (r : Ring) (actor : ParticipantId) (cell : UInt32) : Prop :=
  r.positions.get? actor ≠ some cell ∧ ∃ other ≠ actor, r.positions.get? other = some cell

/-- On an occupied cell where the actor does not stand, somebody else does. -/
lemma collides_iff (sorted : r.positions.Sorted) :
    (r.positions.get? actor != some cell && r.isOccupied cell) = true ↔ r.Collides actor cell := by
  rw [Bool.and_eq_true, bne_iff_ne, isOccupied, List.contains_iff_mem, Collides]
  refine and_congr_right fun elsewhere => ?_
  constructor
  · intro occupied
    obtain ⟨e, mem, rfl⟩ := List.mem_map.1 occupied
    have stands := OrderedMap.get?_of_mem sorted mem
    refine ⟨e.1, fun same => elsewhere (same ▸ stands), stands⟩
  · rintro ⟨other, -, stands⟩
    exact List.mem_map_of_mem (OrderedMap.mem_of_get? sorted stands)

/-- The count of collisions goes up by one with a collision, and stays with every other landing. -/
lemma toNat_collisions_landed (sorted : r.positions.Sorted) (actor : ParticipantId)
    (cell : UInt32) :
    (r.Collides actor cell → (r.landed actor cell).collisions.toNat =
      min (r.collisions.toNat + 1) 18446744073709551615) ∧
    (¬r.Collides actor cell → (r.landed actor cell).collisions = r.collisions) := by
  rw [landed, collideIf]
  split
  · next collides =>
    exact ⟨fun _ => Word.toNat_bump r.collisions,
      fun not => absurd ((collides_iff sorted).1 collides) not⟩
  · next not =>
    exact ⟨fun collides => absurd ((collides_iff sorted).2 collides) not, fun _ => rfl⟩

/-! ## Cells in use -/

/-- The distinct cells in use are counted. -/
lemma occupied_eq (r : Ring) : r.occupied = r.cells.toFinset.card := by
  have nodup : (OrderedMap.distinct r.cells).Nodup := (OrderedMap.sorted_ofList _).nodup_keys
  rw [occupied, ← List.toFinset_card_of_nodup nodup]
  congr 1
  ext cell
  rw [List.mem_toFinset, List.mem_toFinset, OrderedMap.mem_distinct]

/-- A newcomer takes its cell besides those in use. -/
lemma cells_landed_new (new : r.positions.get? actor = none) (cell : UInt32) :
    (r.landed actor cell).cells.Perm (cell :: r.cells) := by
  have absent : actor ∉ r.positions.keys := fun mem => OrderedMap.mem_keys_iff.1 mem new
  rw [cells, cells, OrderedMap.values, OrderedMap.values, positions_landed]
  exact (OrderedMap.insert_perm absent cell).map Prod.snd

/-- A walker leaves its cell for another one, and all others stay. -/
lemma cells_landed_old (sorted : r.positions.Sorted) {before : UInt32}
    (stands : r.positions.get? actor = some before) (cell : UInt32) :
    ∃ others, r.cells.Perm (before :: others) ∧
      (r.landed actor cell).cells.Perm (cell :: others) := by
  obtain ⟨rest, perm, perm'⟩ := OrderedMap.insert_perm_of_get? sorted stands cell
  refine ⟨rest.map Prod.snd, perm.map Prod.snd, ?_⟩
  rw [cells, OrderedMap.values, positions_landed]
  exact perm'.map Prod.snd

/-- A landing that is no collision stays on its cell, or takes one that is free. -/
lemma stays_or_free (sorted : r.positions.Sorted) (not : ¬r.Collides actor cell) :
    r.positions.get? actor = some cell ∨ cell ∉ r.cells := by
  by_contra neither
  obtain ⟨elsewhere, occupied⟩ := not_or.1 neither
  refine not ((collides_iff sorted).1 ?_)
  rw [Bool.and_eq_true, bne_iff_ne, isOccupied, List.contains_iff_mem]
  exact ⟨elsewhere, not_not.1 occupied⟩

/-- How a landing changes the number of walkers, and that of the cells in use: a collision makes for
one walker more, or one cell less, than there would be otherwise. -/
lemma occupied_landed (sorted : r.positions.Sorted) (actor : ParticipantId) (cell : UInt32) :
    (r.landed actor cell).cells.length + r.occupied ≤
        r.cells.length + (r.landed actor cell).occupied + 1 ∧
      (¬r.Collides actor cell → (r.landed actor cell).cells.length + r.occupied ≤
        r.cells.length + (r.landed actor cell).occupied) := by
  rw [occupied_eq, occupied_eq]
  cases stands : r.positions.get? actor with
  | none =>
    have perm := cells_landed_new stands cell
    rw [List.toFinset_eq_of_perm _ _ perm, perm.length_eq, List.toFinset_cons, List.length_cons]
    refine ⟨?_, fun not => ?_⟩
    · have grows := Finset.card_le_card (Finset.subset_insert cell r.cells.toFinset)
      omega
    · have free : cell ∉ r.cells := (stays_or_free sorted not).resolve_left (by rw [stands]; nofun)
      rw [Finset.card_insert_of_notMem (mt List.mem_toFinset.1 free)]
      omega
  | some before =>
    obtain ⟨others, perm, perm'⟩ := cells_landed_old sorted stands cell
    rw [List.toFinset_eq_of_perm _ _ perm, List.toFinset_eq_of_perm _ _ perm', perm.length_eq,
      perm'.length_eq, List.toFinset_cons, List.toFinset_cons, List.length_cons, List.length_cons]
    have most := Finset.card_insert_le before others.toFinset
    refine ⟨?_, fun not => ?_⟩
    · have grows := Finset.card_le_card (Finset.subset_insert cell others.toFinset)
      omega
    · rcases stays_or_free sorted not with stays | free
      · obtain rfl : before = cell := Option.some.inj (stands.symm.trans stays)
        exact Nat.le_refl _
      · have new : cell ∉ others.toFinset := fun mem =>
          free (perm.mem_iff.2 (List.mem_cons_of_mem _ (List.mem_toFinset.1 mem)))
        rw [Finset.card_insert_of_notMem new]
        omega

/-! ## The account -/

/-- After a number of landings: those that share a cell are no more than the collisions, as long as
these can be counted, and there are no more of these than landings. -/
structure Counts (landings : Nat) (r : Ring) : Prop where
  shared : r.collisions.toNat < 18446744073709551615 →
    r.cells.length ≤ r.occupied + r.collisions.toNat
  few : r.collisions.toNat ≤ landings

/-- The count begins at nought. -/
lemma counts_empty : Counts 0 {} := ⟨fun _ => Nat.zero_le _, Nat.le_refl 0⟩

/-- Every landing keeps the account. -/
lemma Counts.landed {n : Nat} (h : Counts n r) (sorted : r.positions.Sorted) (actor : ParticipantId)
    (cell : UInt32) : Counts (n + 1) (r.landed actor cell) := by
  obtain ⟨most, free⟩ := occupied_landed sorted actor cell
  obtain ⟨up, same⟩ := toNat_collisions_landed sorted actor cell
  obtain ⟨shared, few⟩ := h
  by_cases collides : r.Collides actor cell
  · have count := up collides
    refine ⟨fun below => ?_, by omega⟩
    have before := shared (by omega)
    omega
  · have cells := free collides
    refine ⟨?_, ?_⟩
    · rw [same collides]
      intro below
      have before := shared below
      omega
    · rw [same collides]
      omega

end Ring

/-- Whatever programs do, an action for the ring is counted as one collision if it is applied and
its actor comes to a cell on which somebody else stands; every other one leaves the count alone. So
at any time the cells in use and the collisions together are at least as many as the walkers, and
there are no more collisions than actions for the ring have been applied. -/
theorem collisions_account (x : Setting M) (offers : List Handler) (size : UInt32)
    {h : RegisteredHandler} (accepted : h ∈ (Registry.ofOffers offers).handlers)
    (serves : h.handler = Ring.handler size) (p : Program M α) :
    let start := (x.accepting offers).world
    let w := (start.perform p).2
    ∃ r : Ring, Ring.Stored (w.environment.store.entries.get? Ring.key) r ∧
      (r.collisions.toNat < 18446744073709551615 →
        r.positions.size ≤ r.occupied + r.collisions.toNat) ∧
      r.collisions.toNat ≤ landings (start.deedsOf p) ∧
      ∀ action actor key, action.tag ∈ [Ring.enterTag, Ring.moveTag] →
        let out := w.call (.act action actor key)
        ∃ r' : Ring, Ring.Stored (out.2.environment.store.entries.get? Ring.key) r' ∧
          let collided := (∃ v, out.1 = .ok (.applied v)) ∧
            ∃ cell, r'.positions.get? actor = some cell ∧ r.Collides actor cell
          (collided → r.collisions.toNat < 18446744073709551615 →
            r'.collisions.toNat = r.collisions.toNat + 1) ∧
          (¬collided → r'.collisions = r.collisions) := by
  intro start w
  obtain ⟨r, holds, counts⟩ := Ring.landing_induction x offers accepted serves
    (P := Ring.Counts) Ring.counts_empty
    (fun n r _ actor cell sorted _ _ counts => counts.landed sorted actor cell) p
  have sorted := holds.stored.sorted
  have walkers : r.cells.length = r.positions.size := List.length_map _
  refine ⟨r, holds.stored, walkers ▸ counts.shared, counts.few, fun action actor key takes => ?_⟩
  intro out
  by_cases current : w.environment.keyOf? actor = some key
  · have plays : r.Plays size action actor h.name w.environment.store out.1
        out.2.environment.store := holds.plays accepted serves takes current
    generalize out.1 = answer at plays ⊢
    generalize out.2.environment.store = store at plays ⊢
    cases plays with
    | @lands cell lands =>
      obtain ⟨up, same⟩ := r.toNat_collisions_landed sorted actor cell
      have stands : (r.landed actor cell).positions.get? actor = some cell := by
        rw [Ring.positions_landed, OrderedMap.get?_insert_self]
      refine ⟨r.landed actor cell, (Ring.Kept.landed holds lands).stored, ?_, ?_⟩
      · rintro ⟨-, cell', stands', collides⟩ below
        obtain rfl : cell = cell' := Option.some.inj (stands.symm.trans stands')
        rw [up collides]
        omega
      · intro not
        exact same fun collides => not ⟨⟨_, rfl⟩, cell, stands, collides⟩
    | outside | malformed =>
      refine ⟨r, holds.stored, ?_, fun _ => rfl⟩
      rintro ⟨⟨v, applied⟩, -⟩
      cases applied
  · rw [show out = _ from World.call_act_of_ne current action]
    refine ⟨r, holds.stored, ?_, fun _ => rfl⟩
    rintro ⟨⟨v, applied⟩, -⟩
    cases applied

section Crowded

/-- Two walkers enter a ring of two cells, one on each. -/
def crowd : Program Key Unit :=
  .ask (.register ⟨1⟩ "one") fun _ => .ask (.register ⟨2⟩ "two") fun _ =>
    .ask (.act (Walker.enterAction 0) ⟨1⟩ ⟨1⟩) fun _ =>
      .ask (.act (Walker.enterAction 1) ⟨2⟩ ⟨2⟩) fun _ => .done ()

/-- On two cells a step back leads to the cell ahead, and to a collision with who stands there. -/
theorem collisions_account_crowded :
    let w := ((plain.toSetting.accepting [Ring.handler 2]).world.perform crowd).2
    let out := w.call (.act (Walker.moveAction (-1)) ⟨1⟩ ⟨1⟩)
    (⟨⟨0⟩, Ring.handler 2⟩ : RegisteredHandler) ∈ (Registry.ofOffers [Ring.handler 2]).handlers ∧
      Ring.load (w.environment.store.entries.get? Ring.key) =
        .ok ⟨⟨[(⟨1⟩, 0), (⟨2⟩, 1)]⟩, 0⟩ ∧
      ∃ r : Ring, Ring.Stored (out.2.environment.store.entries.get? Ring.key) r ∧
        r.positions = ⟨[(⟨1⟩, 1), (⟨2⟩, 1)]⟩ ∧ r.collisions.toNat = 1 := by
  intro w out
  have accepted : (⟨⟨0⟩, Ring.handler 2⟩ : RegisteredHandler) ∈
      (Registry.ofOffers [Ring.handler 2]).handlers := .head _
  have loaded : Ring.load (w.environment.store.entries.get? Ring.key) =
      .ok ⟨⟨[(⟨1⟩, 0), (⟨2⟩, 1)]⟩, 0⟩ := by decide +kernel
  have moved : Ring.load (out.2.environment.store.entries.get? Ring.key) =
      .ok ⟨⟨[(⟨1⟩, 1), (⟨2⟩, 1)]⟩, 1⟩ := by decide +kernel
  have applied : out.1 = .ok (.applied (Ring.encode ⟨⟨[(⟨1⟩, 1), (⟨2⟩, 1)]⟩, 1⟩)) := by
    decide +kernel
  obtain ⟨r, stored, -, -, law⟩ :=
    collisions_account plain.toSetting [Ring.handler 2] 2 accepted rfl crowd
  obtain rfl := Except.ok.inj (stored.load_eq.symm.trans loaded)
  obtain ⟨r', stored', up, -⟩ := law (Walker.moveAction (-1)) ⟨1⟩ ⟨1⟩ (.tail _ (.head _))
  obtain rfl := Except.ok.inj (stored'.load_eq.symm.trans moved)
  have collides : Ring.Collides ⟨⟨[(⟨1⟩, 0), (⟨2⟩, 1)]⟩, 0⟩ ⟨1⟩ 1 :=
    ⟨by decide, ⟨2⟩, by decide, rfl⟩
  exact ⟨accepted, loaded, _, stored', rfl, up ⟨⟨_, applied⟩, 1, rfl, collides⟩ (by decide)⟩

end Crowded

end Cadence
