import Cadence.State.Registry
import Mathlib.Logic.Basic

/-!
# Accepted handlers

Handlers are offered in any number and order, and those that claim what is taken are refused. The
two tables of the registry then say exactly what the accepted handlers declare
(`Registry.sound_ofOffers`), so no tag and no key has two of them.
-/

namespace Cadence

namespace Registry

/-- The registry after a handler was offered: refused, it leaves the registry as it was. -/
def offer (r : Registry) (h : Handler) : Registry :=
  match r.register h with
  | .ok (_, r') => r'
  | .error _ => r

/-- The registry of the handlers that are accepted among those offered. -/
def ofOffers (offers : List Handler) : Registry := offers.foldl offer {}

/-! ## Tables -/

/-- A table gives, for everything declared, the place of the one handler that declares it. -/
def Lists {κ : Type} (table : κ → Option Nat) (declared : Handler → List κ)
    (hs : List RegisteredHandler) : Prop :=
  ∀ k i, table k = some i ↔ ∃ h, hs[i]? = some h ∧ k ∈ declared h.handler

/-- A table keeps up with one more handler when nothing that it declares is in the table yet. -/
lemma Lists.concat {κ : Type} [DecidableEq κ] {table table' : κ → Option Nat}
    {declared : Handler → List κ} {hs : List RegisteredHandler} (lists : Lists table declared hs)
    (new : RegisteredHandler) (fresh : ∀ k ∈ declared new.handler, table k = none)
    (grown : ∀ k, table' k = if k ∈ declared new.handler then some hs.length else table k) :
    Lists table' declared (hs ++ [new]) := by
  intro k i
  rw [grown, List.getElem?_append]
  by_cases hk : k ∈ declared new.handler
  · -- whoever declares the same thing earlier would have it in the table
    have alone : ¬∃ h, hs[i]? = some h ∧ k ∈ declared h.handler := by
      rw [← lists k i, fresh k hk]
      nofun
    rw [if_pos hk]
    constructor
    · rintro ⟨⟩
      exact ⟨new, by simp, hk⟩
    · rintro ⟨h, at_i, mem⟩
      split at at_i
      · exact absurd ⟨h, at_i, mem⟩ alone
      · next hi =>
        have bound := (List.getElem?_eq_some_iff.1 at_i).1
        rw [List.length_singleton] at bound
        exact congrArg some (by omega)
  · rw [if_neg hk, lists k i]
    constructor
    · rintro ⟨h, at_i, mem⟩
      rw [if_pos (List.getElem?_eq_some_iff.1 at_i).1]
      exact ⟨h, at_i, mem⟩
    · rintro ⟨h, at_i, mem⟩
      split at at_i
      · exact ⟨h, at_i, mem⟩
      · rw [List.mem_singleton.1 (List.mem_of_getElem? at_i)] at mem
        exact absurd mem hk

/-- The registry says of its handlers what they are: their numbers, their tags and their keys. -/
structure Sound (r : Registry) : Prop where
  ids : ∀ i (h : RegisteredHandler), r.handlers[i]? = some h → h.id = ⟨i⟩
  tags : Lists r.byTag.get? Handler.tags r.handlers
  keys : Lists (fun k => (r.keyOwners.get? k).map HandlerId.index) Handler.keys r.handlers

variable {r : Registry}

namespace Sound

/-- Keys are owned by the handlers that list them. -/
lemma keys_iff (s : r.Sound) {k : StateKey} {id : HandlerId} :
    r.keyOwners.get? k = some id ↔ ∃ h, r.handlers[id.index]? = some h ∧ k ∈ h.handler.keys := by
  rw [← s.keys k id.index, Option.map_eq_some_iff]
  constructor
  · intro owned
    exact ⟨id, owned, rfl⟩
  · rintro ⟨⟨i⟩, owned, rfl⟩
    exact owned

/-- A tag is taken by the handler that lists it. -/
lemma handlerOf?_eq_some_iff (s : r.Sound) {tag : ActionTag} {h : RegisteredHandler} :
    r.handlerOf? tag = some h ↔ h ∈ r.handlers ∧ tag ∈ h.handler.tags := by
  rw [handlerOf?, Option.bind_eq_some_iff]
  constructor
  · rintro ⟨i, listed, at_i⟩
    obtain ⟨h', at_i', mem⟩ := (s.tags tag i).1 listed
    obtain rfl : h = h' := Option.some.inj (at_i.symm.trans at_i')
    exact ⟨List.mem_of_getElem? at_i, mem⟩
  · rintro ⟨accepted, mem⟩
    obtain ⟨i, at_i⟩ := List.mem_iff_getElem?.1 accepted
    exact ⟨i, (s.tags tag i).2 ⟨h, at_i, mem⟩, at_i⟩

/-- The owner of a key is the accepted handler that declares it. -/
theorem keyOwners_eq_some_iff (s : r.Sound) {k : StateKey} {id : HandlerId} :
    r.keyOwners.get? k = some id ↔ ∃ h ∈ r.handlers, h.id = id ∧ k ∈ h.handler.keys := by
  rw [s.keys_iff]
  constructor
  · rintro ⟨h, at_id, mem⟩
    exact ⟨h, List.mem_of_getElem? at_id, s.ids _ h at_id, mem⟩
  · rintro ⟨h, accepted, rfl, mem⟩
    obtain ⟨i, at_i⟩ := List.mem_iff_getElem?.1 accepted
    rw [s.ids i h at_i]
    exact ⟨h, at_i, mem⟩

/-- Handlers are known apart by their identifiers. -/
lemma eq_of_id_eq (s : r.Sound) {h h' : RegisteredHandler} (accepted : h ∈ r.handlers)
    (accepted' : h' ∈ r.handlers) (same : h.id = h'.id) : h = h' := by
  obtain ⟨i, at_i⟩ := List.mem_iff_getElem?.1 accepted
  obtain ⟨j, at_j⟩ := List.mem_iff_getElem?.1 accepted'
  rw [s.ids i h at_i, s.ids j h' at_j] at same
  obtain rfl : i = j := congrArg HandlerId.index same
  exact Option.some.inj (at_i.symm.trans at_j)

/-- No key has two accepted handlers. -/
theorem eq_of_mem_keys (s : r.Sound) {h h' : RegisteredHandler} {k : StateKey}
    (accepted : h ∈ r.handlers) (mem : k ∈ h.handler.keys) (accepted' : h' ∈ r.handlers)
    (mem' : k ∈ h'.handler.keys) : h = h' := by
  have owned := s.keyOwners_eq_some_iff.2 ⟨h, accepted, rfl, mem⟩
  have owned' := s.keyOwners_eq_some_iff.2 ⟨h', accepted', rfl, mem'⟩
  exact s.eq_of_id_eq accepted accepted' (Option.some.inj (owned.symm.trans owned'))

end Sound

/-! ## Offers -/

/-- The empty registry is sound. -/
lemma sound_empty : Sound {} where
  ids _ _ at_i := by cases at_i
  tags _ _ := ⟨nofun, fun ⟨_, at_i, _⟩ => by cases at_i⟩
  keys _ _ := ⟨nofun, fun ⟨_, at_i, _⟩ => by cases at_i⟩

/-- A handler that conflicts with none claims only what is free. -/
lemma free_of_conflict?_eq_none (s : r.Sound) {h : Handler} (free : r.conflict? h = none) :
    (∀ t ∈ h.tags, r.byTag.get? t = none) ∧ ∀ k ∈ h.keys, r.keyOwners.get? k = none := by
  rw [conflict?, Option.orElse_eq_orElse, Option.orElse_eq_or, Option.or_eq_none_iff,
    List.findSome?_eq_none_iff, List.findSome?_eq_none_iff] at free
  refine ⟨fun t mem => ?_, fun k mem => ?_⟩
  · have untaken := free.1 t (OrderedMap.mem_distinct.2 mem)
    rw [Option.map_eq_none_iff, tagOwner?, Option.map_eq_none_iff] at untaken
    cases listed : r.byTag.get? t with
    | none => rfl
    | some i =>
      obtain ⟨h', at_i, -⟩ := (s.tags t i).1 listed
      rw [handlerOf?, listed, Option.bind_some, at_i] at untaken
      cases untaken
  · have unowned := free.2 k (OrderedMap.mem_distinct.2 mem)
    rwa [Option.map_eq_none_iff, keyOwner?, Option.map_eq_none_iff] at unowned

/-- A registry stays sound with a handler that claims only what is free. -/
lemma Sound.add (s : r.Sound) {h : Handler} (tags : ∀ t ∈ h.tags, r.byTag.get? t = none)
    (keys : ∀ k ∈ h.keys, r.keyOwners.get? k = none) : (r.add h).Sound where
  ids i h' at_i := by
    rw [Registry.add, List.getElem?_append] at at_i
    split at at_i
    · exact s.ids i h' at_i
    · obtain rfl := List.mem_singleton.1 (List.mem_of_getElem? at_i)
      have bound := (List.getElem?_eq_some_iff.1 at_i).1
      rw [List.length_singleton] at bound
      exact congrArg HandlerId.mk (by rw [size]; omega)
  tags := by
    refine s.tags.concat ⟨⟨r.size⟩, h⟩ tags fun t => ?_
    exact OrderedMap.get?_insertAll_map r.byTag h.tags r.size t
  keys := by
    refine s.keys.concat ⟨⟨r.size⟩, h⟩ (fun k mem => by rw [keys k mem]; rfl) fun k => ?_
    rw [Registry.add, OrderedMap.get?_insertAll_map]
    split <;> rfl

/-- A handler is accepted exactly if it takes a tag, conflicts with none and finds room. -/
theorem register_eq_ok_iff {h : Handler} {id : HandlerId} {r' : Registry} :
    r.register h = .ok (id, r') ↔
      h.tags.isEmpty = false ∧ r.conflict? h = none ∧ r.size < capacity ∧ id = ⟨r.size⟩ ∧
        r' = r.add h := by
  rw [register]
  cases h.tags.isEmpty with
  | true => simp
  | false =>
    cases r.conflict? h with
    | some claim => simp
    | none =>
      by_cases room : r.size < capacity
      · simp [room, eq_comm]
      · simp [room]

/-- A registry stays sound whatever is offered. -/
lemma Sound.offer (s : r.Sound) (h : Handler) : (r.offer h).Sound := by
  rw [Registry.offer]
  split
  · next accepted =>
    obtain ⟨-, free, -, -, rfl⟩ := register_eq_ok_iff.1 accepted
    obtain ⟨tags, keys⟩ := free_of_conflict?_eq_none s free
    exact s.add tags keys
  · exact s

/-- Whatever handlers are offered, the registry says of the accepted ones what they are. -/
theorem sound_ofOffers (offers : List Handler) : (ofOffers offers).Sound := by
  -- on the offers, from any sound registry on
  have run : ∀ r : Registry, r.Sound → (offers.foldl Registry.offer r).Sound := by
    induction offers with
    | nil => exact fun r s => s
    | cons h rest ih => exact fun r s => ih _ (s.offer h)
  exact run {} sound_empty

end Registry

end Cadence
