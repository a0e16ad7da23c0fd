import Cadence.Proofs.Log
import Cadence.Proofs.Registry
import Mathlib.Logic.ExistsUnique
import Mathlib.Tactic.ByContra

/-!
# Owners of shared state

Whatever a handler does, it changes only keys that it owns (`HandlerProgram.run_within`). The owners
in the store are those that the registry has accepted, so `state_changed_by_owner` can say of every
key which accepted handler its value comes from, and which actions leave it alone.
-/

namespace Cadence

variable {M α : Type}

/-! ## Operations on the store -/

namespace Store

variable {s : Store} {k : StateKey} {v : Value} {caller : HandlerId}

/-- The owner of a key passes the check. -/
lemma authorize_of_owner (h : s.ownerOf? k = some caller) : s.authorize k caller = .ok () := by
  rw [authorize, if_pos h]

/-- Anybody else is refused, and told who the owner is. -/
lemma authorize_of_ne (h : s.ownerOf? k ≠ some caller) :
    s.authorize k caller = .error (.unauthorized k caller (s.ownerOf? k)) := by
  rw [authorize, if_neg h]

/-- Who writes several values must own all their keys. -/
lemma authorizeAll_eq_ok_iff {keys : List StateKey} :
    s.authorizeAll caller keys = .ok () ↔ ∀ k ∈ keys, s.ownerOf? k = some caller := by
  induction keys with
  | nil => simp [authorizeAll]
  | cons k rest ih =>
    rw [authorizeAll, List.forall_mem_cons, ← ih]
    by_cases h : s.ownerOf? k = some caller
    · simp [authorize_of_owner h, h]
    · simp [authorize_of_ne h, h]

/-- What one caller makes of a store: owners stay as they are, and so do the keys of others. -/
structure Within (caller : HandlerId) (s s' : Store) : Prop where
  owners : s'.owners = s.owners
  others : ∀ k, s.ownerOf? k ≠ some caller → s'.entries.get? k = s.entries.get? k

namespace Within

/-- A store is within the rights of everybody to change it into itself. -/
lemma refl (caller : HandlerId) (s : Store) : Within caller s s := ⟨rfl, fun _ _ => rfl⟩

/-- Changes within the rights of a caller are so together. -/
lemma trans {s₁ s₂ s₃ : Store} (h : Within caller s₁ s₂) (h' : Within caller s₂ s₃) :
    Within caller s₁ s₃ where
  owners := h'.owners.trans h.owners
  others k hk := by
    have still : s₂.ownerOf? k ≠ some caller := by
      rw [ownerOf?, h.owners]
      exact hk
    exact (h'.others k still).trans (h.others k hk)

end Within

/-- To set a value is within the rights of the owner. -/
lemma set_within (h : s.ownerOf? k = some caller) (v : Value) : Within caller s (s.set k v) where
  owners := rfl
  others k' hk' := by
    have apart : k' ≠ k := by
      rintro rfl
      exact hk' h
    exact OrderedMap.get?_insert_of_ne apart s.entries v

/-- Of the values at a key that somebody owns only that owner can set one. -/
lemma get?_set_of_owner {key : StateKey} {owner : HandlerId} (owned : s.ownerOf? key = some owner)
    (h : s.ownerOf? k = some caller) (v : Value) :
    (s.set k v).entries.get? key =
      if caller = owner ∧ k = key then some v else s.entries.get? key := by
  rw [set, OrderedMap.get?_insert]
  by_cases same : key = k
  · subst same
    obtain rfl : caller = owner := Option.some.inj (h.symm.trans owned)
    rw [if_pos rfl, if_pos ⟨rfl, rfl⟩]
  · rw [if_neg same, if_neg fun both => same both.2.symm]

/-- So it is for several values. -/
lemma get?_insertAll_of_owner {key : StateKey} {owner : HandlerId}
    (owned : s.ownerOf? key = some owner) {entries : List (StateKey × Value)}
    (h : ∀ k ∈ entries.map Prod.fst, s.ownerOf? k = some caller) :
    (s.entries.insertAll entries).get? key =
      if caller = owner then (OrderedMap.find? key entries.reverse).or (s.entries.get? key)
      else s.entries.get? key := by
  rw [OrderedMap.get?_insertAll]
  split
  · rfl
  · next foreign =>
    have missing : key ∉ entries.reverse.map Prod.fst := by
      rw [List.map_reverse, List.mem_reverse]
      exact fun mem => foreign (Option.some.inj ((h key mem).symm.trans owned))
    rw [OrderedMap.find?_eq_none_iff.2 missing, Option.none_or]

/-- A successful write sets the value at a key that the caller owns; others do nothing. -/
lemma write_cases (s : Store) (k : StateKey) (v : Value) (caller : HandlerId) :
    (s.ownerOf? k = some caller ∧ s.write k v caller = (.ok (s.entries.get? k), s.set k v)) ∨
      ∃ err, s.write k v caller = (.error err, s) := by
  rw [write]
  by_cases h : s.ownerOf? k = some caller
  · rw [authorize_of_owner h]
    exact .inl ⟨h, rfl⟩
  · rw [authorize_of_ne h]
    exact .inr ⟨_, rfl⟩

/-- A successful batch sets values at keys that the caller owns, all of them; others do nothing. -/
lemma writeBatch_cases (s : Store) (entries : List (StateKey × Value)) (caller : HandlerId) :
    ((∀ k ∈ entries.map Prod.fst, s.ownerOf? k = some caller) ∧
      s.writeBatch entries caller =
        (.ok (), { s with entries := s.entries.insertAll entries })) ∨
      ∃ err, s.writeBatch entries caller = (.error err, s) := by
  rw [writeBatch]
  cases h : s.authorizeAll caller (entries.map Prod.fst) with
  | ok u => exact .inl ⟨authorizeAll_eq_ok_iff.1 h, rfl⟩
  | error err => exact .inr ⟨err, rfl⟩

/-- A successful update sets the value at a key that the caller owns; others do nothing. -/
lemma update_cases {ε : Type} (s : Store) (k : StateKey) (caller : HandlerId)
    (f : Option Value → Except ε Value) :
    (∃ v, s.ownerOf? k = some caller ∧ s.update k caller f = (.ok v, s.set k v)) ∨
      ∃ err, s.update k caller f = (.error err, s) := by
  by_cases h : s.ownerOf? k = some caller
  · rw [update_of_ok (authorize_of_owner h)]
    cases f (s.entries.get? k) with
    | ok v => exact .inl ⟨v, h, rfl⟩
    | error err => exact .inr ⟨_, rfl⟩
  · exact .inr ⟨_, update_of_error (authorize_of_ne h) f⟩

/-- A write stays within the rights of the caller. -/
lemma write_within (s : Store) (k : StateKey) (v : Value) (caller : HandlerId) :
    Within caller s (s.write k v caller).2 := by
  obtain ⟨h, eq⟩ | ⟨err, eq⟩ := s.write_cases k v caller
  · rw [eq]
    exact set_within h v
  · rw [eq]
    exact .refl caller s

/-- So does a write of several values. -/
lemma writeBatch_within (s : Store) (entries : List (StateKey × Value)) (caller : HandlerId) :
    Within caller s (s.writeBatch entries caller).2 := by
  obtain ⟨h, eq⟩ | ⟨err, eq⟩ := s.writeBatch_cases entries caller
  · rw [eq]
    refine ⟨rfl, fun k hk => ?_⟩
    have missing : k ∉ entries.reverse.map Prod.fst := by
      rw [List.map_reverse, List.mem_reverse]
      exact fun mem => hk (h k mem)
    rw [OrderedMap.get?_insertAll, OrderedMap.find?_eq_none_iff.2 missing, Option.none_or]
  · rw [eq]
    exact .refl caller s

/-- So does an update. -/
lemma update_within {ε : Type} (s : Store) (k : StateKey) (caller : HandlerId)
    (f : Option Value → Except ε Value) : Within caller s (s.update k caller f).2 := by
  obtain ⟨v, h, eq⟩ | ⟨err, eq⟩ := s.update_cases k caller f
  · rw [eq]
    exact set_within h v
  · rw [eq]
    exact .refl caller s

end Store

open Store

/-- A handler changes only keys that it owns, whatever it tries and wherever it breaks off. -/
theorem HandlerProgram.run_within (caller : HandlerId) (p : HandlerProgram) (s : Store) :
    Within caller s (p.run caller s).2 := by
  induction p generalizing s with
  | stop ending => exact .refl caller s
  | read key next ih => exact ih _ s
  | write key value next ih => exact (s.write_within key value caller).trans (ih _ _)
  | writeBatch entries next ih => exact (s.writeBatch_within entries caller).trans (ih _ _)
  | update key f next ih =>
    have updated := s.update_within key caller f
    rw [run]
    generalize s.update key caller f = r at updated ⊢
    rcases r with ⟨⟨_ | ⟨_ | _ | _⟩⟩ | _, s'⟩
    case error.function.panicked => exact updated
    all_goals exact updated.trans (ih _ s')

/-! ## Actions -/

namespace Environment

variable {e : Environment} {action : Action} {actor : ParticipantId} {key : Key}

/-- An action that is not routed leaves the store. -/
lemma act_store_of_error {err : EnvironmentError} (h : e.route action actor key = .error err) :
    (e.act action actor key).2.store = e.store := by
  rw [act, h]
  rfl

/-- What a handled action leaves in the store is what the handler made of it. -/
lemma act_store_of_ok {entry : RegisteredHandler} (h : e.route action actor key = .ok entry) :
    (e.act action actor key).2.store =
      ((entry.handler.handle entry.id action actor).run entry.id e.store).2 := by
  rw [act, h]
  dsimp only
  rw [settle]
  split <;> rfl

/-- A handler that an action goes to is registered for its tag. -/
lemma resolve_of_route {entry : RegisteredHandler} (h : e.route action actor key = .ok entry) :
    e.registry.handlerOf? action.tag = some entry := by
  rw [route] at h
  split at h
  · cases h
  · split at h
    · cases h
    · rw [Registry.resolve] at h
      split at h
      · next found => rw [found, Except.ok.inj h]
      · cases h

end Environment

/-! ## Accesses -/

/-- The value at a key after an access that was made, given the one before and counting only what
the owner has successfully written. -/
def Performed.valueAfter (owner : HandlerId) (key : StateKey) (value : Option Value) :
    Performed M → Option Value
  | ⟨.write k v caller, .ok _⟩ => if caller = owner ∧ k = key then some v else value
  | ⟨.writeBatch entries caller, .ok ()⟩ =>
    if caller = owner then (OrderedMap.find? key entries.reverse).or value else value
  | ⟨.update k caller _, .ok v⟩ => if caller = owner ∧ k = key then some v else value
  | _ => value

/-- The value that the owner has successfully written last at a key. -/
def lastWritten (owner : HandlerId) (key : StateKey) (log : List (Performed M)) : Option Value :=
  log.foldl (Performed.valueAfter owner key) none

/-- An access makes of the store what some caller can make of it. -/
lemma Access.store_within (a : Access M) (w : World M) :
    ∃ caller, Within caller w.environment.store (a.apply w).2.environment.store := by
  have still := (a.apply_frame w).2
  cases a with
  | write k v caller => exact ⟨caller, write_within _ k v caller⟩
  | writeBatch entries caller => exact ⟨caller, writeBatch_within _ entries caller⟩
  | update k caller f => exact ⟨caller, update_within _ k caller f⟩
  | _ =>
    -- what leaves the store as it is, anybody could have done
    rw [still rfl]
    exact ⟨default, .refl _ _⟩

/-- The value at a key with an owner changes as the reply to an access tells. -/
lemma Access.value_apply (a : Access M) (w : World M) {owner : HandlerId} {key : StateKey}
    (owned : w.environment.store.ownerOf? key = some owner) :
    (a.apply w).2.environment.store.entries.get? key =
      Performed.valueAfter owner key (w.environment.store.entries.get? key)
        ⟨a, (a.apply w).1⟩ := by
  have still := (a.apply_frame w).2
  cases a with
  | write k v caller =>
    simp only [apply, World.inStore, World.inEnvironment]
    obtain ⟨h, eq⟩ | ⟨err, eq⟩ := w.environment.store.write_cases k v caller
    · rw [eq]
      exact get?_set_of_owner owned h v
    · rw [eq]
      rfl
  | writeBatch entries caller =>
    simp only [apply, World.inStore, World.inEnvironment]
    obtain ⟨h, eq⟩ | ⟨err, eq⟩ := w.environment.store.writeBatch_cases entries caller
    · rw [eq]
      exact get?_insertAll_of_owner owned h
    · rw [eq]
      rfl
  | update k caller f =>
    simp only [apply, World.inStore, World.inEnvironment]
    obtain ⟨v, h, eq⟩ | ⟨err, eq⟩ := w.environment.store.update_cases k caller f
    · rw [eq]
      exact get?_set_of_owner owned h v
    · rw [eq]
      rfl
  | _ => exact congrArg (fun s => s.entries.get? key) (still rfl)

/-! ## The store of a registry -/

/-- The environment has the handlers of a registry: its store has their keys, and nothing at keys
without an owner. -/
structure Environment.Tended (r : Registry) (e : Environment) : Prop where
  registry : e.registry = r
  owners : e.store.owners = r.keyOwners
  unowned : ∀ k, r.keyOwners.get? k = none → e.store.entries.get? k = none

/-- Whatever access is made, the handlers and their keys stay as they are. -/
lemma Access.tended_apply {r : Registry} (a : Access M) (w : World M)
    (h : w.environment.Tended r) : (a.apply w).2.environment.Tended r := by
  obtain ⟨caller, within⟩ := a.store_within w
  refine ⟨(a.apply_frame w).1.registry.trans h.registry, within.owners.trans h.owners, ?_⟩
  intro k free
  have foreign : w.environment.store.ownerOf? k ≠ some caller := by
    rw [ownerOf?, h.owners, free]
    nofun
  exact (within.others k foreign).trans (h.unowned k free)

/-- The setting with the handlers that are accepted among those offered. -/
def Setting.accepting (x : Setting M) (offers : List Handler) : Setting M :=
  { x with registry := .ofOffers offers }

/-- At the start keys belong to the handlers that name them. -/
lemma Setting.tended_world (x : Setting M) : x.world.environment.Tended x.registry :=
  ⟨rfl, rfl, fun _ _ => rfl⟩

/-- Programs keep the handlers, and nothing appears at keys without an owner. -/
lemma Setting.tended_perform (x : Setting M) (p : Program M α) :
    (x.world.perform p).2.environment.Tended x.registry :=
  (World.perform_reaches x.world p).lift
    (R := fun w w' => w.environment.Tended x.registry → w'.environment.Tended x.registry)
    (fun _ h => h) (fun ab bc h => bc (ab h)) Access.tended_apply x.tended_world

/-- The value at a key with an owner is what the owner has written last. -/
lemma Setting.value_perform (x : Setting M) (p : Program M α) {owner : HandlerId} {key : StateKey}
    (owned : x.registry.keyOwners.get? key = some owner) :
    (x.world.perform p).2.environment.store.entries.get? key =
      lastWritten owner key (x.world.log p) := by
  -- the replies tell of the value only while the owner is the same, hence the invariant
  refine Thread.foldl_log (I := fun w => w.environment.Tended x.registry)
    (f := fun w => w.environment.store.entries.get? key) Access.tended_apply ?_ _ x.tended_world
  intro a w h
  refine a.value_apply w ?_
  rw [ownerOf?, h.owners]
  exact owned

/-! ## Actions and owners -/

/-- An action that changes the value at a key has gone to the handler that declares it. -/
lemma Environment.route_of_changed {r : Registry} (sound : r.Sound) {e : Environment}
    (h : e.Tended r) {action : Action} {actor : ParticipantId} {key : Key} {k : StateKey}
    (changed : (e.act action actor key).2.store.entries.get? k ≠ e.store.entries.get? k) :
    ∃ entry ∈ r.handlers, e.route action actor key = .ok entry ∧
      action.tag ∈ entry.handler.tags ∧ k ∈ entry.handler.keys := by
  cases routed : e.route action actor key with
  | error err =>
    rw [act_store_of_error routed] at changed
    exact absurd rfl changed
  | ok entry =>
    have found := resolve_of_route routed
    rw [h.registry] at found
    obtain ⟨accepted, tagged⟩ := sound.handlerOf?_eq_some_iff.1 found
    refine ⟨entry, accepted, rfl, tagged, ?_⟩
    -- the change shows that the store has the handler as the owner of the key
    have owned : r.keyOwners.get? k = some entry.id := by
      by_contra foreign
      rw [act_store_of_ok routed] at changed
      rw [← h.owners] at foreign
      exact changed ((HandlerProgram.run_within _ _ e.store).others k foreign)
    obtain ⟨owner, accepted', same, declared⟩ := sound.keyOwners_eq_some_iff.1 owned
    rwa [← sound.eq_of_id_eq accepted' accepted same]

/-- Whatever handlers are offered, and whatever their programs try, an action changes only keys that
its handler declares. So every key with a value has exactly one accepted handler, its value is what
that handler has successfully written last, and an action that does not go to that handler leaves it
alone. -/
theorem state_changed_by_owner (x : Setting M) (offers : List Handler) (p : Program M α) :
    let start := (x.accepting offers).world
    let w := (start.perform p).2
    let e := w.environment
    let accepted := (Registry.ofOffers offers).handlers
    (∀ action id key k,
      (w.call (.act action id key)).2.environment.store.entries.get? k ≠ e.store.entries.get? k →
      ∃ h ∈ accepted, e.route action id key = .ok h ∧ action.tag ∈ h.handler.tags ∧
        k ∈ h.handler.keys) ∧
    (∀ k, e.store.contains k = true → ∃! h, h ∈ accepted ∧ k ∈ h.handler.keys) ∧
    (∀ h ∈ accepted, ∀ k ∈ h.handler.keys,
      e.store.entries.get? k = lastWritten h.id k (start.log p) ∧
      ∀ action id key, e.route action id key ≠ .ok h →
        (w.call (.act action id key)).2.environment.store.entries.get? k =
          e.store.entries.get? k) := by
  intro start w e accepted
  have sound : (Registry.ofOffers offers).Sound := Registry.sound_ofOffers offers
  have tended : e.Tended (.ofOffers offers) := (x.accepting offers).tended_perform p
  have changes : ∀ action id key k,
      (w.call (.act action id key)).2.environment.store.entries.get? k ≠ e.store.entries.get? k →
      ∃ h ∈ accepted, e.route action id key = .ok h ∧ action.tag ∈ h.handler.tags ∧
        k ∈ h.handler.keys := by
    intro action id key k changed
    rw [World.call_act] at changed
    exact Environment.route_of_changed sound tended changed
  refine ⟨changes, fun k present => ?_, fun h accept k declared => ⟨?_, ?_⟩⟩
  · cases owner : (Registry.ofOffers offers).keyOwners.get? k with
    | none =>
      rw [Store.contains, OrderedMap.contains, tended.unowned k owner] at present
      cases present
    | some id =>
      obtain ⟨h, accept, -, declared⟩ := sound.keyOwners_eq_some_iff.1 owner
      exact ⟨h, ⟨accept, declared⟩, fun h' other =>
        sound.eq_of_mem_keys other.1 other.2 accept declared⟩
  · have owned := sound.keyOwners_eq_some_iff.2 ⟨h, accept, rfl, declared⟩
    exact (x.accepting offers).value_perform p owned
  · intro action id key elsewhere
    by_contra changed
    obtain ⟨h', accept', routed, -, declared'⟩ := changes action id key k changed
    rw [sound.eq_of_mem_keys accept' declared' accept declared] at routed
    exact elsewhere routed

end Cadence
