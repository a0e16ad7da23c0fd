import Cadence.Proofs.Codec
import Cadence.Proofs.Interleaving
import Cadence.Proofs.Ownership
import Cadence.Proofs.Traffic

/-!
# The ring in the shared state

At the key of the ring nothing is stored or the value of a ring in order (`Ring.Stored`). Only the
handler of the ring writes there, and what it writes is the value of a ring in order again, for the
ring that it has read was one (`Ring.Stored.applyStored`). So whatever actions are made, in whatever
order their accesses come, the handler never finds a ring that it cannot read
(`values_read_back`).
-/

namespace Cadence

variable {M : Type}

/-! ## What the handler reads and writes -/

/-- The handling of an action fails because the stored ring cannot be read. -/
def HandlerEnd.BlamesRing (ending : HandlerEnd) : Prop :=
  ∃ cause, ending.result = .error ("corrupt ring: " ++ cause)

/-- The text that blames the ring starts like that of no other cause. -/
lemma HandlerError.not_blamesRing {e : HandlerError} (other : e.message.toList.head? ≠ some 'c') :
    ¬(HandlerEnd.failed e).BlamesRing := by
  rintro ⟨cause, told⟩
  refine other ?_
  rw [Except.error.inj told]
  simp

/-- A payload that cannot be read is not blamed on the ring. -/
lemma PayloadError.not_blamesRing (e : PayloadError) :
    ¬(HandlerEnd.failed (.payload e)).BlamesRing := by
  refine HandlerError.not_blamesRing ?_
  cases e with
  | encode tag cause =>
    show ("failed to encode parameters for action `" ++ tag.text ++ "`: " ++
      cause.message).toList.head? ≠ some 'c'
    simp
  | decode tag cause =>
    show ("malformed payload for action `" ++ tag.text ++ "`: " ++ cause.message).toList.head? ≠
      some 'c'
    simp

namespace Ring

variable {r : Ring} {size : UInt32} {action : Action} {actor : ParticipantId}
  {stored : Option Value}

/-- What is stored at the key of the ring, and the ring that is meant. -/
inductive Stored : Option Value → Ring → Prop where
  | nothing : Stored none {}
  | written {r : Ring} (sorted : r.positions.Sorted) : Stored (some r.encode) r

namespace Stored

/-- The positions of a stored ring are in order. -/
lemma sorted (h : Stored stored r) : r.positions.Sorted := by
  cases h with
  | nothing => exact OrderedMap.sorted_empty
  | written sorted => exact sorted

/-- A stored ring loads. -/
lemma load_eq (h : Stored stored r) : load stored = .ok r := by
  cases h with
  | nothing => rfl
  | written sorted => rw [load, decode_encode sorted]

end Stored

/-- What an attempt to change a ring leads to: another ring in order, or a refusal that does not
blame the stored ring. -/
def Changes (result : Except Refusal Ring) : Prop :=
  (∃ r, r.positions.Sorted ∧ result = .ok r) ∨
    ∃ refusal, result = .error refusal ∧
      ¬(HandlerEnd.ofUpdateError (.function refusal)).BlamesRing

/-- A rejection changes nothing, and blames the ring for nothing. -/
lemma changes_rejected (reason : String) : Changes (.error (.rejected reason)) :=
  .inr ⟨_, rfl, fun ⟨_, told⟩ => by cases told⟩

/-- Neither does a payload that cannot be read. -/
lemma changes_payload (e : PayloadError) : Changes (.error (.failed (.payload e))) :=
  .inr ⟨_, rfl, e.not_blamesRing⟩

/-- To enter changes the ring or is refused. -/
lemma enter_changes (sorted : r.positions.Sorted) (cell : UInt32) :
    Changes (r.enter size actor cell) := by
  rw [enter]
  split
  · exact changes_rejected _
  · split
    · exact changes_rejected _
    · refine .inl ⟨r.joined actor cell, ?_, rfl⟩
      rw [positions_joined]
      exact OrderedMap.sorted_insert sorted actor cell

/-- So it is with moving. -/
lemma move_changes (sorted : r.positions.Sorted) (step : Int8) :
    Changes (r.move size actor step) := by
  rw [move]
  split
  · exact changes_rejected _
  · cases r.positions.get? actor with
    | none => exact changes_rejected _
    | some cell =>
      dsimp only
      cases cellAfter? size cell step with
      | none =>
        have other : (HandlerError.failed "ring arithmetic out of range").message.toList.head? ≠
            some 'c' := by decide
        exact .inr ⟨_, rfl, HandlerError.not_blamesRing other⟩
      | some next =>
        refine .inl ⟨r.gone actor cell next, ?_, rfl⟩
        rw [positions_gone]
        exact OrderedMap.sorted_insert sorted actor next

/-- So it is with every action on the ring. -/
lemma apply_changes (sorted : r.positions.Sorted) (size : UInt32) (action : Action)
    (actor : ParticipantId) : Changes (r.apply size action actor) := by
  rw [apply]
  split
  · split
    · exact enter_changes sorted _
    · exact changes_payload _
  · split
    · exact move_changes sorted _
    · exact changes_payload _

/-- From a ring that can be read the handler makes one that can be read again, or it refuses for
another reason. -/
lemma Stored.applyStored (h : Stored stored r) (size : UInt32) (action : Action)
    (actor : ParticipantId) :
    (∃ r' : Ring, r'.positions.Sorted ∧ Ring.applyStored size action actor stored = .ok r'.encode) ∨
      ∃ refusal, Ring.applyStored size action actor stored = .error refusal ∧
        ¬(HandlerEnd.ofUpdateError (.function refusal)).BlamesRing := by
  rw [Ring.applyStored, h.load_eq]
  dsimp only
  obtain ⟨r', sorted, made⟩ | ⟨refusal, refused, clear⟩ :=
    apply_changes h.sorted size action actor
  · exact .inl ⟨r', sorted, by rw [made]; rfl⟩
  · exact .inr ⟨refusal, by rw [refused]; rfl, clear⟩

/-- The handler of the ring leaves a ring, or refuses for a reason that is not the stored one. -/
lemma Stored.update {s : Store} {caller : HandlerId} (owned : s.ownerOf? key = some caller)
    (h : Stored (s.entries.get? key) r) (size : UInt32) (action : Action) (actor : ParticipantId) :
    let updated := s.update key caller (Ring.applyStored size action actor)
    (∃ r', Stored (updated.2.entries.get? key) r') ∧
      ¬(HandlerEnd.ofUpdate updated.1).BlamesRing := by
  rw [Store.update_of_ok (Store.authorize_of_owner owned)]
  obtain ⟨r', sorted, made⟩ | ⟨refusal, refused, clear⟩ := h.applyStored size action actor
  · rw [made]
    refine ⟨⟨r', ?_⟩, fun ⟨_, told⟩ => by cases told⟩
    show Stored ((s.entries.insert key r'.encode).get? key) r'
    rw [OrderedMap.get?_insert, if_pos rfl]
    exact .written sorted
  · rw [refused]
    exact ⟨⟨r, h⟩, clear⟩

/-- A ring is read from the store as it was written there. -/
lemma ofStore_write {s : Store} {caller : HandlerId} (owned : s.ownerOf? key = some caller)
    (sorted : r.positions.Sorted) : ofStore (s.write key r.encode caller).2 = .ok r := by
  rw [Store.write, Store.authorize_of_owner owned]
  show load ((s.entries.insert key r.encode).get? key) = .ok r
  rw [OrderedMap.get?_insert, if_pos rfl, (Stored.written sorted).load_eq]

end Ring

/-! ## The handler among others -/

open Store (Within)

/-- The handlers of a registry serve, and nothing but a ring is stored at the key of the ring. -/
structure TendsRing (r : Registry) (w : World M) : Prop where
  tended : w.environment.Tended r
  stored : ∃ ring, Ring.Stored (w.environment.store.entries.get? Ring.key) ring

namespace TendsRing

variable {r : Registry} {w : World M} {caller : HandlerId}

/-- A world with the same handlers and the same store tends the ring as well. -/
lemma of_eq (h : TendsRing r w) {w' : World M}
    (registry : w'.environment.registry = w.environment.registry)
    (store : w'.environment.store = w.environment.store) : TendsRing r w' where
  tended :=
    ⟨registry.trans h.tended.registry, by rw [store, h.tended.owners],
      by rw [store]; exact h.tended.unowned⟩
  stored := by
    rw [store]
    exact h.stored

/-- So does one that an access leaves that writes nothing. -/
lemma quiet (h : TendsRing r w) {a : Access M} (quiet : a.isWrite = false) :
    TendsRing r (a.apply w).2 :=
  h.of_eq (a.apply_frame w).1.registry ((a.apply_frame w).2 quiet)

/-- A caller that does not own the key leaves the ring alone. -/
lemma foreign (h : TendsRing r w) (foreign : r.keyOwners.get? Ring.key ≠ some caller) {a : Access M}
    (within : Within caller w.environment.store (a.apply w).2.environment.store) :
    TendsRing r (a.apply w).2 where
  tended := a.tended_apply w h.tended
  stored := by
    rw [← h.tended.owners] at foreign
    rw [within.others Ring.key foreign]
    exact h.stored

/-- So does one in which the owner has applied an action to the ring, which is not blamed for a
refusal. -/
lemma update (h : TendsRing r w) (owned : r.keyOwners.get? Ring.key = some caller) (size : UInt32)
    (action : Action) (actor : ParticipantId) :
    let a : Access M := .update Ring.key caller (Ring.applyStored size action actor)
    TendsRing r (a.apply w).2 ∧ ¬(HandlerEnd.ofUpdate (a.apply w).1).BlamesRing := by
  intro a
  obtain ⟨ring, stored⟩ := h.stored
  rw [← h.tended.owners] at owned
  obtain ⟨still, clear⟩ := stored.update owned size action actor
  exact ⟨⟨a.tended_apply w h.tended, still⟩, clear⟩

end TendsRing

namespace Thread

variable {α β : Type} {r : Registry} {Q : α → Prop} {caller : HandlerId}

/-- The thread keeps the ring in order, with others coming in between, and ends as told. -/
def Tends (r : Registry) (Q : α → Prop) (t : Thread M α) : Prop :=
  t.Brings (fun (_ : Nat → Unit) w => TendsRing r w) 0 (fun a _ => Q a) ()

/-- A thread tends the ring whose first access does so and leaves it to a thread that does. -/
lemma tends_access {a : Access M} {next : a.Reply → Thread M α}
    (kept : ∀ w, TendsRing r w →
      TendsRing r (a.apply w).2 ∧ (next (a.apply w).1).Tends r Q) : (access a next).Tends r Q :=
  fun _ w _ inv => ⟨(), kept w inv⟩

/-- Whoever does not own the key of the ring may do anything. -/
lemma tends_foreign (foreign : r.keyOwners.get? Ring.key ≠ some caller) (p : HandlerProgram) :
    (ofHandler caller p : Thread M HandlerEnd).Tends r fun _ => True := by
  induction p with
  | stop ending => trivial
  | read key next ih => exact tends_access fun w inv => ⟨inv.quiet rfl, ih _⟩
  | write key value next ih =>
    exact tends_access fun w inv => ⟨inv.foreign foreign (Store.write_within ..), ih _⟩
  | writeBatch entries next ih =>
    exact tends_access fun w inv => ⟨inv.foreign foreign (Store.writeBatch_within ..), ih _⟩
  | update key f next ih =>
    rw [ofHandler]
    refine tends_access fun w inv =>
      ⟨inv.foreign (a := .update key caller f) foreign (Store.update_within ..), ?_⟩
    split
    · trivial
    · exact ih _

/-- The handler of the ring finds a ring and leaves one. -/
lemma tends_ring (owned : r.keyOwners.get? Ring.key = some caller) (size : UInt32) (action : Action)
    (actor : ParticipantId) :
    (ofHandler caller ((Ring.handler size).handle caller action actor) :
      Thread M HandlerEnd).Tends r fun ending => ¬ending.BlamesRing := by
  rw [Ring.handler, ofHandler]
  refine tends_access fun w inv => ?_
  obtain ⟨kept, clear⟩ := inv.update owned size action actor
  refine ⟨kept, ?_⟩
  generalize (Access.apply (.update Ring.key caller _) w).1 = reply at clear ⊢
  -- a panic of the function ends the handler, every other reply is its answer
  split
  · exact clear
  · exact clear

end Thread

/-! ## Actions -/

/-- The answer to an action blames the stored ring. -/
def BlamesRing (answer : Except EnvironmentError ActionOutcome) : Prop :=
  ∃ tag name cause, answer = .error (.actionExecutionFailed tag name ("corrupt ring: " ++ cause))

/-- The answer does not blame the stored ring, if the action is one for its handler. -/
def Clears (size : UInt32) (tag : ActionTag) (answer : Except EnvironmentError ActionOutcome) :
    Prop :=
  tag ∈ (Ring.handler size).tags → ¬BlamesRing answer

variable {r : Registry} {h : RegisteredHandler} {size : UInt32}

/-- An action that is not routed to a handler is not blamed on the ring. -/
lemma Environment.not_blamesRing_of_route {e : Environment} {action : Action}
    {actor : ParticipantId} {key : Key} {err : EnvironmentError}
    (routed : e.route action actor key = .error err) : ¬BlamesRing (.error err) := by
  rintro ⟨tag, name, cause, told⟩
  cases told
  cases isRefused_of_route_error routed

/-- A handling that does not blame the ring is not answered by blaming it. -/
lemma Environment.not_blamesRing_of_settle {ending : HandlerEnd} (clear : ¬ending.BlamesRing)
    (e : Environment) (action : Action) (actor : ParticipantId) (name : String) :
    ¬BlamesRing (e.settle action actor name ending).1 := by
  rintro ⟨tag, name', cause, told⟩
  refine clear ⟨cause, ?_⟩
  rw [settle] at told
  rcases result : ending.result with reason | response | reason
  · rw [result] at told
    cases told
    rfl
  · rw [result] at told
    cases told
  · rw [result] at told
    cases told

/-- An action keeps the ring in order, and its answer does not blame it. -/
lemma Thread.tends_act (sound : r.Sound) (accepted : h ∈ r.handlers)
    (serves : h.handler = Ring.handler size) (action : Action) (actor : ParticipantId)
    (key : Key) :
    (act action actor key : Thread M _).Tends r (Clears size action.tag) := by
  have owned : r.keyOwners.get? Ring.key = some h.id := by
    refine sound.keyOwners_eq_some_iff.2 ⟨h, accepted, rfl, ?_⟩
    rw [serves]
    exact List.mem_singleton_self _
  refine tends_access fun w inv => ⟨inv, ?_⟩
  simp only [Access.apply]
  cases routed : w.environment.route action actor key with
  | error e =>
    have clear := Environment.not_blamesRing_of_route routed
    exact tends_access fun w inv => ⟨inv.quiet rfl, fun _ => clear⟩
  | ok entry =>
    have found := Environment.resolve_of_route routed
    rw [inv.tended.registry] at found
    obtain ⟨accepted', -⟩ := sound.handlerOf?_eq_some_iff.1 found
    have handled : (ofHandler entry.id (entry.handler.handle entry.id action actor) :
        Thread M HandlerEnd).Tends r fun ending =>
          action.tag ∈ (Ring.handler size).tags → ¬ending.BlamesRing := by
      by_cases same : entry = h
      · rw [same, serves]
        exact (tends_ring owned size action actor).mono fun _ _ clear _ => clear
      · have foreign : r.keyOwners.get? Ring.key ≠ some entry.id := fun owned' =>
          same (sound.eq_of_id_eq accepted' accepted (Option.some.inj (owned'.symm.trans owned)))
        refine (tends_foreign foreign _).mono fun _ _ _ takes => ?_
        -- no tag has two handlers
        rw [← serves] at takes
        have other := sound.handlerOf?_eq_some_iff.2 ⟨accepted, takes⟩
        exact absurd (Option.some.inj (found.symm.trans other)) same
    exact handled.bind fun ending _ clear => tends_access fun w inv =>
      ⟨inv.quiet rfl, fun takes => Environment.not_blamesRing_of_settle (clear takes) _ _ _ _⟩

/-! ## Traffic -/

namespace Traffic

/-- The ring is in order, and every action inside the window keeps it so. -/
structure TendsRing (r : Registry) (size : UInt32) (t : Traffic M) : Prop where
  world : Cadence.TendsRing r t.world
  inside : ∀ n d, t.inside n = some d → d.rest.Tends r (Clears size d.submission.action.tag)

variable {t t' : Traffic M} {x : Happening M} {hs : List (Happening M)}

/-- What holds of all actions under way and of the new one holds of all after it has begun. -/
lemma inside_update {P : Dispatch M → Prop} {inside : Nat → Option (Dispatch M)}
    {i : Option (Dispatch M)} (all : ∀ n d, inside n = some d → P d) (new : ∀ d, i = some d → P d)
    (n : Nat) : ∀ m d, Function.update inside n i m = some d → P d := by
  intro m d there
  rw [Function.update_apply] at there
  split at there
  · exact new d there
  · exact all m d there

section Steps

variable (sound : r.Sound) (accepted : h ∈ r.handlers) (serves : h.handler = Ring.handler size)
include sound accepted serves

/-- What happens keeps the ring in order, and no answer blames it. -/
lemma TendsRing.step (inv : t.TendsRing r size) (step : Step t x t') :
    t'.TendsRing r size ∧ ∀ n s answer, x = .left n s answer → Clears size s.action.tag answer := by
  cases step with
  | enter s =>
    refine ⟨⟨inv.world, inside_update inv.inside ?_ _⟩, nofun⟩
    rintro _ ⟨⟩
    exact Thread.tends_act sound accepted serves _ _ _
  | @advance n s a next inside =>
    obtain ⟨_, world, goesOn⟩ := inv.inside n _ inside (fun _ => ()) t.world rfl inv.world
    refine ⟨⟨world, inside_update inv.inside ?_ _⟩, nofun⟩
    intro d here
    obtain rfl := Option.some.inj here
    exact goesOn
  | @leave n s answer inside =>
    refine ⟨⟨inv.world, inside_update inv.inside (fun _ left => by cases left) _⟩, ?_⟩
    rintro _ _ _ ⟨⟩
    exact inv.inside n _ inside
  | aside apart =>
    exact ⟨⟨inv.world.quiet (Access.isWrite_eq_false apart), inv.inside⟩, nofun⟩
  | openTick clear tick => exact ⟨⟨inv.world.of_eq rfl rfl, inv.inside⟩, nofun⟩
  | closeTick clear => exact ⟨⟨inv.world.of_eq rfl rfl, inv.inside⟩, nofun⟩

/-- A run of the gate tends the ring, and answers are as the rules have it. -/
lemma TendsRing.runs (inv : t.TendsRing r size) (runs : Runs t hs t') :
    t'.TendsRing r size ∧
      ∀ n s answer, .left n s answer ∈ hs → Clears size s.action.tag answer := by
  induction runs with
  | nil => exact ⟨inv, fun _ _ _ mem => absurd mem List.not_mem_nil⟩
  | cons first rest ih =>
    obtain ⟨inv, clear⟩ := inv.step sound accepted serves first
    obtain ⟨last, later⟩ := ih inv
    refine ⟨last, fun n s answer mem => ?_⟩
    rcases List.mem_cons.1 mem with now | mem
    · exact clear n s answer now.symm
    · exact later n s answer mem

end Steps

end Traffic

open Traffic

/-- What is written reads back: every type with a reader and a writer of values gets back what it
writes, maps being in order as they are built. So a ring is read from the store as it was written
there. Whatever handlers serve beside that of the ring, and whatever clients do, in whatever order
the accesses of their actions and of others come and however often the window opens and closes, what
is stored is a ring, and no action for the handler of the ring fails for want of one. -/
theorem values_read_back (x : Setting M) (offers : List Handler) (size : UInt32)
    (moves : List (Move M)) :
    let accepted := (Registry.ofOffers offers).handlers
    let start : Traffic M := { world := (x.accepting offers).world }
    let happened := (start.follow moves).1
    let store := (start.follow moves).2.world.environment.store
    ((∀ a : Action, Action.decode a.encode = .ok a) ∧
      (∀ o : ActionOutcome, ActionOutcome.decode o.encode = .ok o) ∧
      (∀ t : ActionTag, ActionTag.decode t.encode = .ok t) ∧
      (∀ k : StateKey, StateKey.decode k.encode = .ok k) ∧
      (∀ id : ParticipantId, ParticipantId.decode id.encode = .ok id) ∧
      (∀ t : IntegerTime, IntegerTime.decode (Time.encode t) = .ok t) ∧
      (∀ c : Config, Config.decode c.encode = .ok c) ∧
      (∀ c : DriverConfig, DriverConfig.decode c.encode = .ok c) ∧
      (∀ s : RunStatus, RunStatus.decode s.encode = .ok s) ∧
      (∀ r : EndReason, EndReason.decode r.encode = .ok r) ∧
      (∀ s : RowScope, RowScope.decode s.encode = .ok s) ∧
      (∀ r : Row, r.values.Sorted → Row.decode r.encode = .ok r) ∧
      (∀ t : FieldType, FieldType.decode t.encode = .ok t) ∧
      (∀ f : FieldSpec, FieldSpec.decode f.encode = .ok f) ∧
      (∀ d : TableDescriptor, TableDescriptor.decode d.encode = .ok d) ∧
      ∀ r : Ring, r.positions.Sorted → Ring.decode r.encode = .ok r) ∧
    (∀ (s : Store) (caller : HandlerId) (r : Ring), s.ownerOf? Ring.key = some caller →
      r.positions.Sorted → Ring.ofStore (s.write Ring.key r.encode caller).2 = .ok r) ∧
    ((∃ h ∈ accepted, h.handler = Ring.handler size) →
      (∃ r, Ring.Stored (store.entries.get? Ring.key) r ∧ Ring.ofStore store = .ok r) ∧
      ∀ n s answer, .left n s answer ∈ happened → s.action.tag ∈ (Ring.handler size).tags →
        ¬BlamesRing answer) := by
  intro accepted start happened store
  refine ⟨⟨Action.decode_encode, ActionOutcome.decode_encode, ActionTag.decode_encode,
    StateKey.decode_encode, ParticipantId.decode_encode, IntegerTime.decode_encode,
    Config.decode_encode, DriverConfig.decode_encode, RunStatus.decode_encode,
    EndReason.decode_encode, RowScope.decode_encode, fun _ => Row.decode_encode,
    FieldType.decode_encode, FieldSpec.decode_encode, TableDescriptor.decode_encode,
    fun _ => Ring.decode_encode⟩, fun _ _ _ => Ring.ofStore_write, ?_⟩
  rintro ⟨h, accept, serves⟩
  have begins : start.TendsRing (.ofOffers offers) size :=
    ⟨⟨(x.accepting offers).tended_world, {}, .nothing⟩, fun _ _ inside => by cases inside⟩
  obtain ⟨ends, clear⟩ := begins.runs (Registry.sound_ofOffers offers) accept serves
    (follow_runs moves start)
  obtain ⟨r, stored⟩ := ends.world.stored
  exact ⟨⟨r, stored, stored.load_eq⟩, clear⟩

-- the handlers of a demonstration are an offer of which the ring is accepted
example : ∃ h ∈ (Registry.ofOffers [Ring.handler 12, Tally.handler]).handlers,
    h.handler = Ring.handler 12 :=
  ⟨_, List.mem_cons_self, rfl⟩

end Cadence
