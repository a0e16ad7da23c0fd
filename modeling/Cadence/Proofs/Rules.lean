import Cadence.Proofs.Authorization
import Cadence.Proofs.Board
import Cadence.Proofs.Driven
import Cadence.Proofs.Gates
import Cadence.Proofs.Generation
import Cadence.Proofs.Stored

/-!
# The rules of the ring in a run

An action within the rules puts its actor on a cell (`Ring.Lands`), and what the handler of the ring
makes of the stored ring is what the rules say: the actor lands, or nothing changes
(`Ring.apply_judges`). Only this handler writes the ring. So what holds of the empty ring and is
kept whenever somebody lands holds in every run, whatever its programs do
(`Ring.landing_induction`); above all, everybody stands on a cell of the ring, which is why no error
but those of the rules is ever returned (`ring_keeps_rules`).
-/

namespace Cadence

variable {M α : Type}

/-! ## Landing -/

namespace Ring

/-- The ring after somebody has landed on a cell: a collision if the cell is not the one where it
stands already, and somebody stands there. -/
def landed (r : Ring) (actor : ParticipantId) (cell : UInt32) : Ring :=
  (r.collideIf (r.positions.get? actor != some cell && r.isOccupied cell)).place actor cell

/-- An action within the rules puts its actor on a cell: a newcomer enters on a cell of the ring,
and a walker takes a step of one cell at most, around the ring. -/
inductive Lands (size : UInt32) (r : Ring) (action : Action) (actor : ParticipantId) :
    UInt32 → Prop where
  | enters {cell : UInt32} (tag : action.tag = enterTag)
      (reads : EnterParams.decode action.payload = .ok ⟨cell⟩) (inside : cell < size)
      (new : r.positions.get? actor = none) : Lands size r action actor cell
  | steps {step : Int8} {cell next : UInt32} (tag : action.tag = moveTag)
      (reads : MoveParams.decode action.payload = .ok ⟨step⟩)
      (short : -1 ≤ step.toInt ∧ step.toInt ≤ 1) (stands : r.positions.get? actor = some cell)
      (around : (next.toNat : Int) = ((cell.toNat : Int) + step.toInt) % (size.toNat : Int)) :
      Lands size r action actor next

/-- The payload of the action reads as the parameters that its tag asks for. -/
def Reads (action : Action) : Prop :=
  (action.tag = enterTag ∧ ∃ p, EnterParams.decode action.payload = .ok p) ∨
    (action.tag = moveTag ∧ ∃ p, MoveParams.decode action.payload = .ok p)

/-- What the rules say to an action for the ring. -/
inductive Judges (size : UInt32) (r : Ring) (action : Action) (actor : ParticipantId) :
    Except Refusal Ring → Prop where
  | lands {cell : UInt32} (lands : r.Lands size action actor cell) :
      Judges size r action actor (.ok (r.landed actor cell))
  | outside (reason : String) (reads : Reads action)
      (stays : ∀ cell, ¬r.Lands size action actor cell) :
      Judges size r action actor (.error (.rejected reason))
  | malformed (cause : DecodeError) (unread : ¬Reads action) :
      Judges size r action actor (.error (.failed (.payload (.decode action.tag cause))))

/-- Everybody stands on a cell of a ring of the given size. -/
def Inside (size : UInt32) (r : Ring) : Prop :=
  ∀ id cell, r.positions.get? id = some cell → cell < size

variable {r : Ring} {size : UInt32} {action : Action} {actor : ParticipantId} {cell : UInt32}

/-- The two actions have different tags. -/
lemma enterTag_ne_moveTag : enterTag ≠ moveTag := by decide

/-- An action whose payload cannot be read puts nobody anywhere. -/
lemma Lands.reads (h : r.Lands size action actor cell) : Reads action := by
  cases h with
  | enters tag reads => exact .inl ⟨tag, _, reads⟩
  | steps tag reads => exact .inr ⟨tag, _, reads⟩

/-- Whatever lands is an action that the handler takes. -/
lemma Lands.takes (h : r.Lands size action actor cell) : action.tag ∈ (handler size).tags := by
  cases h with
  | enters tag => exact tag ▸ .head _
  | steps tag => exact tag ▸ .tail _ (.head _)

/-- What lands is on the ring. -/
lemma Lands.inside (h : r.Lands size action actor cell) (inside : r.Inside size) : cell < size := by
  cases h with
  | enters _ _ inside => exact inside
  | @steps step before _ _ _ _ stands around =>
    have ring : 0 < size.toNat :=
      Nat.lt_of_le_of_lt (Nat.zero_le _) (UInt32.lt_iff_toNat_lt.1 (inside _ _ stands))
    have high := Int.emod_lt_of_pos ((before.toNat : Int) + step.toInt) (b := size.toNat) (by omega)
    rw [UInt32.lt_iff_toNat_lt]
    omega

/-- An action puts its actor on one cell at most. -/
lemma Lands.unique {cell' : UInt32} (h : r.Lands size action actor cell)
    (h' : r.Lands size action actor cell') : cell = cell' := by
  cases h with
  | enters tag reads _ new =>
    cases h' with
    | enters _ reads' =>
      rw [reads] at reads'
      cases reads'
      rfl
    | steps tag' => exact absurd (tag.symm.trans tag') enterTag_ne_moveTag
  | steps tag reads _ stands around =>
    cases h' with
    | enters tag' => exact absurd (tag'.symm.trans tag) enterTag_ne_moveTag
    | steps _ reads' _ stands' around' =>
      rw [reads] at reads'
      rw [stands] at stands'
      cases reads'
      cases stands'
      exact UInt32.toNat_inj.1 (Int.ofNat.inj (around.trans around'.symm))

/-- Who lands stands in the cell. -/
lemma positions_landed (r : Ring) (actor : ParticipantId) (cell : UInt32) :
    (r.landed actor cell).positions = r.positions.insert actor cell := by
  rw [landed, place, positions_collideIf]

/-- A landing makes one collision at most. -/
lemma collisions_landed (r : Ring) (actor : ParticipantId) (cell : UInt32) :
    (r.landed actor cell).collisions = r.collisions ∨
      (r.landed actor cell).collisions = Word.bump r.collisions := by
  rw [landed, collideIf]
  split
  · exact .inr rfl
  · exact .inl rfl

/-- Landing in a cell of the ring keeps everybody inside. -/
lemma Inside.landed (h : r.Inside size) (inside : cell < size) (actor : ParticipantId) :
    (r.landed actor cell).Inside size := by
  intro id cell' stands
  rw [positions_landed, OrderedMap.get?_insert] at stands
  split at stands
  · cases stands
    exact inside
  · exact h id cell' stands

/-! ## What the handler makes of a ring -/

/-- An entry is judged by the rules. -/
lemma enter_judges (tag : action.tag = enterTag)
    (reads : EnterParams.decode action.payload = .ok ⟨cell⟩) :
    r.Judges size action actor (r.enter size actor cell) := by
  have params : ∀ cell', r.Lands size action actor cell' →
      cell < size ∧ r.positions.get? actor = none := by
    intro cell' lands
    cases lands with
    | enters _ reads' inside new =>
      rw [reads] at reads'
      cases reads'
      exact ⟨inside, new⟩
    | steps tag' => exact absurd (tag.symm.trans tag') enterTag_ne_moveTag
  rw [enter]
  split
  · next outside =>
    refine .outside _ (.inl ⟨tag, _, reads⟩) fun cell' lands => ?_
    exact UInt32.not_lt.2 outside (params cell' lands).1
  · next inside =>
    split
    · next there =>
      refine .outside _ (.inl ⟨tag, _, reads⟩) fun cell' lands => ?_
      rw [OrderedMap.contains, (params cell' lands).2] at there
      cases there
    · next absent =>
      have new : r.positions.get? actor = none := Option.not_isSome_iff_eq_none.1 absent
      have lands : r.Lands size action actor cell := .enters tag reads (UInt32.not_le.1 inside) new
      have same : (r.collideIf (r.isOccupied cell)).place actor cell = r.landed actor cell := by
        rw [landed, new]
        rfl
      rw [same]
      exact .lands lands

/-- A step is judged by the rules. -/
lemma move_judges (inside : r.Inside size) (tag : action.tag = moveTag) {step : Int8}
    (reads : MoveParams.decode action.payload = .ok ⟨step⟩) :
    r.Judges size action actor (r.move size actor step) := by
  have params : ∀ cell', r.Lands size action actor cell' →
      (-1 ≤ step.toInt ∧ step.toInt ≤ 1) ∧ r.positions.get? actor ≠ none := by
    intro cell' lands
    cases lands with
    | enters tag' => exact absurd (tag'.symm.trans tag) enterTag_ne_moveTag
    | steps _ reads' short stands =>
      rw [reads] at reads'
      cases reads'
      rw [stands]
      exact ⟨short, nofun⟩
  have range : (step < -1 ∨ 1 < step) ↔ ¬(-1 ≤ step.toInt ∧ step.toInt ≤ 1) := by
    rw [Int8.lt_iff_toInt_lt, Int8.lt_iff_toInt_lt]
    have low : (-1 : Int8).toInt = -1 := rfl
    have high : (1 : Int8).toInt = 1 := rfl
    omega
  rw [move]
  split
  · next far =>
    exact .outside _ (.inr ⟨tag, _, reads⟩) fun cell' lands => range.1 far (params cell' lands).1
  · next short =>
    cases stands : r.positions.get? actor with
    | none =>
      exact .outside _ (.inr ⟨tag, _, reads⟩) fun cell' lands => (params cell' lands).2 stands
    | some cell =>
      -- somebody stands on the ring, so it has cells and the arithmetic has a result
      have ring : size ≠ 0 := by
        rintro rfl
        exact UInt32.not_lt.2 (UInt32.zero_le) (inside _ _ stands)
      obtain ⟨next, lands, -, around⟩ := cellAfter?_eq ring cell step
      have within : -1 ≤ step.toInt ∧ step.toInt ≤ 1 := not_not.1 (mt range.2 short)
      have same : (r.collideIf (next != cell && r.isOccupied next)).place actor next =
          r.landed actor next := by
        have moves : (next != cell) = (some cell != some next) := by
          rw [Bool.eq_iff_iff, bne_iff_ne, bne_iff_ne, Ne, Ne, Option.some.injEq, eq_comm]
        rw [landed, stands, moves]
      dsimp only
      rw [lands]
      dsimp only
      rw [same]
      exact .lands (.steps tag reads within stands around)

/-- What an action makes of a ring is what the rules say. -/
theorem apply_judges (inside : r.Inside size) (takes : action.tag ∈ (handler size).tags)
    (actor : ParticipantId) : r.Judges size action actor (r.apply size action actor) := by
  rw [apply]
  split
  · next tag =>
    rw [Action.params]
    cases reads : EnterParams.decode action.payload with
    | ok p => exact enter_judges tag reads
    | error cause =>
      refine .malformed cause ?_
      rintro (⟨-, p, reads'⟩ | ⟨tag', -⟩)
      · rw [reads] at reads'
        cases reads'
      · exact enterTag_ne_moveTag (tag.symm.trans tag')
  · next other =>
    have tag : action.tag = moveTag :=
      List.mem_singleton.1 ((List.mem_cons.1 takes).resolve_left other)
    rw [Action.params]
    cases reads : MoveParams.decode action.payload with
    | ok p => exact move_judges inside tag reads
    | error cause =>
      refine .malformed cause ?_
      rintro (⟨tag', -⟩ | ⟨-, p, reads'⟩)
      · exact other tag'
      · rw [reads] at reads'
        cases reads'

/-! ## The handler of the ring -/

/-- What is stored at the key of the ring, and the ring that is meant: everybody stands on it. -/
structure Kept (size : UInt32) (stored : Option Value) (r : Ring) : Prop where
  stored : Stored stored r
  inside : r.Inside size

/-- What the handler answers to an action, and the store that it leaves. -/
inductive Plays (size : UInt32) (r : Ring) (action : Action) (actor : ParticipantId) (name : String)
    (s : Store) : Except EnvironmentError ActionOutcome → Store → Prop where
  | lands {cell : UInt32} (lands : r.Lands size action actor cell) :
      Plays size r action actor name s (.ok (.applied (r.landed actor cell).encode))
        (s.set key (r.landed actor cell).encode)
  | outside (reason : String) (reads : Reads action)
      (stays : ∀ cell, ¬r.Lands size action actor cell) :
      Plays size r action actor name s (.ok (.rejected reason)) s
  | malformed (cause : DecodeError) (unread : ¬Reads action) :
      Plays size r action actor name s
        (.error (.actionExecutionFailed action.tag name
          (PayloadError.decode action.tag cause).message)) s

/-- What is stored after a landing is the ring after it. -/
lemma Kept.landed {s : Store} (h : Kept size (s.entries.get? key) r)
    (lands : r.Lands size action actor cell) :
    Kept size ((s.set key (r.landed actor cell).encode).entries.get? key)
      (r.landed actor cell) where
  stored := by
    show Stored ((s.entries.insert key (r.landed actor cell).encode).get? key) _
    rw [OrderedMap.get?_insert_self]
    refine .written ?_
    rw [positions_landed]
    exact OrderedMap.sorted_insert h.stored.sorted actor cell
  inside := h.inside.landed (lands.inside h.inside) actor

end Ring

/-- An action that goes to the handler of the ring is played by the rules. -/
theorem Environment.act_plays {e : Environment} {action : Action} {actor : ParticipantId}
    {key : Key} {entry : RegisteredHandler} {size : UInt32} {r : Ring}
    (routed : e.route action actor key = .ok entry) (serves : entry.handler = Ring.handler size)
    (takes : action.tag ∈ (Ring.handler size).tags)
    (owned : e.store.ownerOf? Ring.key = some entry.id)
    (kept : Ring.Kept size (e.store.entries.get? Ring.key) r) :
    Ring.Plays size r action actor entry.name e.store (e.act action actor key).1
      (e.act action actor key).2.store := by
  have judged := Ring.apply_judges kept.inside takes actor
  have handled : (entry.handler.handle entry.id action actor).run entry.id e.store =
      match r.apply size action actor with
      | .ok r' => (.finished (.applied r'.encode), e.store.set Ring.key r'.encode)
      | .error refusal => (.ofUpdateError (.function refusal), e.store) := by
    rw [serves, Ring.handler, HandlerProgram.run,
      Store.update_of_ok (Store.authorize_of_owner owned), Ring.applyStored, kept.stored.load_eq]
    dsimp only
    rcases r.apply size action actor with (_ | _ | _) | r' <;> rfl
  rw [Environment.act, routed]
  dsimp only
  rw [handled]
  generalize r.apply size action actor = result at judged ⊢
  cases judged with
  | lands lands => exact .lands lands
  | outside reason reads stays => exact .outside reason reads stays
  | malformed cause unread => exact .malformed cause unread

/-! ## Runs -/

/-- The property, which depends on the number of landings so far, is kept by every landing. -/
def Ring.KeptByLanding (size : UInt32) (P : Nat → Ring → Prop) : Prop :=
  ∀ n r action actor cell, r.positions.Sorted → r.Inside size → r.Lands size action actor cell →
    P n r → P (n + 1) (r.landed actor cell)

/-- The action is one for the ring, and was applied. -/
def Answered.lands (a : Answered) : Bool :=
  a.isApplied && decide (a.action.tag ∈ [Ring.enterTag, Ring.moveTag])

/-- How many actions for the ring have been applied. -/
def landings (ds : List (Deed M)) : Nat := (answered ds).countP Answered.lands

/-- The landings in two stretches are those of the one and of the other. -/
lemma landings_append (ds ds' : List (Deed M)) :
    landings (ds ++ ds') = landings ds + landings ds' := by
  rw [landings, answered_append, List.countP_append]
  rfl

/-- The ring that the world holds in its shared state. -/
def World.HoldsRing (w : World M) (size : UInt32) (r : Ring) : Prop :=
  Ring.Kept size (w.environment.store.entries.get? Ring.key) r

/-- A thread leaves the ring tended. -/
lemma Thread.tended_run {reg : Registry} (t : Thread M α) {w : World M}
    (tended : w.environment.Tended reg) : (t.run w).2.environment.Tended reg :=
  (t.run_reaches w).keeps (P := fun w => w.environment.Tended reg) Access.tended_apply tended

/-- The owner of the ring is its handler. -/
lemma Environment.Tended.owner_ring {reg : Registry} {e : Environment} {h : RegisteredHandler}
    {size : UInt32} (tended : e.Tended reg) (sound : reg.Sound) (accepted : h ∈ reg.handlers)
    (serves : h.handler = Ring.handler size) : e.store.ownerOf? Ring.key = some h.id := by
  rw [Store.ownerOf?, tended.owners, sound.keyOwners_eq_some_iff]
  exact ⟨h, accepted, rfl, by rw [serves]; exact List.mem_singleton_self _⟩

namespace Thread

variable {reg : Registry} {h : RegisteredHandler} {size : UInt32} {P : Nat → Ring → Prop}

/-- From any world that holds a ring with the property, the thread leads to one that holds a ring
with the property; the number is that of the landings so far. -/
def Carries (reg : Registry) (size : UInt32) (P : Nat → Ring → Prop) (t : Thread M α) : Prop :=
  ∀ w n r, w.environment.Tended reg → w.HoldsRing size r → P n r →
    ∃ r', (t.run w).2.HoldsRing size r' ∧ P (n + landings (t.deeds w)) r'

section Carries

variable (sound : reg.Sound) (accepted : h ∈ reg.handlers) (serves : h.handler = Ring.handler size)
  (kept : Ring.KeptByLanding size P)
include sound accepted serves kept

/-- An action that nothing interrupts is one landing, or leaves the ring as it is. -/
lemma carries_act (action : Action) (actor : ParticipantId) (key : Key) :
    (act action actor key : Thread M _).Carries reg size P := by
  intro w n r tended holds property
  have ran := run_act action actor key w
  have count : landings ((act action actor key : Thread M _).deeds w) =
      if Answered.lands ⟨actor, action, (w.environment.act action actor key).1⟩ then 1 else 0 := by
    rw [landings, (answered_act (follows_deeds _ w)).1, List.countP_singleton, ran]
    rfl
  rw [ran, count]
  show ∃ r', Ring.Kept size
    ((w.environment.act action actor key).2.store.entries.get? Ring.key) r' ∧ P _ r'
  cases routed : w.environment.route action actor key with
  | error e =>
    rw [Environment.act_of_route_error routed]
    exact ⟨r, holds, property⟩
  | ok entry =>
    have found := Environment.resolve_of_route routed
    rw [tended.registry] at found
    obtain ⟨accepted', takes⟩ := sound.handlerOf?_eq_some_iff.1 found
    have owned := tended.owner_ring sound accepted serves
    by_cases same : entry = h
    · subst same
      rw [serves] at takes
      have plays := Environment.act_plays routed serves takes owned holds
      generalize (w.environment.act action actor key).1 = answer at plays ⊢
      generalize (w.environment.act action actor key).2.store = store at plays ⊢
      cases plays with
      | @lands cell lands =>
        refine ⟨r.landed actor cell, Ring.Kept.landed holds lands, ?_⟩
        have one : Answered.lands ⟨actor, action, .ok (.applied (r.landed actor cell).encode)⟩ =
            true := decide_eq_true takes
        rw [one, if_pos rfl]
        exact kept n r action actor cell holds.stored.sorted holds.inside lands property
      | outside | malformed => exact ⟨r, holds, property⟩
    · -- another handler neither takes the tags of the ring nor writes its key
      have foreign : w.environment.store.ownerOf? Ring.key ≠ some entry.id := fun owned' =>
        same (sound.eq_of_id_eq accepted' accepted (Option.some.inj (owned'.symm.trans owned)))
      have untaken : action.tag ∉ [Ring.enterTag, Ring.moveTag] := by
        intro takes'
        have other := sound.handlerOf?_eq_some_iff.2 ⟨accepted, (serves ▸ takes' :
          action.tag ∈ h.handler.tags)⟩
        exact same (Option.some.inj (found.symm.trans other))
      have elsewhere : Answered.lands
          ⟨actor, action, (w.environment.act action actor key).1⟩ = false := by
        rw [Answered.lands, decide_eq_false untaken, Bool.and_false]
      rw [elsewhere, Environment.act_store_of_ok routed,
        (HandlerProgram.run_within _ _ w.environment.store).others Ring.key foreign]
      exact ⟨r, holds, property⟩

/-- What carries the ring is closed under the ways in which threads are put together. -/
lemma closed_carries : Closed fun {_} (t : Thread M _) => t.Carries reg size P where
  done _ _ _ r _ holds property := ⟨r, holds, property⟩
  bind {_ _ t _} ht hf w n r tended holds property := by
    obtain ⟨r₁, holds₁, property₁⟩ := ht w n r tended holds property
    rw [run_bind, deeds_bind, landings_append, ← Nat.add_assoc]
    exact hf _ _ _ _ (t.tended_run tended) holds₁ property₁
  act := carries_act sound accepted serves kept
  once a apart w n r tended holds property := by
    have silent : landings ((once a).deeds w) = 0 := by
      have nothing := (Deed.answers_nothing (d := ⟨a, w⟩) apart).1
      rw [landings, once, deeds, deeds, answered_cons, nothing]
      rfl
    have still := (a.apply_frame w).2 (Access.isWrite_eq_false apart)
    refine ⟨r, ?_, ?_⟩
    · rw [run_once, World.HoldsRing, still]
      exact holds
    · rw [silent]
      exact property

end Carries

end Thread

/-- What holds of the empty ring and is kept by every landing holds in every run. -/
theorem Ring.landing_induction (x : Setting M) (offers : List Handler) {size : UInt32}
    {h : RegisteredHandler} (accepted : h ∈ (Registry.ofOffers offers).handlers)
    (serves : h.handler = Ring.handler size) {P : Nat → Ring → Prop} (start : P 0 {})
    (kept : Ring.KeptByLanding size P) (p : Program M α) :
    let w := (x.accepting offers).world
    ∃ r, (w.perform p).2.HoldsRing size r ∧ P (landings (w.deedsOf p)) r := by
  intro w
  have carries := (Thread.closed_carries (Registry.sound_ofOffers offers) accepted serves
    kept).thread w p
  have empty : w.HoldsRing size {} := ⟨.nothing, nofun⟩
  obtain ⟨r, holds, property⟩ := carries w 0 {} (x.accepting offers).tended_world empty start
  rw [Nat.zero_add] at property
  exact ⟨r, holds, property⟩

/-! ## The rules in a run -/

/-- The answer tells that the rules have failed themselves: the arithmetic of the ring, or the
reading of the stored one. -/
def BlamesRules (answer : Except EnvironmentError ActionOutcome) : Prop :=
  BlamesRing answer ∨
    ∃ tag name, answer = .error (.actionExecutionFailed tag name "ring arithmetic out of range")

/-- The message of a payload that cannot be read has a head. -/
lemma PayloadError.head_decode (tag : ActionTag) (cause : DecodeError) :
    (PayloadError.decode tag cause).message.toList.head? = some 'm' := by
  show ("malformed payload for action `" ++ tag.text ++ "`: " ++ cause.message).toList.head? = _
  simp

/-- A payload that cannot be read is no fault of the rules. -/
lemma Ring.Plays.not_blamesRules {size : UInt32} {r : Ring} {action : Action}
    {actor : ParticipantId} {name : String} {s s' : Store}
    {answer : Except EnvironmentError ActionOutcome}
    (h : r.Plays size action actor name s answer s') : ¬BlamesRules answer := by
  cases h with
  | lands | outside =>
    rintro (⟨_, _, _, told⟩ | ⟨_, _, told⟩) <;> cases told
  | malformed cause unread =>
    have head := PayloadError.head_decode action.tag cause
    rintro (⟨tag, name', text, told⟩ | ⟨tag, name', told⟩)
    · injection told with told
      injection told with _ _ told
      rw [told] at head
      simp at head
    · injection told with told
      injection told with _ _ told
      rw [told] at head
      simp at head

/-- Programs leave the window open in which they begin. -/
lemma Setting.window_perform (x : Setting M) (p : Program M α) :
    (x.world.perform p).2.environment.window.phase ≠ .closed := by
  rw [(World.perform_reaches x.world p).frame.phase]
  exact nofun

/-- In the world that a program leaves, an action for the ring is played by the rules. -/
lemma World.HoldsRing.plays {x : Setting M} {offers : List Handler} {p : Program M α}
    {size : UInt32} {r : Ring} (holds : ((x.accepting offers).world.perform p).2.HoldsRing size r)
    {h : RegisteredHandler} (accepted : h ∈ (Registry.ofOffers offers).handlers)
    (serves : h.handler = Ring.handler size) {action : Action} {actor : ParticipantId} {key : Key}
    (takes : action.tag ∈ [Ring.enterTag, Ring.moveTag]) :
    let w := ((x.accepting offers).world.perform p).2
    w.environment.keyOf? actor = some key →
      r.Plays size action actor h.name w.environment.store (w.call (.act action actor key)).1
        (w.call (.act action actor key)).2.environment.store := by
  intro w current
  have sound : (Registry.ofOffers offers).Sound := Registry.sound_ofOffers offers
  have tended : w.environment.Tended (.ofOffers offers) := (x.accepting offers).tended_perform p
  have opened : w.environment.window.phase ≠ .closed := (x.accepting offers).window_perform p
  have took : action.tag ∈ h.handler.tags := serves ▸ takes
  have routed : w.environment.route action actor key = .ok h := by
    rw [Environment.route_of_open opened (Environment.isCurrent_iff.2 current), tended.registry,
      Registry.resolve, sound.handlerOf?_eq_some_iff.2 ⟨accepted, took⟩]
  rw [w.call_act]
  exact Environment.act_plays routed serves takes (tended.owner_ring sound accepted serves) holds

/-- Whatever programs do, everybody stands on a cell of the ring. An action for the ring is applied
exactly if the rules let its actor land, and then the actor is put on its cell and nobody else is
moved. Every other one leaves the shared state exactly as it was: it is rejected if its payload can
be read, and fails for its payload otherwise. No answer tells that the arithmetic of the ring or the
stored ring has failed. -/
theorem ring_keeps_rules (x : Setting M) (offers : List Handler) (size : UInt32)
    {h : RegisteredHandler} (accepted : h ∈ (Registry.ofOffers offers).handlers)
    (serves : h.handler = Ring.handler size) (p : Program M α) :
    let w := ((x.accepting offers).world.perform p).2
    let store := w.environment.store
    ∃ r : Ring, Ring.Stored (store.entries.get? Ring.key) r ∧
      (∀ id cell, r.positions.get? id = some cell → cell < size) ∧
      ∀ action actor key, action.tag ∈ [Ring.enterTag, Ring.moveTag] →
        let out := w.call (.act action actor key)
        (w.environment.keyOf? actor = some key →
          (∀ cell, r.Lands size action actor cell → ∃ r' : Ring,
            r'.positions = r.positions.insert actor cell ∧
            (r'.collisions = r.collisions ∨ r'.collisions = Word.bump r.collisions) ∧
            out.1 = .ok (.applied r'.encode) ∧
            out.2.environment.store = store.set Ring.key r'.encode) ∧
          ((∀ cell, ¬r.Lands size action actor cell) →
            out.2.environment.store = store ∧
            (Ring.Reads action → ∃ reason, out.1 = .ok (.rejected reason)) ∧
            (¬Ring.Reads action → ∃ cause : DecodeError,
              out.1 = .error (.actionExecutionFailed action.tag h.name
                (PayloadError.decode action.tag cause).message)))) ∧
        ¬BlamesRules out.1 := by
  intro w store
  obtain ⟨r, holds, -⟩ := Ring.landing_induction x offers accepted serves (P := fun _ _ => True)
    trivial (fun _ _ _ _ _ _ _ _ _ => trivial) p
  refine ⟨r, holds.stored, holds.inside, fun action actor key takes => ?_⟩
  intro out
  by_cases current : w.environment.keyOf? actor = some key
  · have plays : r.Plays size action actor h.name store out.1 out.2.environment.store :=
      holds.plays accepted serves takes current
    refine ⟨fun _ => ?_, plays.not_blamesRules⟩
    generalize out.1 = answer at plays ⊢
    generalize out.2.environment.store = store' at plays ⊢
    cases plays with
    | lands lands =>
      refine ⟨fun cell lands' => ?_, fun stays => absurd lands (stays _)⟩
      rw [lands.unique lands']
      exact ⟨_, r.positions_landed actor cell, r.collisions_landed actor cell, rfl, rfl⟩
    | outside reason reads stays =>
      exact ⟨fun cell lands => absurd lands (stays cell),
        fun _ => ⟨rfl, fun _ => ⟨reason, rfl⟩, fun unread => absurd reads unread⟩⟩
    | malformed cause unread =>
      exact ⟨fun cell lands => absurd lands.reads unread,
        fun _ => ⟨rfl, fun reads => absurd reads unread, fun _ => ⟨cause, rfl⟩⟩⟩
  · refine ⟨fun current' => absurd current' current, ?_⟩
    rw [show out = _ from World.call_act_of_ne current action]
    rintro (⟨_, _, _, told⟩ | ⟨_, _, told⟩) <;> cases told

section Wrapping

/-- A walker registers and enters a ring on its last cell. -/
def arrival : Program Key Unit :=
  .ask (.register ⟨1⟩ "walker") fun _ =>
    .ask (.act (Walker.enterAction 2) ⟨1⟩ ⟨1⟩) fun _ => .done ()

/-- From the last cell of a ring of three a step forward leads to the first. -/
theorem ring_keeps_rules_wrapping :
    let w := ((plain.toSetting.accepting [Ring.handler 3]).world.perform arrival).2
    (⟨⟨0⟩, Ring.handler 3⟩ : RegisteredHandler) ∈ (Registry.ofOffers [Ring.handler 3]).handlers ∧
      Ring.load (w.environment.store.entries.get? Ring.key) = .ok ⟨⟨[(⟨1⟩, 2)]⟩, 0⟩ ∧
      w.environment.keyOf? ⟨1⟩ = some ⟨1⟩ ∧
      ∃ r : Ring, r.positions = ⟨[(⟨1⟩, 0)]⟩ ∧
        (w.call (.act (Walker.moveAction 1) ⟨1⟩ ⟨1⟩)).1 = .ok (.applied r.encode) := by
  intro w
  have accepted : (⟨⟨0⟩, Ring.handler 3⟩ : RegisteredHandler) ∈
      (Registry.ofOffers [Ring.handler 3]).handlers := .head _
  have loaded : Ring.load (w.environment.store.entries.get? Ring.key) =
      .ok ⟨⟨[(⟨1⟩, 2)]⟩, 0⟩ := by decide +kernel
  have current : w.environment.keyOf? ⟨1⟩ = some ⟨1⟩ := by decide +kernel
  obtain ⟨r, stored, -, law⟩ :=
    ring_keeps_rules plain.toSetting [Ring.handler 3] 3 accepted rfl arrival
  obtain rfl := Except.ok.inj (stored.load_eq.symm.trans loaded)
  have lands : Ring.Lands 3 ⟨⟨[(⟨1⟩, 2)]⟩, 0⟩ (Walker.moveAction 1) ⟨1⟩ 0 :=
    .steps rfl (MoveParams.decode_encode ⟨1⟩) ⟨by decide, by decide⟩ rfl rfl
  obtain ⟨r', positions, -, answer, -⟩ :=
    ((law (Walker.moveAction 1) ⟨1⟩ ⟨1⟩ (.tail _ (.head _))).1 current).1 0 lands
  exact ⟨accepted, loaded, current, r', positions, answer⟩

end Wrapping

end Cadence
