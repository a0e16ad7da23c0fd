import Cadence.Proofs.Driven
import Cadence.Proofs.Trail
import Mathlib.Data.List.Sort

/-!
# Membership

Three lists tell who is registered: the registrations, the members list, and the slots of a
simulation. An access changes the first two alike (`Access.Enrols`), so that they agree whatever is
done (`Environment.Agrees`), and successful registrations and removals alone tell what stands in
them (`enrolled`). Keys are drawn one after another, for registrations as for slots, and if none is
drawn twice then the key says which of two came first: so active participants come in the order of
the members list (`members_list_registrations`).
-/

namespace Cadence

variable {M T : Type}

open HookCall Simulation

/-! ## Current registrations -/

/-- A current registration: its line in the members list, and its key. -/
structure Entry where
  member : Member
  key : Key

/-- Who is registered. -/
def Entry.id (r : Entry) : ParticipantId := r.member.id

/-- A registration but for the services. -/
def Registration.entry (r : Registration) : Entry := ⟨⟨r.id, r.name⟩, r.key⟩

/-- The current registrations after an access that was made, given those before. -/
def Performed.entriesAfter (entries : List Entry) : Performed M → List Entry
  | ⟨.enrol member _, .ok admission⟩ => entries ++ [⟨member, admission.key⟩]
  | ⟨.deregister id _, .ok ()⟩ => entries.filter fun r => r.id != id
  | _ => entries

/-- The current registrations after accesses that were made, in the order in which they were made.
-/
def enrolled (performed : List (Performed M)) : List Entry :=
  performed.foldl Performed.entriesAfter []

/-- Of entries that are told apart by what is looked for, the one that is found is the one there is.
-/
lemma find?_eq_some_iff_of_nodup {α β : Type} [DecidableEq β] {f : α → β} {l : List α}
    (nodup : (l.map f).Nodup) {a : α} {b : β} :
    l.find? (fun a => f a == b) = some a ↔ a ∈ l ∧ f a = b := by
  constructor
  · intro found
    have same : (f a == b) = true := List.find?_some (p := fun a => f a == b) found
    exact ⟨List.mem_of_find?_eq_some found, beq_iff_eq.1 same⟩
  · rintro ⟨mem, rfl⟩
    cases found : l.find? fun a' => f a' == f a with
    | none => exact absurd (beq_self_eq_true (f a)) (List.find?_eq_none.1 found a mem)
    | some a' =>
      have same : (f a' == f a) = true := List.find?_some (p := fun a' => f a' == f a) found
      exact congrArg some (List.inj_on_of_nodup_map nodup (List.mem_of_find?_eq_some found) mem
        (beq_iff_eq.1 same))

/-! ## Keys in the order of their draws -/

namespace KeySupply

variable {s : KeySupply}

variable (s) in
/-- A key that is drawn before another one. -/
def Before (k k' : Key) : Prop := ∃ n m, n < m ∧ k = s.draw n ∧ k' = s.draw m

variable (s) in
/-- Keys that are drawn one after another, all before the given place. -/
structure InOrder (bound : Nat) (keys : List Key) : Prop where
  order : keys.Pairwise s.Before
  drawn : ∀ k ∈ keys, ∃ n < bound, k = s.draw n

/-- If no key is drawn twice, no two keys come before each other. -/
lemma Before.not_before (distinct : Function.Injective s.draw) {k k' : Key} (h : s.Before k k') :
    ¬s.Before k' k := by
  obtain ⟨n, m, less, rfl, rfl⟩ := h
  rintro ⟨m', n', less', eq_m, eq_n⟩
  have := distinct eq_m
  have := distinct eq_n
  omega

namespace InOrder

variable {bound bound' : Nat} {keys keys' : List Key}

/-- No keys are in order. -/
lemma nil : s.InOrder bound [] := ⟨.nil, nofun⟩

/-- Keys stay in order when more is drawn. -/
lemma mono (h : s.InOrder bound keys) (le : bound ≤ bound') : s.InOrder bound' keys := by
  refine ⟨h.order, fun k mem => ?_⟩
  obtain ⟨n, less, eq⟩ := h.drawn k mem
  exact ⟨n, Nat.lt_of_lt_of_le less le, eq⟩

/-- Some of the keys in order are in order. -/
lemma sublist (h : s.InOrder bound keys) (sub : keys'.Sublist keys) : s.InOrder bound keys' :=
  ⟨h.order.sublist sub, fun k mem => h.drawn k (sub.subset mem)⟩

/-- A key that is drawn next comes last. -/
lemma snoc (h : s.InOrder bound keys) {n : Nat} (since : bound ≤ n) (before : n < bound') :
    s.InOrder bound' (keys ++ [s.draw n]) := by
  refine ⟨List.pairwise_append.2 ⟨h.order, List.pairwise_singleton _ _, ?_⟩, fun k mem => ?_⟩
  · intro k mem k' new
    obtain rfl := List.mem_singleton.1 new
    obtain ⟨m, less, eq⟩ := h.drawn k mem
    exact ⟨m, n, Nat.lt_of_lt_of_le less since, eq, rfl⟩
  · rcases List.mem_append.1 mem with old | new
    · exact (h.mono (Nat.le_trans since (Nat.le_of_lt before))).drawn k old
    · exact ⟨n, before, List.mem_singleton.1 new⟩

end InOrder

end KeySupply

/-! ## Registrations and the members list -/

namespace Environment

/-- The current registrations of an environment. -/
def entries (e : Environment) : List Entry := e.registrations.map Registration.entry

/-- The members list has a line for each registration, and no two registrations have an identifier
or a key in common. -/
structure Agrees (e : Environment) : Prop where
  members : e.members = e.entries.map Entry.member
  ids : (e.entries.map Entry.id).Nodup
  keys : (e.entries.map Entry.key).Nodup
  order : e.supply.InOrder e.drawn (e.entries.map Entry.key)

variable {e e' : Environment} {id : ParticipantId} {key : Key} {member : Member}
  {services : ServiceSet}

/-- The key of a participant is that of its entry. -/
lemma keyOf?_eq (e : Environment) (id : ParticipantId) :
    e.keyOf? id = (e.entries.find? fun r => r.id == id).map Entry.key := by
  rw [entries, List.find?_map, Option.map_map]
  rfl

/-- Where no identifier is entered twice, a participant has the key that one of the entries gives
it. -/
lemma keyOf?_eq_some_iff (ids : (e.entries.map Entry.id).Nodup) :
    e.keyOf? id = some key ↔ ∃ r ∈ e.entries, r.id = id ∧ r.key = key := by
  rw [keyOf?_eq, Option.map_eq_some_iff]
  simp only [find?_eq_some_iff_of_nodup ids, and_assoc]

/-- Who has no key has no entry. -/
lemma keyOf?_eq_none_iff : e.keyOf? id = none ↔ id ∉ e.entries.map Entry.id := by
  rw [keyOf?_eq, Option.map_eq_none_iff, List.find?_eq_none, List.mem_map]
  simp

/-- Who is entered comes last. -/
lemma entries_enter :
    (e.enter member services).entries = e.entries ++ [⟨member, e.nextKey.1⟩] := by
  rw [entries, enter, List.map_append]
  rfl

/-- Who leaves takes its entry along. -/
lemma entries_leave : (e.leave id).entries = e.entries.filter fun r => r.id != id := by
  rw [entries, entries, List.filter_map]
  rfl

/-- To install services changes no entry. -/
lemma entries_install (id : ParticipantId) (key : Key) (services : ServiceSet) :
    (e.install id key services).2.entries = e.entries := by
  rw [install]
  cases e.authorize id key with
  | error err => rfl
  | ok u =>
    rw [entries, entries, List.map_map]
    refine List.map_congr_left fun r _ => ?_
    simp only [Function.comp]
    split <;> rfl

/-- The tables still agree after what changes none of them. -/
lemma Agrees.of_eq (h : e.Agrees) (entries : e'.entries = e.entries)
    (members : e'.members = e.members) (supply : e'.supply = e.supply)
    (drawn : e'.drawn = e.drawn) : e'.Agrees := by
  refine ⟨?_, ?_, ?_, ?_⟩
  · rw [members, entries, h.members]
  · rw [entries]
    exact h.ids
  · rw [entries]
    exact h.keys
  · rw [entries, supply, drawn]
    exact h.order

/-- A registration comes with a line of its own, and under a key that nobody holds. -/
lemma Agrees.enter (h : e.Agrees) (absent : e.keyOf? member.id = none) :
    (e.enter member services).Agrees := by
  have fresh : e.nextKey.1 ∉ e.entries.map Entry.key := by
    rw [entries, List.map_map]
    exact e.supply.next_not_mem _ _
  refine ⟨?_, ?_, ?_, ?_⟩
  · rw [entries_enter, List.map_append, ← h.members]
    rfl
  · rw [entries_enter, List.map_append]
    exact List.concat_eq_append ▸ h.ids.concat (keyOf?_eq_none_iff.1 absent)
  · rw [entries_enter, List.map_append]
    exact List.concat_eq_append ▸ h.keys.concat fresh
  · obtain ⟨n, since, eq⟩ := e.exists_nextKey_eq
    rw [entries_enter, List.map_append, Environment.enter, eq]
    exact h.order.snoc since (Nat.lt_succ_self n)

/-- The tables agree after a participant has left. -/
lemma Agrees.leave (h : e.Agrees) (id : ParticipantId) : (e.leave id).Agrees := by
  have sub : (e.leave id).entries.Sublist e.entries := by
    rw [entries_leave]
    exact List.filter_sublist
  refine ⟨?_, h.ids.sublist (sub.map _), h.keys.sublist (sub.map _), h.order.sublist (sub.map _)⟩
  rw [entries_leave, Environment.leave, h.members, List.filter_map]
  rfl

end Environment

/-! ## Accesses -/

/-- What an access does to registrations and the members list, as its reply tells: it enters a
participant, takes one out, or leaves them as they are. -/
inductive Access.Enrols (a : Access M) (w : World M) : Prop where
  | entered {member : Member} {services : ServiceSet}
      (absent : w.environment.keyOf? member.id = none)
      (told : (⟨a, (a.apply w).1⟩ : Performed M) =
        ⟨.enrol member services, .ok ⟨member.id, w.environment.nextKey.1, services⟩⟩)
      (environment : (a.apply w).2.environment = w.environment.enter member services)
  | left {id : ParticipantId} {key : Key}
      (told : (⟨a, (a.apply w).1⟩ : Performed M) = ⟨.deregister id key, .ok ()⟩)
      (environment : (a.apply w).2.environment = w.environment.leave id)
  | kept (told : ∀ entries, Performed.entriesAfter entries ⟨a, (a.apply w).1⟩ = entries)
      (entries : (a.apply w).2.environment.entries = w.environment.entries)
      (members : (a.apply w).2.environment.members = w.environment.members)
      (supply : (a.apply w).2.environment.supply = w.environment.supply)
      (drawn : (a.apply w).2.environment.drawn = w.environment.drawn)

namespace Access

/-- An access that changes nothing, and tells so, keeps the entries as told. -/
lemma Enrols.kept_of_same {a : Access M} {w : World M}
    (told : ∀ entries, Performed.entriesAfter entries ⟨a, (a.apply w).1⟩ = entries)
    (same : (a.apply w).2.environment = w.environment) : a.Enrols w := by
  refine .kept told ?_ ?_ ?_ ?_
  all_goals rw [same]

/-- Every access does one of the three. -/
theorem enrols (a : Access M) (w : World M) : a.Enrols w := by
  cases a with
  | settle action actor handler ending =>
    refine .kept (fun _ => rfl) ?_ ?_ ?_ ?_
    all_goals
      simp only [apply, World.inEnvironment, Environment.settle]
      rcases ending.result with reason | _ | _ <;> rfl
  | enrol member services =>
    cases h : w.environment.keyOf? member.id with
    | none =>
      have enters : w.environment.enrol member services =
          (.ok ⟨member.id, w.environment.nextKey.1, services⟩,
            w.environment.enter member services) := Environment.enrol_of_eq h
      refine .entered h ?_ (congrArg Prod.snd enters)
      rw [apply, World.inEnvironment, enters]
    | some key =>
      have refused : w.environment.enrol member services =
          (.error (.alreadyRegistered member.id), w.environment) := Environment.enrol_of_some h
      exact .kept_of_same (fun _ => by rw [apply, World.inEnvironment, refused]; rfl)
        (congrArg Prod.snd refused)
  | deregister id key =>
    by_cases h : w.environment.keyOf? id = some key
    · have leaves := Environment.deregister_of_eq h
      have told : (⟨deregister id key, (apply (.deregister id key) w).1⟩ : Performed M) =
          ⟨.deregister id key, .ok ()⟩ := by
        rw [apply, World.inEnvironment, leaves]
      exact .left told (congrArg Prod.snd leaves)
    · have refused := Environment.deregister_of_ne h
      exact .kept_of_same (fun _ => by rw [apply, World.inEnvironment, refused]; rfl)
        (congrArg Prod.snd refused)
  | install id key services =>
    refine .kept (fun _ => rfl) (Environment.entries_install id key services) ?_ ?_ ?_
    all_goals
      simp only [apply, World.inEnvironment, Environment.install]
      cases w.environment.authorize id key <;> rfl
  | _ => exact .kept (fun _ => rfl) rfl rfl rfl rfl

/-- An access changes the current registrations as its reply tells. -/
theorem entries_apply (a : Access M) (w : World M) :
    (a.apply w).2.environment.entries =
      Performed.entriesAfter w.environment.entries ⟨a, (a.apply w).1⟩ := by
  cases a.enrols w with
  | entered absent told environment =>
    rw [told, environment, Environment.entries_enter]
    rfl
  | left told environment =>
    rw [told, environment, Environment.entries_leave]
    rfl
  | kept told entries => rw [told, entries]

/-- Registrations and the members list still agree after an access. -/
theorem agrees_apply (a : Access M) (w : World M) (h : w.environment.Agrees) :
    (a.apply w).2.environment.Agrees := by
  cases a.enrols w with
  | entered absent told environment =>
    rw [environment]
    exact h.enter absent
  | left told environment =>
    rw [environment]
    exact h.leave _
  | kept told entries members supply drawn => exact h.of_eq entries members supply drawn

end Access

/-- A registration that succeeds enters the participant, after whatever the generators do. -/
lemma World.call_register_enters {w w' : World M} {id : ParticipantId} {name : String}
    {admission : Admission} (h : w.call (.register id name) = (.ok admission, w')) :
    ∃ w₁ : World M, Reaches w w₁ ∧ w₁.environment.keyOf? id = none ∧
      admission.key = w₁.environment.nextKey.1 ∧
      w'.environment = w₁.environment.enter ⟨id, name⟩ admission.services := by
  rw [call_register] at h
  cases absent : w.environment.checkAbsent id with
  | error e =>
    rw [absent] at h
    cases h
  | ok u =>
    rw [absent] at h
    dsimp only at h
    refine ⟨(w.generate ⟨id, name⟩).2, w.generate_reaches ⟨id, name⟩, ?_⟩
    generalize w.generate ⟨id, name⟩ = g at h ⊢
    cases registered : g.2.environment.keyOf? id with
    | some key =>
      rw [Environment.enrol_of_some registered] at h
      cases h
    | none =>
      rw [Environment.enrol_of_eq registered] at h
      obtain ⟨admitted, rfl⟩ := Prod.mk.inj h
      obtain rfl := Except.ok.inj admitted
      exact ⟨rfl, rfl, rfl⟩

/-! ## What is told of an environment -/

/-- What an environment shows when these are the current registrations, in that order. -/
structure Environment.Lists (e : Environment) (entries : List Entry) : Prop where
  ids : (entries.map Entry.id).Nodup
  keys : (entries.map Entry.key).Nodup
  members : e.members = entries.map Entry.member
  participants : e.participants = entries.map Entry.id
  member? : ∀ id, e.member? id = (entries.find? fun r => r.id == id).map Entry.member
  isRegistered : ∀ id, e.isRegistered id = true ↔ id ∈ e.participants
  isCurrent : ∀ id key, e.isCurrent id key = true ↔ ∃ r ∈ entries, r.id = id ∧ r.key = key

/-- Tables that agree list the entries. -/
lemma Environment.Agrees.lists {e : Environment} (h : e.Agrees) : e.Lists e.entries := by
  have participants : e.participants = e.entries.map Entry.id := by
    rw [Environment.participants, h.members, List.map_map]
    rfl
  refine ⟨h.ids, h.keys, h.members, participants, fun id => ?_, fun id => ?_, fun id key => ?_⟩
  · rw [Environment.member?, h.members, List.find?_map]
    rfl
  · rw [participants, isRegistered_eq, Option.isSome_iff_ne_none, Ne, keyOf?_eq_none_iff, not_not]
  · rw [isCurrent_iff, keyOf?_eq_some_iff h.ids]

/-! ## Histories -/

/-- Accesses keep the tables in agreement. -/
lemma World.Reaches.agrees {w w' : World M} (h : Reaches w w') (agrees : w.environment.Agrees) :
    w'.environment.Agrees :=
  h.keeps (P := fun w => w.environment.Agrees) Access.agrees_apply agrees

section Histories

variable [Time T]

namespace DriverCall

variable {s : Simulation M T} {w : World M}

/-- To begin a call of the driver changes no entry. -/
lemma entries_entered (c : DriverCall M T) :
    (c.entered s w).environment.entries = w.environment.entries :=
  congrArg (fun w => w.environment.entries) (c.content_entered s w)

/-- Registrations and the members list agree before every deed of a call of the driver and after
it. -/
lemma agrees (c : DriverCall M T) (h : w.environment.Agrees) :
    (∀ d ∈ c.deeds s w, d.world.environment.Agrees) ∧
      (c.outcome s w).world.environment.Agrees := by
  refine DriverCall.keeps (P := fun w => w.environment.Agrees) s w ?_ Access.agrees_apply c h
  intro w w' content h
  refine h.of_eq ?_ ?_ ?_ ?_
  · exact congrArg (fun w => w.environment.entries) content
  · exact congrArg (fun w => w.environment.members) content
  · exact congrArg (fun w => w.environment.supply) content
  · exact congrArg (fun w => w.environment.drawn) content

/-- What a call of the driver does tells the current registrations after it. -/
lemma entries_outcome (c : DriverCall M T) :
    (c.outcome s w).world.environment.entries =
      ((c.deeds s w).map Deed.performed).foldl Performed.entriesAfter w.environment.entries := by
  obtain ⟨w', along, content⟩ := c.content_along s w
  have told := along.foldl (f := fun w => w.environment.entries) Access.entries_apply
  rw [c.entries_entered] at told
  rw [← told]
  exact congrArg (fun w => w.environment.entries) content

/-- So does what has been done before a deed. -/
lemma entries_of_deed (c : DriverCall M T) {before after : List (Deed M)} {d : Deed M}
    (split : c.deeds s w = before ++ d :: after) :
    d.world.environment.entries =
      (before.map Deed.performed).foldl Performed.entriesAfter w.environment.entries := by
  obtain ⟨w', along, -⟩ := c.deeds_along s w
  rw [split] at along
  obtain ⟨w₁, first, rfl, -⟩ := along.split
  have told := first.foldl (f := fun w => w.environment.entries) Access.entries_apply
  rwa [c.entries_entered] at told

end DriverCall

namespace Plan

variable (x : Plan M T)

/-- The tables agree after every history. -/
lemma agrees_after (history : List (DriverCall M T)) : (x.after history).environment.Agrees :=
  x.after_induction (P := fun g => g.environment.Agrees) ⟨rfl, .nil, .nil, .nil⟩
    (fun _ c h => (c.agrees h).2) history

/-- The entries after a history are those that its deeds tell. -/
lemma entries_after (history : List (DriverCall M T)) :
    (x.after history).environment.entries = enrolled ((x.deeds history).map Deed.performed) := by
  have told : ∀ g : Progress M T, (history.foldl Progress.next g).environment.entries =
        ((g.deeds history).map Deed.performed).foldl Performed.entriesAfter
          g.environment.entries := by
    induction history with
    | nil => exact fun _ => rfl
    | cons c rest ih =>
      intro g
      rw [List.foldl_cons, ih, Progress.deeds, List.map_append, List.foldl_append]
      exact congrArg (List.foldl _ · _) c.entries_outcome
  exact told x.start

end Plan

/-! ## Participants of a simulation -/

/-- The participants that have joined so far have done so one after another. -/
def Progress.Joins (w : World M) (calls : List (HookCall T)) : Prop :=
  w.environment.supply.InOrder w.environment.drawn ((joined calls).map Incarnation.key)

namespace Progress

omit [Time T] in
/-- Those who have joined have done so one after another, whatever calls come later by which nobody
joins. -/
lemma Joins.later {w w' : World M} {calls new : List (HookCall T)} (h : Joins w calls)
    (later : w.environment.Later w'.environment) (unjoined : joined new = []) :
    Joins w' (calls ++ new) := by
  rw [Joins, joined_append, unjoined, List.append_nil, later.supply]
  exact h.mono later.drawn

omit [Time T] in
/-- Who is added joins after all who have joined before. -/
lemma Joins.add {s : Simulation M T} {w : World M} {calls : List (HookCall T)} (h : Joins w calls)
    (p : Participant M T) :
    Joins (s.addParticipant w p).world (calls ++ (s.addParticipant w p).calls) := by
  have later := (s.addParticipant_respects w World.respected_reaches p).later
  have adds := s.addParticipant_adds w p
  generalize s.addParticipant w p = out at later adds ⊢
  cases adds with
  | unrunnable | refused => exact h.later later rfl
  | @joined admission w₁ w₂ ending registered initialised fine =>
    obtain ⟨n, since, before, key⟩ := World.call_register_ok registered
    -- the hook may have registered others, so that more keys are drawn by now
    have drawn := (World.respected_reaches.of_perform initialised).later.drawn
    have joined_eq : joined [(⟨.participant p.id p.name, some admission.key, .initialise, none,
        ending⟩ : HookCall T)] = [⟨p.id, p.name, admission.key⟩] := by
      simp [incarnations, HookCall.joins, HookEnd.failure?, fine, incarnation?]
    rw [Joins, joined_append, joined_eq, List.map_append, later.supply]
    exact key ▸ h.snoc since (Nat.lt_of_lt_of_le before drawn)
  | failed registered initialised bad =>
    refine h.later later ?_
    simp [incarnations, HookCall.joins, HookEnd.failure?, bad]

/-- No call of the driver makes anybody join out of turn. -/
lemma joins_next {g : Progress M T} (h : Joins g.world g.calls) (c : DriverCall M T) :
    Joins (g.next c).world (g.next c).calls := by
  have later := g.next_later c
  cases c with
  | add p => exact h.add p
  | spawn create names =>
    exact spawnFrom_induction (P := fun _ w calls => Joins w calls)
      (fun _ w calls p h => by
        rw [← calls.append_nil]
        exact h.later (w.perform_reaches p).later rfl)
      (fun _ _ _ p h => h.add p) g.calls h
  | addPlugin p =>
    exact h.later later ((addPlugin_silent g.simulation g.world p).incarnations_eq HookCall.joins)
  | tick =>
    refine h.later later ?_
    obtain ⟨-, -, -, silent, -⟩ | ⟨clock, -, qs, drives⟩ := g.simulation.runTick_spec g.world
    · exact congrArg joined silent
    · obtain ⟨rest, eq, silent⟩ := drives.calls
      rw [DriverCall.outcome, eq, joined_append, joined_stepCalls]
      exact silent.incarnations_eq HookCall.joins
  | finish =>
    exact h.later later ((finish_silent g.simulation g.world).incarnations_eq HookCall.joins)
  | outside p => exact h.later later rfl

/-- After every history the participants have joined one after another. -/
lemma joins_after (x : Plan M T) (history : List (DriverCall M T)) :
    Joins (x.after history).world (x.after history).calls :=
  x.after_induction (P := fun g => Joins g.world g.calls) .nil (fun _ c h => joins_next h c) history

/-- If no key is drawn twice, active participants come in the order of the members list. -/
theorem active_sublist {x : Plan M T} (distinct : Function.Injective x.supply.draw)
    (history : List (DriverCall M T)) :
    let g := x.after history
    (g.simulation.activeParticipants g.environment).Sublist g.environment.participants := by
  intro g
  have supply : g.world.environment.supply = x.supply :=
    (Progress.foldl_later x.start history).supply
  have agrees : g.environment.Agrees := x.agrees_after history
  have tracked : Tracked g.simulation g.world g.calls := tracked_after distinct history
  have joins : Joins g.world g.calls := joins_after x history
  -- who is active, and who is registered, each with the key
  let active := (g.simulation.participants.filter fun slot =>
    !slot.failed && slot.isLive g.environment).map fun slot => (slot.participant.id, slot.key)
  let registered := g.environment.entries.map fun r => (r.id, r.key)
  let Before := fun a b : ParticipantId × Key => x.supply.Before a.2 b.2
  have : Std.Antisymm Before := ⟨fun _ _ ab ba => absurd ba (ab.not_before distinct)⟩
  have active_order : active.Pairwise Before := by
    have slots := (KeySupply.InOrder.sublist joins (tracked.slots.map Incarnation.key)).order
    rw [supply, List.map_map, List.pairwise_map] at slots
    exact List.pairwise_map.2 (slots.filter _)
  have registered_order : registered.Pairwise Before := by
    have entries : (g.environment.entries.map Entry.key).Pairwise
        g.world.environment.supply.Before := agrees.order.order
    rw [supply, List.pairwise_map] at entries
    exact List.pairwise_map.2 entries
  have nodup : active.Nodup :=
    active_order.imp fun ab same => (same ▸ ab).not_before distinct (same ▸ ab)
  have subset : active ⊆ registered := by
    intro a mem
    obtain ⟨slot, kept, rfl⟩ := List.mem_map.1 mem
    obtain ⟨-, live⟩ := Bool.and_eq_true_iff.1 (List.mem_filter.1 kept).2
    obtain ⟨r, mem, id, key⟩ := (agrees.lists.isCurrent _ _).1 live
    exact List.mem_map.2 ⟨r, mem, by rw [id, key]⟩
  have sub : active.Sublist registered :=
    List.sublist_of_subperm_of_pairwise (List.subperm_of_subset nodup subset) active_order
      registered_order
  have ids := sub.map Prod.fst
  rw [List.map_map, List.map_map] at ids
  rw [agrees.lists.participants]
  exact ids

end Progress

end Histories

/-- Membership is consistent, whatever keys come and whatever is done: by the driver and by others,
one after another or side by side. Before every access and after every history the environment shows
exactly the registrations that have succeeded and not been taken back: each identifier once, with
the name under which it is registered now, in the order of these registrations, and no two with the
same key. A registration that succeeds comes last. If no key is drawn twice, the active participants
of a simulation are among those registered, in the same order and without repetition. -/
theorem members_list_registrations [Time T] (x : Plan M T) (history : List (DriverCall M T)) :
    let g := x.after history
    (∀ (c : DriverCall M T) before d after,
      c.deeds g.simulation g.world = before ++ d :: after →
      d.world.environment.Lists (enrolled ((x.deeds history ++ before).map Deed.performed))) ∧
    g.environment.Lists (enrolled ((x.deeds history).map Deed.performed)) ∧
    (∀ id name admission w', g.world.call (.register id name) = (.ok admission, w') →
      ∃ others, w'.environment.Lists (others ++ [⟨⟨id, name⟩, admission.key⟩])) ∧
    (Function.Injective x.supply.draw →
      (g.simulation.activeParticipants g.environment).Sublist g.environment.participants ∧
      (g.simulation.activeParticipants g.environment).Nodup) := by
  intro g
  have agrees : g.environment.Agrees := x.agrees_after history
  have entries : g.environment.entries = enrolled ((x.deeds history).map Deed.performed) :=
    x.entries_after history
  refine ⟨fun c before d after split => ?_, entries ▸ agrees.lists, ?_, fun distinct => ?_⟩
  · have told : d.world.environment.entries =
        enrolled ((x.deeds history ++ before).map Deed.performed) := by
      rw [c.entries_of_deed split, List.map_append, enrolled, List.foldl_append]
      exact congrArg (List.foldl _ · _) entries
    have mem : d ∈ c.deeds g.simulation g.world :=
      split ▸ List.mem_append_right _ List.mem_cons_self
    exact told ▸ ((c.agrees agrees).1 d mem).lists
  · intro id name admission w' registers
    obtain ⟨w₁, reaches, absent, key, environment⟩ := World.call_register_enters registers
    have entered : (w₁.environment.enter ⟨id, name⟩ admission.services).Agrees :=
      (reaches.agrees agrees).enter absent
    refine ⟨w₁.environment.entries, ?_⟩
    rw [environment, key, ← Environment.entries_enter]
    exact entered.lists
  · have sub := Progress.active_sublist distinct history
    exact ⟨sub, (agrees.lists.participants ▸ agrees.ids).sublist sub⟩

/-- Of two participants the first leaves in its step and is registered again behind the second, not
to join the simulation any more. Both are listed, in that order, and the second alone is active. -/
theorem members_list_registrations_rejoining :
    let history : List (DriverCall Key IntegerTime) := [.add restless, .add settled, .tick]
    let g := plain.after history
    let registered : List Entry := [⟨⟨⟨1⟩, "settled"⟩, ⟨2⟩⟩, ⟨⟨⟨2⟩, "restless"⟩, ⟨3⟩⟩]
    let active := g.simulation.activeParticipants g.environment
    Function.Injective plain.supply.draw ∧ g.environment.Lists registered ∧
      g.environment.participants = [⟨1⟩, ⟨2⟩] ∧ active = [⟨1⟩] ∧
      active.Sublist g.environment.participants ∧ active.Nodup := by
  intro history g registered active
  have distinct : Function.Injective plain.supply.draw := fun _ _ => KeySupply.counting_injective
  obtain ⟨-, lists, -, among⟩ := members_list_registrations plain history
  have enrols : enrolled ((plain.deeds history).map Deed.performed) = registered := rfl
  exact ⟨distinct, enrols ▸ lists, by decide +kernel, by decide +kernel, among distinct⟩

end Cadence
