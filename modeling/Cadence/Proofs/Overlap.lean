import Cadence.Proofs.Phases

/-!
# Calls that overlap

Any accesses may come between the phases of a registration and of a renewal of services. Still, of
the registrations of a participant one succeeds, until the participant leaves (`Along.contest`), and
what a renewal installs was generated for the registration whose key it was given: as keys are drawn
once, an entry that is there under a key when the renewal ends was there all the time
(`World.Reaches.inherits`). `overlapping_calls_are_safe` says so of whatever programs do side by
side.
-/

namespace Cadence

variable {M α : Type}

open World

/-! ## Coming and going -/

namespace Performed

/-- Whether the participant comes or goes with an access that was made, if it does either. -/
def turnover? (id : ParticipantId) : Performed M → Option Bool
  | ⟨.enrol member _, .ok _⟩ => if id = member.id then some true else none
  | ⟨.deregister i _, .ok ()⟩ => if id = i then some false else none
  | _ => none

/-- The answer to a registration of the participant, if the access gives one. -/
def registered? (id : ParticipantId) : Performed M → Option (Except EnvironmentError Admission)
  | ⟨.checkAbsent i, .error e⟩ => if id = i then some (.error e) else none
  | ⟨.enrol member _, r⟩ => if id = member.id then some r else none
  | _ => none

end Performed

/-- The participant's comings and goings among deeds, in that order. -/
def turns (id : ParticipantId) (ds : List (Deed M)) : List Bool :=
  ds.filterMap fun d => d.performed.turnover? id

/-- The answers to registrations of the participant among deeds, in that order. -/
def registrationAnswers (id : ParticipantId) (ds : List (Deed M)) :
    List (Except EnvironmentError Admission) :=
  ds.filterMap fun d => d.performed.registered? id

/-- How it goes with a participant in an access, as to whether it is there before, whether it comes
or goes, what answer is given to a registration of it, and whether it is there after. -/
inductive Passes (id : ParticipantId) : Bool → Option Bool →
    Option (Except EnvironmentError Admission) → Bool → Prop where
  | kept (present : Bool) : Passes id present none none present
  | refused : Passes id true none (some (.error (.alreadyRegistered id))) true
  | came (admission : Admission) : Passes id false (some true) (some (.ok admission)) true
  | went : Passes id true (some false) none false

/-- A participant comes, goes or stays in an access as it is answered. -/
theorem Deed.passes (d : Deed M) (id : ParticipantId) :
    Passes id (d.world.environment.isRegistered id) (d.performed.turnover? id)
      (d.performed.registered? id) (d.after.environment.isRegistered id) := by
  obtain ⟨a, w⟩ := d
  have after : (a.apply w).2.environment.isRegistered id = (Performed.keyAfter id
      (w.environment.keyOf? id) ⟨a, (a.apply w).1⟩).isSome := by
    rw [Environment.isRegistered_eq, a.keyOf?_apply w id]
  simp only [Deed.performed, Deed.reply, Deed.after, after]
  rw [Environment.isRegistered_eq]
  cases a with
  | checkAbsent i =>
    simp only [Access.apply]
    cases holds : w.environment.keyOf? i with
    | none =>
      rw [Environment.checkAbsent_of_eq holds]
      exact .kept _
    | some key =>
      rw [Environment.checkAbsent_of_some holds]
      by_cases same : id = i
      · subst same
        simpa [Performed.turnover?, Performed.registered?, Performed.keyAfter, holds]
          using Passes.refused
      · simpa [Performed.turnover?, Performed.registered?, Performed.keyAfter, same]
          using Passes.kept _
  | enrol member services =>
    simp only [Access.apply, World.inEnvironment]
    cases holds : w.environment.keyOf? member.id with
    | none =>
      rw [Environment.enrol_of_eq holds]
      by_cases same : id = member.id
      · subst same
        simpa [Performed.turnover?, Performed.registered?, Performed.keyAfter, holds]
          using Passes.came _
      · simpa [Performed.turnover?, Performed.registered?, Performed.keyAfter, same]
          using Passes.kept _
    | some key =>
      rw [Environment.enrol_of_some holds]
      by_cases same : id = member.id
      · subst same
        simpa [Performed.turnover?, Performed.registered?, Performed.keyAfter, holds]
          using Passes.refused
      · simpa [Performed.turnover?, Performed.registered?, Performed.keyAfter, same]
          using Passes.kept _
  | deregister i key =>
    simp only [Access.apply, World.inEnvironment]
    by_cases holds : w.environment.keyOf? i = some key
    · rw [Environment.deregister_of_eq holds]
      by_cases same : id = i
      · subst same
        simpa [Performed.turnover?, Performed.registered?, Performed.keyAfter, holds]
          using Passes.went
      · simpa [Performed.turnover?, Performed.registered?, Performed.keyAfter, same]
          using Passes.kept _
    · rw [Environment.deregister_of_ne holds]
      exact .kept _
  | _ => exact .kept _

namespace World

variable {w w' : World M} {ds : List (Deed M)}

/-- A participant comes and goes by turns. -/
theorem Along.alternates (h : w.Along ds w') (id : ParticipantId) :
    (w.environment.isRegistered id :: turns id ds).IsChain (· ≠ ·) := by
  induction ds generalizing w with
  | nil => exact .singleton _
  | cons d rest ih =>
    obtain ⟨rfl, later⟩ := h
    have chain := ih later
    have passes := d.passes id
    rw [turns, List.filterMap_cons]
    generalize d.world.environment.isRegistered id = before,
      d.after.environment.isRegistered id = after, d.performed.turnover? id = turn,
      d.performed.registered? id = answer at passes chain ⊢
    cases passes with
    | kept | refused => exact chain
    | came | went => exact List.isChain_cons_cons.2 ⟨nofun, chain⟩

/-- A participant that is there and does not go cannot be registered. -/
lemma Along.refuses {id : ParticipantId} (h : w.Along ds w')
    (present : w.environment.isRegistered id = true) (stays : false ∉ turns id ds) :
    ∀ r ∈ registrationAnswers id ds, r = .error (.alreadyRegistered id) := by
  induction ds generalizing w with
  | nil => exact fun _ mem => absurd mem List.not_mem_nil
  | cons d rest ih =>
    obtain ⟨rfl, later⟩ := h
    have passes := d.passes id
    rw [turns, List.filterMap_cons] at stays
    rw [registrationAnswers, List.filterMap_cons]
    rw [present] at passes
    generalize presentAfter : d.after.environment.isRegistered id = after,
      d.performed.turnover? id = turn, d.performed.registered? id = answer at passes stays ⊢
    cases passes with
    | kept => exact ih later presentAfter stays
    | refused => exact List.forall_mem_cons.2 ⟨rfl, ih later presentAfter stays⟩
    | went => exact absurd List.mem_cons_self stays

/-- Of registrations of a participant that is not there the first that is answered succeeds, and no
other before the participant goes. -/
theorem Along.contest {id : ParticipantId} (h : w.Along ds w')
    (absent : w.environment.isRegistered id = false) (stays : false ∉ turns id ds) :
    registrationAnswers id ds = [] ∨ ∃ admission others,
      registrationAnswers id ds = .ok admission :: others ∧
        ∀ r ∈ others, r = .error (.alreadyRegistered id) := by
  induction ds generalizing w with
  | nil => exact .inl rfl
  | cons d rest ih =>
    obtain ⟨rfl, later⟩ := h
    have passes := d.passes id
    rw [turns, List.filterMap_cons] at stays
    rw [registrationAnswers, List.filterMap_cons]
    rw [absent] at passes
    generalize after_eq : d.after.environment.isRegistered id = after,
      d.performed.turnover? id = turn, d.performed.registered? id = answer at passes stays ⊢
    cases passes with
    | kept => exact ih later after_eq stays
    | came admission =>
      have stays : false ∉ turns id rest := fun mem => stays (List.mem_cons_of_mem true mem)
      exact .inr ⟨admission, _, rfl, later.refuses after_eq stays⟩

end World

/-- The last deed of a registration gives its answer. -/
lemma Registers.answers {generation : Member → Thread M ServiceSet} {id : ParticipantId}
    {name : String} {path : List (Deed M)} {r : Except EnvironmentError Admission}
    (h : Registers generation id name path r) :
    ∃ d, path.getLast? = some d ∧ d.performed.registered? id = some r := by
  cases h with
  | @refused w present =>
    refine ⟨_, rfl, ?_⟩
    simp [Deed.performed, Deed.reply, Access.apply, Environment.checkAbsent, present,
      Performed.registered?]
  | @beaten w w' ds services absent _ _ present =>
    refine ⟨⟨.enrol ⟨id, name⟩ services, w'⟩, List.getLast?_concat (l := _ :: ds), ?_⟩
    simp [Deed.performed, Deed.reply, Access.apply, World.inEnvironment, Environment.enrol,
      Environment.checkAbsent, present, Performed.registered?]
  | @entered w w' ds services absent _ _ absent' =>
    refine ⟨⟨.enrol ⟨id, name⟩ services, w'⟩, List.getLast?_concat (l := _ :: ds), ?_⟩
    simp [Deed.performed, Deed.reply, Access.apply, World.inEnvironment, Environment.enrol,
      Environment.checkAbsent, absent', Performed.registered?]

/-! ## Entries that last -/

namespace Environment

/-- What every change of an environment respects: when no key is drawn twice, an entry under a key
drawn before has been there before. -/
structure Inherits (e e' : Environment) : Prop extends e.Later e' where
  entries : Function.Injective e.supply.draw → ∀ r ∈ e'.entries, ∀ n < e.drawn,
    r.key = e.supply.draw n → r ∈ e.entries

variable {e e' e'' : Environment}

/-- An environment inherits from itself. -/
lemma Inherits.refl (e : Environment) : e.Inherits e := ⟨.refl e, fun _ _ mem _ _ _ => mem⟩

/-- What is inherited twice is inherited. -/
lemma Inherits.trans (h : e.Inherits e') (h' : e'.Inherits e'') : e.Inherits e'' := by
  refine ⟨h.toLater.trans h'.toLater, fun distinct r mem n less key => ?_⟩
  refine h.entries distinct r (h'.entries ?_ r mem n ?_ ?_) n less key
  · rw [h.supply]
    exact distinct
  · exact Nat.lt_of_lt_of_le less h.drawn
  · rw [h.supply]
    exact key

end Environment

/-- Every access leaves an environment that inherits. -/
lemma Access.inherits_apply (a : Access M) (w : World M) :
    w.environment.Inherits (a.apply w).2.environment := by
  refine ⟨a.later_apply w, fun distinct r mem n less key => ?_⟩
  cases a.enrols w with
  | entered absent told environment =>
    rw [environment, Environment.entries_enter] at mem
    rcases List.mem_append.1 mem with old | new
    · exact old
    · -- the new key comes from a later place than any drawn before
      obtain ⟨place, since, next⟩ := w.environment.exists_nextKey_eq
      rw [List.mem_singleton.1 new, next] at key
      have same : place = n := distinct key
      omega
  | left told environment =>
    rw [environment, Environment.entries_leave] at mem
    exact (List.mem_filter.1 mem).1
  | kept told entries =>
    rw [entries] at mem
    exact mem

/-- So does whatever leads from one world to another. -/
theorem World.Reaches.inherits {w w' : World M} (h : Reaches w w') :
    w.environment.Inherits w'.environment :=
  h.lift (R := fun w w' => w.environment.Inherits w'.environment)
    (fun w => .refl w.environment) .trans Access.inherits_apply

/-- An entry that is there at last under a key that was current at first is there in between. -/
lemma World.Reaches.mem_entries {w w₁ w₂ : World M} (first : Reaches w w₁) (later : Reaches w₁ w₂)
    (distinct : Function.Injective w.environment.supply.draw) (agrees : w.environment.Agrees)
    {r r' : Entry} (mem : r ∈ w.environment.entries) (mem' : r' ∈ w₂.environment.entries)
    (same : r'.key = r.key) : r' ∈ w₁.environment.entries := by
  obtain ⟨n, less, key⟩ := agrees.order.drawn r.key (List.mem_map_of_mem mem)
  have supply := first.later.supply
  refine later.inherits.entries (supply ▸ distinct) r' mem' n ?_ ?_
  · exact Nat.lt_of_lt_of_le less first.later.drawn
  · rw [same, key, supply]

/-! ## Renewals -/

namespace Environment

variable {e : Environment} {id : ParticipantId} {name : String} {key : Key}

/-- Whoever presents a key that is current has an entry under it. -/
lemma mem_entries_of_tenant (h : e.tenant id key = .ok name) : ⟨⟨id, name⟩, key⟩ ∈ e.entries := by
  rw [tenant] at h
  cases found : e.holder? id key with
  | none =>
    rw [found] at h
    cases h
  | some r =>
    rw [found] at h
    cases h
    obtain ⟨registered, rfl⟩ := holder?_eq_some_iff.1 found
    have same : (r.id == id) = true :=
      List.find?_some (p := fun r : Registration => r.id == id) registered
    obtain rfl := beq_iff_eq.1 same
    exact List.mem_map.2 ⟨r, List.mem_of_find?_eq_some registered, rfl⟩

/-- A listed member is the one registered under its identifier. -/
lemma Agrees.member?_eq {member : Member} (agrees : e.Agrees) (mem : ⟨member, key⟩ ∈ e.entries) :
    e.member? member.id = some member := by
  have found : e.entries.find? (fun r => r.id == member.id) = some ⟨member, key⟩ :=
    (find?_eq_some_iff_of_nodup agrees.ids).2 ⟨mem, rfl⟩
  rw [agrees.lists.member?, found]
  rfl

/-- What is installed with a current key stands in the registration that has the key. -/
lemma registration?_renewed (agrees : e.Agrees) (mem : ⟨⟨id, name⟩, key⟩ ∈ e.entries)
    (services : ServiceSet) :
    (e.install id key services).2.registration? id = some ⟨id, name, key, services⟩ := by
  have nodup : (e.registrations.map Registration.id).Nodup := by
    have ids := agrees.ids
    rwa [entries, List.map_map] at ids
  obtain ⟨r, registered, same⟩ := List.mem_map.1 mem
  cases same
  have found : e.registration? r.id = some r :=
    (find?_eq_some_iff_of_nodup nodup).2 ⟨registered, rfl⟩
  have current : e.keyOf? r.id = some r.key := by
    rw [keyOf?, found]
    rfl
  rw [registration?_install current, found, Option.map_some, if_pos rfl]

end Environment

/-- A renewal of services as it should be: the registration whose key was given is there throughout,
the services were generated for its member, and they stand in it in the end. -/
structure Renewal (generation : Member → Thread M ServiceSet) (id : ParticipantId) (key : Key)
    (during : List (Deed M)) (services : ServiceSet) (name : String) : Prop where
  throughout : ∀ d ∈ during, ⟨⟨id, name⟩, key⟩ ∈ d.world.environment.entries
  generated : ∃ made, (generation ⟨id, name⟩).Follows made services ∧ made.Sublist during
  installed : ∃ last, during.getLast? = some last ∧
    last.after.environment.registration? id = some ⟨id, name, key, services⟩

/-- An entry under a key that is current before the first of some deeds and before the last one is
there all the time. -/
lemma World.Along.lasting {w w' : World M} {init : List (Deed M)} {last : Deed M}
    (h : w.Along (init ++ [last]) w') (agrees : w.environment.Agrees)
    (distinct : Function.Injective w.environment.supply.draw) {r r' : Entry}
    (mem : r ∈ w.environment.entries) (mem' : r' ∈ last.world.environment.entries)
    (same : r'.key = r.key) :
    r' = r ∧ (∀ d ∈ init ++ [last], r' ∈ d.world.environment.entries) ∧
      ∀ d ∈ init, r' ∈ d.after.environment.entries := by
  have reached : Reaches w last.world :=
    h.reaches_of_mem (List.mem_append_right _ List.mem_cons_self)
  have there {v : World M} (before : Reaches w v) (after : Reaches v last.world) :
      r' ∈ v.environment.entries :=
    before.mem_entries after distinct agrees mem mem' same
  have onward {d : Deed M} (inside : d ∈ init) : Reaches d.after last.world := by
    obtain ⟨before, between, rfl⟩ := List.append_of_mem inside
    rw [List.append_assoc] at h
    exact h.reaches_between
  refine ⟨?_, fun d inside => ?_, fun d inside => ?_⟩
  · exact List.inj_on_of_nodup_map agrees.keys (there .refl reached) mem same
  · rcases List.mem_append.1 inside with before | final
    · exact there (h.reaches_of_mem inside)
        ((reaches_apply d.access d.world).trans (onward before))
    · obtain rfl := List.mem_singleton.1 final
      exact mem'
  · have before := h.reaches_of_mem (List.mem_append_left [last] inside)
    exact there (before.trans (reaches_apply d.access d.world)) (onward inside)

/-- A participant that has gone has no entry any more. -/
lemma Deed.not_mem_of_gone {d : Deed M} {id : ParticipantId}
    (gone : d.performed.turnover? id = some false) :
    ∀ r ∈ d.after.environment.entries, r.id ≠ id := by
  have passes := d.passes id
  rw [gone] at passes
  generalize d.world.environment.isRegistered id = before,
    present : d.after.environment.isRegistered id = after, d.performed.registered? id = answer
    at passes
  cases passes
  rw [Environment.isRegistered_eq, Option.isSome_eq_false_iff, Option.isNone_iff_eq_none,
    Environment.keyOf?_eq_none_iff] at present
  rintro r mem rfl
  exact present (List.mem_map_of_mem mem)

/-- A renewal that succeeds is as it should be, and the participant has not gone meanwhile. -/
theorem World.Along.renewal {w w' : World M} {during path : List (Deed M)}
    {generation : Member → Thread M ServiceSet} {id : ParticipantId} {key : Key}
    {services : ServiceSet} (h : w.Along during w') (agrees : w.environment.Agrees)
    (distinct : Function.Injective w.environment.supply.draw)
    (regenerates : Regenerates generation id key path (.ok services))
    (sub : path.Sublist during) (first : path.head? = during.head?)
    (last : path.getLast? = during.getLast?) :
    (∃ name, Renewal generation id key during services name) ∧ false ∉ turns id during := by
  cases regenerates with
  | @installed w₀ w₁ w₂ name ds _ tenant _ _ generates current =>
    obtain ⟨init, rfl⟩ : ∃ init, during = init ++ [⟨.install id key services, w₂⟩] :=
      List.getLast?_eq_some_iff.1 (last.symm.trans (List.getLast?_concat (l := _ :: _ :: ds)))
    obtain rfl : w₀ = w := by
      cases init with
      | nil => cases first
      | cons d rest =>
        cases first
        exact h.1
    have agrees_at {d : Deed M} (mem : d ∈ init ++ [⟨.install id key services, w₂⟩]) :
        d.world.environment.Agrees := (h.reaches_of_mem mem).agrees agrees
    have agrees₂ := agrees_at (List.mem_append_right _ List.mem_cons_self)
    obtain ⟨r, mem, sameId, sameKey⟩ := (agrees₂.lists.isCurrent id key).1 current
    obtain ⟨rfl, throughout, after⟩ :=
      h.lasting agrees distinct (Environment.mem_entries_of_tenant tenant) mem sameKey
    refine ⟨⟨name, throughout, ⟨ds, ?_, ?_⟩, ⟨_, List.getLast?_concat, ?_⟩⟩, fun leaves => ?_⟩
    · have inside := sub.subset (List.mem_cons_of_mem _ List.mem_cons_self)
      have line : w₁.environment.member? id = some ⟨id, name⟩ :=
        (agrees_at inside).member?_eq (throughout _ inside)
      rwa [line] at generates
    · exact ((List.sublist_append_left ds _).cons _ |>.cons _).trans sub
    · exact Environment.registration?_renewed agrees₂ mem services
    · obtain ⟨d, inside, gone⟩ := List.mem_filterMap.1 leaves
      rcases List.mem_append.1 inside with before | final
      · exact Deed.not_mem_of_gone gone _ (after d before) rfl
      · obtain rfl := List.mem_singleton.1 final
        cases gone

/-! ## Programs side by side -/

/-- Registrations and renewals of services are safe against anything that comes between their
phases. Whatever programs and generators do side by side, every state shows exactly the
registrations that have succeeded and not been taken back; a participant comes and goes by turns, so
of the registrations that overlap the first to be answered succeeds, and all others are refused
until the participant goes, and change nothing themselves. As long as no key is drawn twice, a
renewal that succeeds has installed services that were generated for the registration whose key it
was given, and one whose participant has gone meanwhile is refused and changes nothing itself. -/
theorem overlapping_calls_are_safe (x : Setting M) (programs : List (Program M α))
    (schedule : List Nat) :
    let w := x.world
    let threads := programs.map w.thread
    let ds := deedsSideBySide schedule threads w
    let out := interleave schedule threads w
    let call (levels : Nat) (q : Request M) := Thread.ofRequest x.generators (levels + 1) q
    let generation (levels : Nat) (member : Member) : Thread M ServiceSet :=
      .generation (.ofRequest x.generators levels) member x.generators {}
    (w.Along ds out.2 ∧
      ∀ (i : Nat) (t : Thread M α), threads[i]? = some t →
        ∃ r path, out.1[i]? = some r ∧ t.Follows path r ∧ path.Sublist ds) ∧
    ((∀ before d after, ds = before ++ d :: after →
        d.world.environment.Lists (enrolled (before.map Deed.performed))) ∧
      out.2.environment.Lists (enrolled (ds.map Deed.performed))) ∧
    (∀ id, (false :: turns id ds).IsChain (· ≠ ·)) ∧
    (∀ levels id name path r, (call levels (.register id name)).Follows path r →
      Registers (generation levels) id name path r ∧
        ∃ d, path.getLast? = some d ∧ d.performed.registered? id = some r) ∧
    (∀ before during after id, ds = before ++ (during ++ after) →
      id ∉ (enrolled (before.map Deed.performed)).map Entry.id → false ∉ turns id during →
      registrationAnswers id during = [] ∨ ∃ admission others,
        registrationAnswers id during = .ok admission :: others ∧
          ∀ r ∈ others, r = .error (.alreadyRegistered id)) ∧
    (∀ levels id key path r, (call levels (.regenerate id key)).Follows path r →
      Regenerates (generation levels) id key path r) ∧
    (Function.Injective x.supply.draw → ∀ before during after levels id key r,
      ds = before ++ (during ++ after) →
      (call levels (.regenerate id key)).Spans during r →
      (∀ services, r = .ok services →
        ∃ name, Renewal (generation levels) id key during services name) ∧
      (false ∈ turns id during → r = .error (.invalidAuthorization id))) := by
  intro w threads ds out call generation
  have along : w.Along ds out.2 := deedsSideBySide_along schedule threads w
  have agrees : w.environment.Agrees := ⟨rfl, .nil, .nil, .nil⟩
  have entries {before : List (Deed M)} {w' : World M} (h : w.Along before w') :
      w'.environment.entries = enrolled (before.map Deed.performed) :=
    h.foldl (f := fun w => w.environment.entries) Access.entries_apply
  have lists {before : List (Deed M)} {w' : World M} (h : w.Along before w') :
      w'.environment.Lists (enrolled (before.map Deed.performed)) :=
    entries h ▸ (h.reaches.agrees agrees).lists
  refine ⟨⟨along, fun i t at_i => interleave_paths at_i⟩, ⟨?_, lists along⟩, along.alternates,
    fun levels id name path r follows => ?_, ?_, fun levels id key path r follows => ?_, ?_⟩
  · intro before d after split
    rw [split] at along
    obtain ⟨w', first, rfl, -⟩ := along.split
    exact lists first
  · have registers : Registers (generation levels) id name path r :=
      Thread.Follows.registers follows
    exact ⟨registers, registers.answers⟩
  · intro before during after id split absent stays
    rw [split] at along
    obtain ⟨w₁, first, later⟩ := along.split
    obtain ⟨w₂, within, -⟩ := later.split
    refine within.contest ?_ stays
    rw [← entries first, ← Environment.keyOf?_eq_none_iff] at absent
    rw [Environment.isRegistered_eq, absent]
    rfl
  · exact Thread.Follows.regenerates follows
  · intro distinct before during after levels id key r split ⟨path, follows, sub, head, last⟩
    rw [split] at along
    obtain ⟨w₁, first, later⟩ := along.split
    obtain ⟨w₂, within, -⟩ := later.split
    have regenerates : Regenerates (generation levels) id key path r :=
      Thread.Follows.regenerates follows
    have distinct₁ : Function.Injective w₁.environment.supply.draw := by
      rw [first.reaches.later.supply]
      exact distinct
    have renewal {services : ServiceSet} (ok : r = .ok services) :=
      within.renewal (first.reaches.agrees agrees) distinct₁ (ok ▸ regenerates) sub head last
    refine ⟨fun services ok => (renewal ok).1, fun leaves => ?_⟩
    cases regenerates with
    | refused | lost => rfl
    | installed => exact absurd leaves (renewal rfl).2

section Moving

/-- A client that registers a participant, and then has its services made anew. -/
def renewing : Program Unit (Option EnvironmentError) :=
  .ask (.register ⟨1⟩ "ada") fun
    | .error e => .done (some e)
    | .ok admission => .ask (.regenerate ⟨1⟩ admission.key) fun
      | .error e => .done (some e)
      | .ok _ => .done none

/-- A client that removes that participant, whose key it knows, and registers it again. -/
def moving : Program Unit (Option EnvironmentError) :=
  .ask (.deregister ⟨1⟩ ⟨1⟩) fun _ => .ask (.register ⟨1⟩ "eve") fun
    | .error e => .done (some e)
    | .ok _ => .done none

/-- A setting in which everybody is given the list of members. -/
def lodge : Setting Unit where
  registry := {}
  services := {}
  supply := .counting
  generators := [fun _ found => .done (ServiceSet.add found (.members .environment))]
  nesting := 1
  database := {}
  operator := {}
  memory := ()

/-- When the second client has its turns between the first and the last access of the renewal, that
is refused, and by then the participant is registered under another name. When the second client
comes later, the services are installed that were generated for the registration of the first. -/
theorem overlapping_calls_are_safe_moving :
    let threads := [renewing, moving].map lodge.world.thread
    let between := [0, 0, 0, 0, 1, 1, 1]
    let ds := deedsSideBySide between threads lodge.world
    let out := interleave between threads lodge.world
    let later := deedsSideBySide [] threads lodge.world
    let renewal := Thread.ofRequest lodge.generators 2 (.regenerate ⟨1⟩ ⟨1⟩)
    let generation (member : Member) : Thread Unit ServiceSet :=
      .generation (.ofRequest lodge.generators 1) member lodge.generators {}
    Function.Injective lodge.supply.draw ∧ false ∈ turns ⟨1⟩ (ds.drop 2) ∧
      (∃ r, renewal.Spans (ds.drop 2) r) ∧
      (∀ r, renewal.Spans (ds.drop 2) r → r = .error (.invalidAuthorization ⟨1⟩)) ∧
      out.1 = [some (.invalidAuthorization ⟨1⟩), none] ∧
      out.2.environment.members = [⟨⟨1⟩, "eve"⟩] ∧
      ∃ name, Renewal generation ⟨1⟩ ⟨1⟩ ((later.drop 2).take 3)
        (ServiceSet.add {} (.members .environment)) name := by
  intro threads between ds out later renewal generation
  have distinct : Function.Injective lodge.supply.draw := fun _ _ => KeySupply.counting_injective
  have leaves : false ∈ turns ⟨1⟩ (ds.drop 2) := by decide +kernel
  refine ⟨distinct, leaves, ?_, fun r spans => ?_, by decide +kernel, by decide +kernel, ?_⟩
  · let w (n : Nat) : World Unit := (ds[n]?.map Deed.world).getD lodge.world
    refine ⟨_, [⟨.tenant ⟨1⟩ ⟨1⟩, w 2⟩, ⟨.memberLine ⟨1⟩, w 3⟩,
      ⟨.install ⟨1⟩ ⟨1⟩ (ServiceSet.add {} (.members .environment)), w 7⟩],
      .access (w 2) (.access (w 3) (.access (w 7) (.done _))), ?_, rfl, rfl⟩
    exact .cons_cons _ (.cons_cons _ (.cons _ (.cons _ (.cons _ (.refl _)))))
  · obtain ⟨-, -, -, -, -, -, renewed⟩ :=
      overlapping_calls_are_safe lodge [renewing, moving] between
    refine (renewed distinct (ds.take 2) (ds.drop 2) [] 1 ⟨1⟩ ⟨1⟩ r ?_ spans).2 leaves
    rw [List.append_nil, List.take_append_drop]
  · obtain ⟨-, -, -, -, -, -, renewed⟩ := overlapping_calls_are_safe lodge [renewing, moving] []
    have spans : renewal.Spans ((later.drop 2).take 3)
        (.ok (ServiceSet.add {} (.members .environment))) := by
      let w (n : Nat) : World Unit := (later[n]?.map Deed.world).getD lodge.world
      exact ⟨_, .access (w 2) (.access (w 3) (.access (w 4) (.done _))), .refl _, rfl, rfl⟩
    refine (renewed distinct (later.take 2) _ ((later.drop 2).drop 3) 1 ⟨1⟩ ⟨1⟩ _ ?_ spans).1 _ rfl
    rw [List.take_append_drop, List.take_append_drop]

end Moving

end Cadence
