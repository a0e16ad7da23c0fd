import Cadence.Proofs.Joining

/-!
# Spawning

Participants are created and added one by one, up to the first that cannot be added. Those before it
have joined (`Simulation.Spawns`), and what follows is as if its name were the last one
(`Simulation.exists_spawns`). As long as nobody removes anybody on the way, or registers anybody
but itself, exactly those that have joined are added to the slots of the simulation, to the
registrations and to the members list, in the order of their names, and they are stepped in the next
tick (`spawning_keeps_prefix`). A generator that registers the member it runs for breaks this
(`spawning_behind_sneaking`).
-/

namespace Cadence

variable {M T : Type}

open World HookCall Simulation

/-! ## Who is spawned -/

/-- A participant that has been spawned: the name it was created for, and the key under which it has
joined. -/
structure Spawned (M T : Type) where
  name : String
  participant : Participant M T
  key : Key

namespace Spawned

variable (x : Spawned M T)

/-- The identifier that the participant reports. -/
def id : ParticipantId := x.participant.id

/-- Its slot. -/
def slot : ParticipantSlot M T := ⟨x.participant, x.key, false⟩

/-- Its registration. -/
def entry : Entry := ⟨⟨x.participant.id, x.participant.name⟩, x.key⟩

end Spawned

namespace Simulation

/-- The simulation after some participants have been spawned. -/
def withSpawned (s : Simulation M T) (added : List (Spawned M T)) : Simulation M T :=
  { s with
    participants := s.participants ++ added.map Spawned.slot
    participantsMade := s.participantsMade + added.length }

/-- The simulation after its next identifier has been given. -/
def withMade (s : Simulation M T) : Simulation M T :=
  { s with participantsMade := s.participantsMade + 1 }

/-- Participants are created one after another and join: each is created for its name, with the next
identifier of the simulation, in the world that those before it leave. The number is that of the
calls of the factory before. -/
inductive Spawns (create : Factory M T) :
    Nat → Simulation M T → World M → List (Spawned M T) → World M → Prop where
  | nil {n : Nat} {s : Simulation M T} {w : World M} : Spawns create n s w [] w
  | cons {n : Nat} {s : Simulation M T} {w w₁ w₂ w' : World M} {name : String}
      {p : Participant M T} {key : Key} {added : List (Spawned M T)} {calls : List (HookCall T)}
      (made : w.perform (create n (s.participantIds s.participantsMade) name) = (p, w₁))
      (joined : s.withMade.addParticipant w₁ p =
        ⟨.ok p.id, s.withSpawned [⟨name, p, key⟩], w₂, calls⟩)
      (rest : Spawns create (n + 1) (s.withSpawned [⟨name, p, key⟩]) w₂ added w') :
      Spawns create n s w (⟨name, p, key⟩ :: added) w'

variable {create : Factory M T} {n : Nat} {s : Simulation M T} {w w' : World M}
  {added : List (Spawned M T)}

/-- Without anybody spawned a simulation is as it was. -/
lemma withSpawned_nil (s : Simulation M T) : s.withSpawned [] = s := by
  rw [withSpawned, List.map_nil, List.append_nil]
  rfl

/-- Who is spawned in two stretches is spawned in the one and then in the other. -/
lemma withSpawned_withSpawned (s : Simulation M T) (l l' : List (Spawned M T)) :
    (s.withSpawned l).withSpawned l' = s.withSpawned (l ++ l') := by
  simp only [withSpawned, List.map_append, List.append_assoc, List.length_append, Nat.add_assoc]

/-- Whoever is added successfully has joined under some key. -/
lemma exists_joined {w₁ w₂ : World M} {p : Participant M T} {id : ParticipantId}
    {s₂ : Simulation M T} {calls : List (HookCall T)}
    (ok : s.withMade.addParticipant w₁ p = ⟨.ok id, s₂, w₂, calls⟩) (name : String) :
    id = p.id ∧ ∃ key, s₂ = s.withSpawned [⟨name, p, key⟩] := by
  have adds := s.withMade.addParticipant_adds w₁ p
  rw [ok] at adds
  cases adds with
  | joined => exact ⟨rfl, _, rfl⟩

/-- Spawning all that can be spawned answers with the identifiers that they report. -/
theorem Spawns.spawnFrom_eq (h : Spawns create n s w added w') :
    ∃ calls, spawnFrom create n (added.map Spawned.name) s w =
      ⟨.ok (added.map Spawned.id), s.withSpawned added, w', calls⟩ := by
  induction h with
  | nil => exact ⟨[], by rw [withSpawned_nil]; rfl⟩
  | @cons _ _ _ _ _ _ _ _ _ _ first made joined rest ih =>
    obtain ⟨calls, eq⟩ := ih
    rw [withSpawned_withSpawned] at eq
    refine ⟨first ++ calls, ?_⟩
    rw [List.map_cons, spawnFrom_cons made joined, eq]
    rfl

/-- Spawning stops with whoever cannot be added, and no later name makes a difference. -/
theorem Spawns.spawnFrom_error (h : Spawns create n s w added w') {name : String}
    {p : Participant M T} {w₁ w₂ : World M} {s₂ : Simulation M T} {e : TickError}
    {last : List (HookCall T)}
    (made : w'.perform (create (n + added.length)
      (s.participantIds (s.participantsMade + added.length)) name) = (p, w₁))
    (failed : (s.withSpawned added).withMade.addParticipant w₁ p = ⟨.error e, s₂, w₂, last⟩) :
    ∃ calls, ∀ others, spawnFrom create n (added.map Spawned.name ++ name :: others) s w =
      ⟨.error e, s₂, w₂, calls⟩ := by
  induction h with
  | nil =>
    rw [withSpawned_nil] at failed
    exact ⟨last, fun others => spawnFrom_of_error made failed⟩
  | @cons n s _ _ _ _ _ _ _ added first before joined rest ih =>
    have count (k : Nat) : k + 1 + added.length = k + (added.length + 1) := by omega
    obtain ⟨calls, eq⟩ := ih (by rw [count]; simpa [withSpawned, count] using made)
      (by rw [withSpawned_withSpawned]; exact failed)
    refine ⟨first ++ calls, fun others => ?_⟩
    rw [List.map_cons, List.cons_append, spawnFrom_cons before joined, eq]
    rfl

/-- Whatever the names are, participants are spawned for all of them, or for those before the first
for which nobody can be added. -/
theorem exists_spawns (create : Factory M T) (n : Nat) (s : Simulation M T) (w : World M)
    (names : List String) : ∃ added w', Spawns create n s w added w' ∧
      (names = added.map Spawned.name ∨ ∃ name rest p w₁ e s₂ w₂ last,
        names = added.map Spawned.name ++ name :: rest ∧
        w'.perform (create (n + added.length)
          (s.participantIds (s.participantsMade + added.length)) name) = (p, w₁) ∧
        (s.withSpawned added).withMade.addParticipant w₁ p = ⟨.error e, s₂, w₂, last⟩) := by
  induction names generalizing n s w with
  | nil => exact ⟨[], w, .nil, .inl rfl⟩
  | cons name rest ih =>
    rcases made : w.perform (create n (s.participantIds s.participantsMade) name) with ⟨p, w₁⟩
    rcases out : s.withMade.addParticipant w₁ p with ⟨e | id, s₂, w₂, calls⟩
    · refine ⟨[], w, .nil, .inr ⟨name, rest, p, w₁, e, s₂, w₂, calls, rfl, made, ?_⟩⟩
      rw [withSpawned_nil]
      exact out
    · obtain ⟨rfl, key, rfl⟩ := exists_joined out name
      obtain ⟨added, w', spawns, ends⟩ := ih (n + 1) (s.withSpawned [⟨name, p, key⟩]) w₂
      refine ⟨⟨name, p, key⟩ :: added, w', .cons made out spawns, ?_⟩
      have count (k : Nat) : k + 1 + added.length = k + (added.length + 1) := by omega
      obtain rfl | ⟨name', rest, p', w₁', e, s₂, w₂', last, rfl, made', failed⟩ := ends
      · exact .inl rfl
      · refine .inr ⟨name', rest, p', w₁', e, s₂, w₂', last, rfl, ?_, ?_⟩
        · simpa [withSpawned, count] using made'
        · rwa [withSpawned_withSpawned] at failed

/-- Spawning is a way from one world to another. -/
lemma Spawns.reaches (h : Spawns create n s w added w') : Reaches w w' := by
  induction h with
  | nil => exact .refl
  | @cons n s w w₁ w₂ w' name p key added calls made joined rest ih =>
    have added := s.withMade.addParticipant_respects w₁ respected_reaches p
    rw [joined] at added
    exact (respected_reaches.of_perform made).trans (added.trans ih)

end Simulation

/-! ## Who is registered then

Nobody removes anybody, and nobody registers anybody but itself. -/

section Mild

variable {w : World M}
  (guarded : ∀ g ∈ w.generators, g.KeepsTo fun _ => Request.Still)

include guarded

/-- A program that registers nobody changes nothing about who is registered. -/
lemma World.entries_perform {α : Type} {p : Program M α} {w' : World M} {a : α}
    (still : p.Uses Request.Still) (run : w.perform p = (a, w')) :
    w'.environment.entries = w.environment.entries := by
  have kept := (restraint_mild guarded fun _ => False).perform still fun _ => False.elim
  rwa [run] at kept

/-- A registration enters its participant, if it is not registered, and nobody else. -/
lemma World.call_register_mild {id : ParticipantId} (absent : w.environment.keyOf? id = none)
    (name : String) :
    ∃ admission w', w.call (.register id name) = (.ok admission, w') ∧
      admission.participant = id ∧ w'.environment.keyOf? id = some admission.key ∧
      w'.environment.entries = w.environment.entries ++ [⟨⟨id, name⟩, admission.key⟩] := by
  have kept : (w.generate ⟨id, name⟩).2.environment.entries = w.environment.entries :=
    (restraint_mild guarded fun _ => False).generate
      (fun g mem services => guarded g mem ⟨id, name⟩ services) fun _ => False.elim
  have still : (w.generate ⟨id, name⟩).2.environment.keyOf? id = none :=
    (Environment.keyOf?_congr kept id).trans absent
  refine ⟨_, _, call_register_of_absent absent still, rfl, ?_, ?_⟩
  · exact (@Environment.keyOf?_enter _ ⟨id, name⟩ _ still id).trans (if_pos rfl)
  · rw [← kept]
    exact Environment.entries_enter

/-- A participant whose hook keeps to its own registration is entered when it joins, and when it
does not join nobody is. -/
lemma Simulation.addParticipant_mild {s : Simulation M T} {p : Participant M T}
    (runnable : ¬s.status.isOver = true)
    (hook : ∀ h : Handle, h.id = p.id → (p.initialise h).Uses (Request.Mild (· = p.id))) :
    let out := s.addParticipant w p
    (∃ key, out.result = .ok p.id ∧
      out.simulation = { s with participants := s.participants ++ [⟨p, key, false⟩] } ∧
      out.world.environment.entries = w.environment.entries ++ [⟨⟨p.id, p.name⟩, key⟩]) ∨
    ∃ e, out.result = .error e ∧ out.simulation = s ∧
      out.world.environment.entries = w.environment.entries := by
  intro out
  cases held : w.environment.keyOf? p.id with
  | some key =>
    have refused : out = _ := addParticipant_of_refused runnable (call_register_of_some held)
    rw [refused]
    exact .inr ⟨_, rfl, rfl, rfl⟩
  | none =>
    obtain ⟨admission, w₁, registered, self, entered, grown⟩ :=
      World.call_register_mild guarded held p.name
    rcases initialised : w₁.perform (p.initialise (.ofAdmission admission)) with ⟨ending, w₂⟩
    have guarded₁ : ∀ g ∈ w₁.generators, g.KeepsTo fun _ => Request.Still := by
      rw [(respected_reaches.of_call registered).alike.generators]
      exact guarded
    -- the hook can only register the participant that has just been entered
    have kept : w₂.environment.entries = w₁.environment.entries := by
      have kept := (restraint_mild guarded₁ (· = p.id)).perform
        (hook (.ofAdmission admission) self) (by rintro _ rfl; rw [entered]; nofun)
      rwa [initialised] at kept
    cases guarded : ending.guarded with
    | ok u =>
      have joined : out = _ := addParticipant_of_joined runnable registered initialised guarded
      rw [joined]
      exact .inl ⟨admission.key, rfl, rfl, kept.trans grown⟩
    | error cause =>
      have failed : out = _ := addParticipant_of_failed runnable registered initialised guarded
      rw [failed]
      refine .inr ⟨_, rfl, rfl, ?_⟩
      have current := (Environment.keyOf?_congr kept p.id).trans entered
      rw [call_deregister_of_eq current, Environment.entries_leave, kept, grown, List.filter_append]
      have others : ∀ r ∈ w.environment.entries, (r.id != p.id) = true := by
        intro r mem
        rw [bne_iff_ne]
        rintro same
        exact Environment.keyOf?_eq_none_iff.1 held (same ▸ List.mem_map_of_mem mem)
      rw [List.filter_eq_self.2 others]
      simp [Entry.id]

section Factory

variable {create : Factory M T}
  (factory : ∀ n id name, (create n id name).Uses Request.Still)
  (hooks : ∀ n id name w, let p := (World.perform w (create n id name)).1
    ∀ h : Handle, h.id = p.id → (p.initialise h).Uses (Request.Mild (· = p.id)))
  {n : Nat} {s : Simulation M T} (runnable : ¬s.status.isOver = true)

include factory hooks runnable

/-- Whoever is created and added is entered when it joins, and when it does not join nobody is. -/
lemma Simulation.create_mild {name : String} {p : Participant M T} {w₁ : World M}
    (made : w.perform (create n (s.participantIds s.participantsMade) name) = (p, w₁)) :
    let out := s.withMade.addParticipant w₁ p
    Reaches w out.world ∧
      ((∃ key, out.result = .ok p.id ∧ out.simulation = s.withSpawned [⟨name, p, key⟩] ∧
        out.world.environment.entries = w.environment.entries ++ [⟨⟨p.id, p.name⟩, key⟩]) ∨
      ∃ e, out.result = .error e ∧ out.simulation = s.withMade ∧
        out.world.environment.entries = w.environment.entries) := by
  have created := World.entries_perform guarded (factory n _ name) made
  have reached : Reaches w w₁ := respected_reaches.of_perform made
  have hook := hooks n (s.participantIds s.participantsMade) name w
  rw [made] at hook
  refine ⟨reached.trans (s.withMade.addParticipant_respects w₁ respected_reaches p), ?_⟩
  rw [← created]
  exact addParticipant_mild (reached.alike.generators ▸ guarded) (s := s.withMade) runnable hook

/-- Whoever is spawned is entered, in that order, and nobody else. -/
lemma Simulation.Spawns.entries {w' : World M} {added : List (Spawned M T)}
    (h : Spawns create n s w added w') :
    w'.environment.entries = w.environment.entries ++ added.map Spawned.entry := by
  induction h with
  | nil => rw [List.map_nil, List.append_nil]
  | cons made joined rest ih =>
    obtain ⟨reached, outcome⟩ := create_mild guarded factory hooks runnable made
    rw [joined] at reached outcome
    obtain ⟨key', -, simulation, entered⟩ | ⟨e, failed, -⟩ := outcome
    · -- the key of the slot is the key of the registration
      obtain rfl := by
        have slots := List.append_cancel_left (congrArg Simulation.participants simulation)
        exact congrArg ParticipantSlot.key (List.singleton_inj.1 slots)
      have spawned := ih (reached.alike.generators ▸ guarded) runnable
      rw [spawned, entered, List.append_assoc]
      rfl
    · cases failed

end Factory

end Mild

/-! ## The prefix that is kept -/

/-- Whoever has been spawned and is registered is stepped in the next tick, after those that were
there before. -/
lemma Simulation.stepped_of_spawned [Time T] {s : Simulation M T} {w : World M}
    {slots : List (ParticipantSlot M T)} {before : List Entry} {added : List (Spawned M T)}
    (agrees : w.environment.Agrees)
    (participants : s.participants = slots ++ added.map Spawned.slot)
    (entries : w.environment.entries = before ++ added.map Spawned.entry) {clock : Clock T}
    (opens : s.opens? = some clock) :
    stepped (s.runTick w).calls =
      ((slots.filter fun slot => !slot.failed && slot.isLive w.environment) ++
        added.map Spawned.slot).map ParticipantSlot.incarnation := by
  have live : ∀ slot ∈ added.map Spawned.slot,
      (!slot.failed && slot.isLive w.environment) = true := by
    intro slot mem
    obtain ⟨y, spawned, rfl⟩ := List.mem_map.1 mem
    have held : w.environment.keyOf? y.id = some y.key := by
      rw [Environment.keyOf?_eq_some_iff agrees.ids, entries]
      exact ⟨y.entry, List.mem_append_right _ (List.mem_map_of_mem spawned), rfl, rfl⟩
    exact Environment.isCurrent_iff.2 held
  rw [(runTick_stepped opens).1, participants, List.filter_append, List.filter_eq_self.2 live]

/-- Participants are created one after another, each with the next identifier of the simulation, and
added. If all of them can be added, then the answer is the identifiers that they report. Otherwise
the last one that is created is the first that cannot be added, the answer is its failure, it is
registered only if it was before, and no later name matters. Either way those that could be added,
and nobody else, are in the slots of the simulation, in the registrations and in the members list,
behind all who were there before and in the order of their names, and the next tick steps them.
Neither the factory nor the generators register or remove anybody, and no hook removes anybody or
registers others. -/
theorem spawning_keeps_prefix [Time T] (x : Plan M T)
    (guarded : ∀ gen ∈ x.generators, gen.KeepsTo fun _ => Request.Still)
    (history : List (DriverCall M T))
    (runnable : ¬(x.after history).simulation.status.isOver = true) (create : Factory M T)
    (factory : ∀ n id name, (create n id name).Uses Request.Still)
    (hooks : ∀ n id name w, let p := (World.perform w (create n id name)).1
      ∀ h : Handle, h.id = p.id → (p.initialise h).Uses (Request.Mild (· = p.id)))
    (names : List String) :
    let g := x.after history
    let out := g.simulation.spawn g.world create names
    ∃ (added : List (Spawned M T)) (w : World M),
      Spawns create 0 g.simulation g.world added w ∧
      out.simulation.participants = g.simulation.participants ++ added.map Spawned.slot ∧
      out.world.environment.entries = g.environment.entries ++ added.map Spawned.entry ∧
      out.world.environment.members =
        g.environment.members ++ added.map (fun y => y.entry.member) ∧
      (∀ clock, out.simulation.opens? = some clock →
        stepped (out.simulation.runTick out.world).calls =
          ((g.simulation.participants.filter fun slot =>
              !slot.failed && slot.isLive out.world.environment) ++
            added.map Spawned.slot).map ParticipantSlot.incarnation) ∧
      ((names = added.map Spawned.name ∧ out.result = .ok (added.map Spawned.id) ∧
          out.simulation = g.simulation.withSpawned added) ∨
        ∃ name rest p w₁ e, names = added.map Spawned.name ++ name :: rest ∧
          w.perform (create added.length (g.simulation.participantIds
            (g.simulation.participantsMade + added.length)) name) = (p, w₁) ∧
          ((g.simulation.withSpawned added).withMade.addParticipant w₁ p).result = .error e ∧
          out.result = .error e ∧
          out.simulation = (g.simulation.withSpawned added).withMade ∧
          out.world.environment.isRegistered p.id = w.environment.isRegistered p.id ∧
          ∀ others, g.simulation.spawn g.world create
            (added.map Spawned.name ++ name :: others) = out) := by
  intro g out
  have agrees : g.environment.Agrees := x.agrees_after history
  have guarded : ∀ gen ∈ g.world.generators, gen.KeepsTo fun _ => Request.Still := by
    rw [x.generators_after history]
    exact guarded
  obtain ⟨added, w, spawns, ends⟩ := exists_spawns create 0 g.simulation g.world names
  have entered := spawns.entries guarded factory hooks runnable
  -- both ways to end leave the slots and the registrations as the last success has left them
  have lists (since : Reaches w out.world)
      (slots : out.simulation.participants = (g.simulation.withSpawned added).participants)
      (kept : out.world.environment.entries = w.environment.entries) :
      out.world.environment.members =
        g.environment.members ++ added.map (fun y => y.entry.member) ∧
      ∀ clock, out.simulation.opens? = some clock →
        stepped (out.simulation.runTick out.world).calls =
          ((g.simulation.participants.filter fun slot =>
              !slot.failed && slot.isLive out.world.environment) ++
            added.map Spawned.slot).map ParticipantSlot.incarnation := by
    have whole : Reaches g.world out.world := spawns.reaches.trans since
    have agrees' : out.world.environment.Agrees := whole.agrees agrees
    refine ⟨?_, fun clock => stepped_of_spawned agrees' slots (kept.trans entered)⟩
    rw [agrees'.members, kept, entered, List.map_append, agrees.members, List.map_map]
    rfl
  obtain rfl | ⟨name, rest, p, w₁, e, s₂, w₂, last, rfl, made, failed⟩ := ends
  · obtain ⟨calls, eq⟩ := spawns.spawnFrom_eq
    have spawned : out = _ := eq
    obtain ⟨members, steps⟩ := lists (by rw [spawned]) (by rw [spawned]) (by rw [spawned])
    refine ⟨added, w, spawns, by rw [spawned]; rfl, by rw [spawned]; exact entered, members, steps,
      .inl ⟨rfl, ?_⟩⟩
    rw [spawned]
    exact ⟨rfl, rfl⟩
  · rw [Nat.zero_add] at made
    obtain ⟨calls, eq⟩ := spawns.spawnFrom_error (by rwa [Nat.zero_add]) failed
    have stopped : out = _ := eq rest
    have guarded₁ : ∀ gen ∈ w.generators, gen.KeepsTo fun _ => Request.Still :=
      spawns.reaches.alike.generators ▸ guarded
    have outcome := create_mild guarded₁ factory hooks (s := g.simulation.withSpawned added)
      runnable made
    rw [failed] at outcome
    obtain ⟨since, ⟨key, ok, -⟩ | ⟨e', -, same, kept⟩⟩ := outcome
    · cases ok
    · obtain rfl : s₂ = (g.simulation.withSpawned added).withMade := same
      obtain ⟨members, steps⟩ := lists (by rw [stopped]; exact since)
        (by rw [stopped]; rfl) (by rw [stopped]; exact kept)
      refine ⟨added, w, spawns, by rw [stopped]; rfl, by rw [stopped]; exact kept.trans entered,
        members, steps, .inr ⟨name, rest, p, w₁, e, rfl, made, by rw [failed], ?_⟩⟩
      rw [stopped]
      refine ⟨rfl, rfl, ?_, eq⟩
      rw [Environment.isRegistered_eq, Environment.isRegistered_eq, Environment.keyOf?_congr kept]

section Crew

/-- A participant that has its services made anew when it joins, and then fails if it is clumsy. -/
def sailor (id : ParticipantId) (name : String) : Participant Key IntegerTime where
  id := id
  name := name
  initialise h := .ask (.regenerate h.id h.key) fun _ =>
    .done (if name = "clumsy" then .failed (.failed "no") else .fine)
  step _ := .done .fine

/-- A factory of such participants. -/
def crew : Factory Key IntegerTime := fun _ id name => .done (sailor id name)

/-- A simulation whose identifiers leave room for those given by hand. -/
def roomy : Plan Key IntegerTime := { badged with participantIds := fun n => ⟨n + 2⟩ }

/-- The first of three joins whom the second fails to follow, and the third is not created. -/
theorem spawning_of_crew :
    let history : List (DriverCall Key IntegerTime) := [.add settled]
    let g := roomy.after history
    let out := g.simulation.spawn g.world crew ["able", "clumsy", "late"]
    ¬g.simulation.status.isOver = true ∧
      out.result = .error (.initialise (.participant ⟨3⟩ "clumsy") (.failed "no")) ∧
      out.world.environment.members = [⟨⟨1⟩, "settled"⟩, ⟨⟨2⟩, "able"⟩] ∧
      stepped (out.simulation.runTick out.world).calls =
        [⟨⟨1⟩, "settled", ⟨1⟩⟩, ⟨⟨2⟩, "able", ⟨2⟩⟩] ∧
      ∀ others, g.simulation.spawn g.world crew ("able" :: "clumsy" :: others) = out := by
  intro history g out
  have guarded : ∀ gen ∈ roomy.generators, gen.KeepsTo fun _ => Request.Still := by
    intro gen mem member services
    obtain rfl := List.mem_singleton.1 mem
    exact trivial
  have hooks : ∀ n id name w, let p := (World.perform w (crew n id name)).1
      ∀ h : Handle, h.id = p.id → (p.initialise h).Uses (Request.Mild (· = p.id)) := by
    intro n id name w p h _
    exact ⟨trivial, fun _ => trivial⟩
  have runnable : ¬g.simulation.status.isOver = true := by decide +kernel
  have result : out.result = .error (.initialise (.participant ⟨3⟩ "clumsy") (.failed "no")) := by
    decide +kernel
  have members : out.world.environment.members = [⟨⟨1⟩, "settled"⟩, ⟨⟨2⟩, "able"⟩] := by
    decide +kernel
  refine ⟨runnable, result, members, by decide +kernel, ?_⟩
  obtain ⟨added, w, -, -, -, grown, -, ends⟩ := spawning_keeps_prefix roomy guarded history runnable
    crew (fun _ _ _ => trivial) hooks ["able", "clumsy", "late"]
  have spelled : out = (roomy.after history).simulation.spawn (roomy.after history).world crew
      ["able", "clumsy", "late"] := rfl
  rw [← spelled] at grown ends
  have one : added.length = 1 := by
    have before : (roomy.after history).environment.members = [⟨⟨1⟩, "settled"⟩] := by
      decide +kernel
    rw [members, before] at grown
    have lengths := congrArg List.length grown
    rw [List.length_append, List.length_map] at lengths
    exact (Nat.add_left_cancel lengths).symm
  obtain ⟨y, rfl⟩ := List.length_eq_one_iff.1 one
  obtain ⟨-, ok, -⟩ | ⟨name, rest, p, w₁, e, parts, -, -, -, -, -, same⟩ := ends
  · cases result.symm.trans ok
  · obtain ⟨named, rfl, -⟩ : y.name = "able" ∧ name = "clumsy" ∧ rest = ["late"] := by
      simpa [eq_comm] using parts
    intro others
    rw [← same others, List.map_singleton, named]
    rfl

end Crew

/-- Participants that ask for nothing. -/
def idlers : Factory Bool IntegerTime := fun _ id name => .done
  { id := id
    name := name
    initialise := fun _ => .done .fine
    step := fun _ => .done .fine }

/-- Nobody is registered, and one participant is spawned: it cannot be added behind the registration
that the generator makes for it, and is registered afterwards all the same. -/
theorem spawning_behind_sneaking :
    let g := sneaking.after []
    let out := g.simulation.spawn g.world idlers ["idler"]
    ¬g.simulation.status.isOver = true ∧ g.environment.members = [] ∧
      (∀ n id name, (idlers n id name).Uses fun _ => False) ∧
      (∀ n id name w h, ((World.perform w (idlers n id name)).1.initialise h).Uses fun _ => False) ∧
      out.result = .error (.environment (.alreadyRegistered (sneaking.participantIds 0))) ∧
      out.world.environment.members = [⟨sneaking.participantIds 0, "sneak"⟩] := by
  intro g out
  exact ⟨by decide, by decide, fun _ _ _ => trivial, fun _ _ _ _ _ => trivial, by decide, by decide⟩

end Cadence
