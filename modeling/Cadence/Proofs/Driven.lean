import Cadence.Proofs.Steps
import Mathlib.Data.List.Nodup

/-!
# Who is driven

Three things must agree over a history: the keys that the environment has issued, the slots that a
simulation keeps, and the failures that its slots remember. `Tracked` says how, and every call of
the driver preserves it. A tick then steps exactly those that have joined, are still registered as
they joined, and have not failed (`stepped_eq_filter_joined`).
-/

namespace Cadence

variable {M T α : Type}

open HookCall Simulation

/-! ## What a simulation keeps track of -/

/-- Who has joined is live as long as its key is the current one. -/
lemma Incarnation.isLive_iff {i : Incarnation} {e : Environment} :
    i.isLive e = true ↔ e.keyOf? i.id = some i.key :=
  Environment.isCurrent_iff

/-- One whose registration is not live any more is never live again. -/
lemma Incarnation.isLive_of_later {i : Incarnation} {e e' : Environment} (later : e.Later e')
    (distinct : Function.Injective e.supply.draw) (drawn : ∃ n < e.drawn, i.key = e.supply.draw n)
    (live : i.isLive e' = true) : i.isLive e = true := by
  obtain ⟨n, before, key⟩ := drawn
  rw [isLive_iff, key] at live ⊢
  exact later.retired distinct i.id n before live

/-- How the slots of a simulation, the environment and the hooks called so far agree: the slots are
of those that have joined, each under a key of its own drawn before; who has no slot is not
registered any more; and while the run goes on, the slots remember who has failed. -/
structure Tracked (s : Simulation M T) (w : World M) (calls : List (HookCall T)) : Prop where
  slots : (s.participants.map ParticipantSlot.incarnation).Sublist (joined calls)
  keys : ((joined calls).map Incarnation.key).Nodup
  drawn : ∀ i ∈ joined calls, ∃ n < w.environment.drawn, i.key = w.environment.supply.draw n
  dropped : ∀ i ∈ joined calls, i.isLive w.environment = true →
    i ∈ s.participants.map ParticipantSlot.incarnation
  marks : ¬s.status.isOver = true → ∀ slot ∈ s.participants,
    (slot.failed = true ↔ slot.incarnation ∈ failed calls)
  failures : ∀ i ∈ failed calls, i ∈ joined calls

namespace Tracked

variable {s s' : Simulation M T} {w w' : World M} {calls new : List (HookCall T)}

/-- The keys of all who have joined have been drawn. -/
lemma drawn_later (h : Tracked s w calls) (later : w.environment.Later w'.environment) :
    ∀ i ∈ joined calls, ∃ n < w'.environment.drawn, i.key = w'.environment.supply.draw n := by
  intro i mem
  obtain ⟨n, before, key⟩ := h.drawn i mem
  exact ⟨n, Nat.lt_of_lt_of_le before later.drawn, later.supply ▸ key⟩

/-- Nobody comes to life again. -/
lemma live_later (h : Tracked s w calls) (distinct : Function.Injective w.environment.supply.draw)
    (later : w.environment.Later w'.environment) {i : Incarnation} (mem : i ∈ joined calls)
    (live : i.isLive w'.environment = true) : i.isLive w.environment = true :=
  Incarnation.isLive_of_later later distinct (h.drawn i mem) live

/-- Time passes: nobody joins, and no participant is called. -/
lemma later (h : Tracked s w calls) (distinct : Function.Injective w.environment.supply.draw)
    (later : w.environment.Later w'.environment) (same : s'.participants = s.participants)
    (status : ¬s'.status.isOver = true → ¬s.status.isOver = true) (unjoined : joined new = [])
    (unfailed : failed new = []) : Tracked s' w' (calls ++ new) := by
  have joined_eq : joined (calls ++ new) = joined calls := by
    rw [joined_append, unjoined, List.append_nil]
  have failed_eq : failed (calls ++ new) = failed calls := by
    rw [failed_append, unfailed, List.append_nil]
  constructor
  · rw [same, joined_eq]
    exact h.slots
  · rw [joined_eq]
    exact h.keys
  · rw [joined_eq]
    exact h.drawn_later later
  · rw [same, joined_eq]
    exact fun i mem live => h.dropped i mem (h.live_later distinct later mem live)
  · rw [same, failed_eq]
    exact fun runnable => h.marks (status runnable)
  · rw [joined_eq, failed_eq]
    exact h.failures

/-- Somebody joins under a new key. -/
lemma join (h : Tracked s w calls) (distinct : Function.Injective w.environment.supply.draw)
    (later : w.environment.Later w'.environment) {p : Participant M T} {key : Key} {n : Nat}
    (since : w.environment.drawn ≤ n) (before : n < w'.environment.drawn)
    (drawn : key = w.environment.supply.draw n)
    (grown : s'.participants = s.participants ++ [⟨p, key, false⟩]) (status : s'.status = s.status)
    (one : joined new = [⟨p.id, p.name, key⟩]) (unfailed : failed new = []) :
    Tracked s' w' (calls ++ new) := by
  have joined_eq : joined (calls ++ new) = joined calls ++ [⟨p.id, p.name, key⟩] := by
    rw [joined_append, one]
  have failed_eq : failed (calls ++ new) = failed calls := by
    rw [failed_append, unfailed, List.append_nil]
  -- all earlier keys were drawn before this one
  have fresh : ∀ i ∈ joined calls, i.key ≠ key := by
    intro i mem same
    obtain ⟨m, hm, key_eq⟩ := h.drawn i mem
    have equal : m = n := distinct (key_eq.symm.trans (same.trans drawn))
    omega
  constructor
  · rw [grown, joined_eq, List.map_append]
    exact h.slots.append (List.Sublist.refl _)
  · rw [joined_eq, List.map_append, List.nodup_append]
    refine ⟨h.keys, List.nodup_singleton _, ?_⟩
    intro key' mem _ mem' same
    obtain ⟨i, joined, rfl⟩ := List.mem_map.1 mem
    exact fresh i joined (same.trans (List.mem_singleton.1 mem'))
  · rw [joined_eq]
    intro i mem
    rcases List.mem_append.1 mem with old | new
    · exact h.drawn_later later i old
    · rw [List.mem_singleton.1 new, later.supply]
      exact ⟨n, before, drawn⟩
  · rw [grown, joined_eq, List.map_append]
    intro i mem live
    rcases List.mem_append.1 mem with old | new
    · exact List.mem_append_left _ (h.dropped i old (h.live_later distinct later old live))
    · exact List.mem_append_right _ new
  · rw [grown, status, failed_eq]
    intro runnable slot mem
    rcases List.mem_append.1 mem with old | new
    · exact h.marks runnable slot old
    · rw [List.mem_singleton.1 new]
      exact ⟨nofun, fun bad => absurd rfl (fresh _ (h.failures _ bad))⟩
  · rw [joined_eq, failed_eq]
    exact fun i bad => List.mem_append_left _ (h.failures i bad)

end Tracked

/-- A participant joins exactly if it is added successfully. -/
lemma Tracked.add {s : Simulation M T} {w : World M} {calls : List (HookCall T)}
    (h : Tracked s w calls) (distinct : Function.Injective w.environment.supply.draw)
    (p : Participant M T) :
    Tracked (s.addParticipant w p).simulation (s.addParticipant w p).world
      (calls ++ (s.addParticipant w p).calls) := by
  have later := (s.addParticipant_respects w World.respected_reaches p).later
  have adds := s.addParticipant_adds w p
  generalize s.addParticipant w p = out at later adds ⊢
  cases adds with
  | unrunnable | refused => exact h.later distinct later rfl id rfl rfl
  | joined registered initialised fine =>
    obtain ⟨n, since, before, key⟩ := World.call_register_ok registered
    -- the hook may have registered others, so that more keys are drawn by now
    have drawn := (World.respected_reaches.of_perform initialised).later.drawn
    refine h.join distinct later since (Nat.lt_of_lt_of_le before drawn) key rfl rfl ?_ rfl
    simp [incarnations, joins, HookEnd.failure?, fine, incarnation?]
  | failed registered initialised bad =>
    refine h.later distinct later rfl id ?_ rfl
    simp [incarnations, joins, HookEnd.failure?, bad]

/-! ## Ticks -/

namespace Tracked

variable {s s' : Simulation M T} {w w' : World M} {calls : List (HookCall T)}

/-- The participants of a tick are those that are still registered as they joined. -/
lemma enter (h : Tracked s w calls) {entrants : List (ParticipantSlot M T)}
    (live : entrants = s.participants.filter fun slot => slot.isLive w.environment) :
    (entrants.map ParticipantSlot.incarnation).Sublist (joined calls) ∧
      ∀ i ∈ joined calls, i.isLive w.environment = true →
        i ∈ entrants.map ParticipantSlot.incarnation := by
  rw [live]
  refine ⟨(List.filter_sublist.map _).trans h.slots, fun i mem live => ?_⟩
  obtain ⟨slot, kept, rfl⟩ := List.mem_map.1 (h.dropped i mem live)
  exact List.mem_map_of_mem (List.mem_filter.2 ⟨kept, live⟩)

/-- A tick steps its participants, and the slots that it leaves remember who has failed. -/
lemma drive (h : Tracked s w calls) (distinct : Function.Injective w.environment.supply.draw)
    (runnable : ¬s.status.isOver = true) {entrants : List (ParticipantSlot M T)}
    (live : entrants = s.participants.filter fun slot => slot.isLive w.environment)
    {ctx : TickContext T} {qs : List (Stepped (ParticipantSlot M T))}
    {out : Outcome M T (TickSummary T)} (drives : Drives entrants w ctx qs out) :
    Tracked out.simulation out.world (calls ++ out.calls) := by
  obtain ⟨rest, eq, silent⟩ := drives.calls
  obtain ⟨listed, kept⟩ := h.enter live
  have joined_eq : joined (calls ++ out.calls) = joined calls := by
    rw [eq, joined_append, joined_append, joined_stepCalls, joined, joined, silent.incarnations_eq,
      List.append_nil, List.append_nil]
  have failed_eq : failed (calls ++ out.calls) = failed calls ++ failed (stepCalls ctx qs) := by
    rw [eq, failed_append, failed_append, failed, failed, failed, silent.incarnations_eq,
      List.append_nil]
  have mem_entrants : ∀ q ∈ qs, q.1 ∈ entrants := by
    intro q step
    rw [← drives.entered]
    exact List.mem_map_of_mem step
  constructor
  · rw [drives.kept, joined_eq]
    exact listed
  · rw [joined_eq]
    exact h.keys
  · rw [joined_eq]
    exact h.drawn_later drives.later
  · rw [drives.kept, joined_eq]
    exact fun i mem still => kept i mem (h.live_later distinct drives.later mem still)
  · rw [failed_eq]
    intro goesOn slot mem
    rw [drives.marked goesOn] at mem
    obtain ⟨q, step, same, mark⟩ := mem_markFailed mem
    have before : q.1 ∈ s.participants := by
      have entrant := mem_entrants q step
      rw [live] at entrant
      exact (List.mem_filter.1 entrant).1
    -- joined under different keys, no two slots are of one participant
    have alone : ∀ q' ∈ qs, q'.1.incarnation = q.1.incarnation → q' = q := by
      have nodup : (qs.map fun q => q.1.incarnation).Nodup := by
        rw [← Function.comp_def, ← List.map_map, drives.entered]
        exact (h.keys.of_map _).sublist listed
      exact fun q' step' equal => List.inj_on_of_nodup_map nodup step' step equal
    rw [mark, same, Bool.or_eq_true, h.marks runnable q.1 before, List.mem_append,
      mem_failed_stepCalls]
    refine or_congr_right ⟨fun bad => ⟨q, step, bad, rfl⟩, ?_⟩
    rintro ⟨q', step', bad, equal⟩
    rwa [← alone q' step' equal]
  · rw [joined_eq, failed_eq]
    intro i bad
    rcases List.mem_append.1 bad with old | new
    · exact h.failures i old
    · obtain ⟨q, step, -, rfl⟩ := mem_failed_stepCalls.1 new
      exact listed.subset (List.mem_map_of_mem (mem_entrants q step))

/-- A tick keeps the book of who is driven. -/
lemma tick [Time T] (h : Tracked s w calls)
    (distinct : Function.Injective w.environment.supply.draw) :
    Tracked (s.runTick w).simulation (s.runTick w).world (calls ++ (s.runTick w).calls) := by
  obtain ⟨-, same, goesOn, silent, later⟩ | ⟨clock, opens, qs, drives⟩ := s.runTick_spec w
  · rw [silent]
    exact h.later distinct later same goesOn rfl rfl
  · exact h.drive distinct (opens?_eq_some_iff.1 opens).1 rfl drives

end Tracked

/-! ## Histories -/

namespace Progress

variable [Time T]

/-- Every call of the driver keeps track of who has joined and who has failed. -/
theorem tracked_next {g : Progress M T} (h : Tracked g.simulation g.world g.calls)
    (distinct : Function.Injective g.environment.supply.draw) (c : DriverCall M T) :
    Tracked (g.next c).simulation (g.next c).world (g.next c).calls := by
  cases c with
  | add p => exact h.add distinct p
  | spawn create names =>
    have spawned : Tracked (g.next (.spawn create names)).simulation
        (g.next (.spawn create names)).world (g.next (.spawn create names)).calls ∧
        g.environment.Later (g.next (.spawn create names)).environment := spawnFrom_induction
      (P := fun s w calls => Tracked s w calls ∧ g.environment.Later w.environment)
      (fun s w calls p ⟨tracked, later⟩ => by
        have made := (w.perform_reaches p).later
        rw [← calls.append_nil]
        exact ⟨tracked.later (later.supply ▸ distinct) made rfl id rfl rfl, later.trans made⟩)
      (fun s w calls p ⟨tracked, later⟩ => by
        have added := (s.addParticipant_respects w World.respected_reaches p).later
        exact ⟨tracked.add (later.supply ▸ distinct) p, later.trans added⟩)
      g.calls ⟨h, .refl _⟩
    exact spawned.1
  | addPlugin p =>
    have silent := addPlugin_silent g.simulation g.world p
    exact h.later distinct (next_later g (.addPlugin p)) (addPlugin_participants _ _ p)
      (fun runnable => addPlugin_status (w := g.world) p ▸ runnable)
      (silent.incarnations_eq joins) (silent.incarnations_eq fails)
  | tick => exact h.tick distinct
  | finish =>
    have silent := finish_silent g.simulation g.world
    refine h.later distinct (next_later g .finish) (finish_participants _ _) (fun runnable => ?_)
      (silent.incarnations_eq joins) (silent.incarnations_eq fails)
    by_cases isOver : g.simulation.status.isOver = true
    · exact absurd ((congrArg (fun s => s.status.isOver) (finish_of_over isOver).1).trans isOver)
        runnable
    · exact isOver
  | outside p =>
    exact h.later distinct (g.world.perform_reaches p).later rfl id rfl rfl

/-- A history leads to a later environment. -/
lemma foldl_later (g : Progress M T) (history : List (DriverCall M T)) :
    g.environment.Later (history.foldl next g).environment :=
  foldl_induction (P := fun g' => g.environment.Later g'.environment) (.refl _)
    (fun g' c later => later.trans (g'.next_later c)) history

/-- A simulation is on track after every history. -/
theorem tracked_after {x : Plan M T} (distinct : Function.Injective x.supply.draw)
    (history : List (DriverCall M T)) :
    Tracked (x.after history).simulation (x.after history).world (x.after history).calls := by
  have start : Tracked x.start.simulation x.start.world x.start.calls :=
    ⟨.slnil, .nil, nofun, nofun, fun _ => nofun, nofun⟩
  have run := x.after_induction
    (P := fun g => Tracked g.simulation g.world g.calls ∧ x.start.environment.Later g.environment)
    ⟨start, .refl _⟩
    (fun g c ⟨tracked, later⟩ =>
      ⟨tracked_next tracked (later.supply ▸ distinct) c, later.trans (g.next_later c)⟩) history
  exact run.1

end Progress

/-! ## Who is stepped -/

/-- A sublist that has all members with a property gives, filtered by it, the same. -/
lemma filter_eq_of_sublist {l₁ l₂ : List α} (sub : l₁.Sublist l₂) (nodup : l₂.Nodup) {p : α → Bool}
    (all : ∀ a ∈ l₂, p a = true → a ∈ l₁) : l₂.filter p = l₁.filter p := by
  induction sub with
  | slnil => rfl
  | cons a sub ih =>
    obtain ⟨new, rest⟩ := List.nodup_cons.1 nodup
    have out : ¬p a = true := fun pa => new (sub.subset (all a List.mem_cons_self pa))
    rw [List.filter_cons_of_neg out]
    exact ih rest fun b mem => all b (List.mem_cons_of_mem _ mem)
  | cons_cons a sub ih =>
    obtain ⟨new, rest⟩ := List.nodup_cons.1 nodup
    have same := ih rest fun b mem pb =>
      (List.mem_cons.1 (all b (List.mem_cons_of_mem _ mem) pb)).resolve_left
        fun equal => new (equal ▸ mem)
    rw [List.filter_cons, List.filter_cons, same]

/-- A tick that opens steps exactly those that have joined, are still registered as they joined, and
have not failed before, each of them once and in the order in which they joined. They are the active
participants of the simulation just before, and the summary counts them. Who was not registered any
more at some time before is not among them, whatever has been registered since. Each call of a step
tells the end to which the program of that step was run, and what these programs do is all that is
done until plugins execute; in the sequential mode the steps take their turns. -/
theorem stepped_eq_filter_joined [Time T] (x : Plan M T)
    (distinct : Function.Injective x.supply.draw) (history : List (DriverCall M T))
    {clock : Clock T} (opens : (x.after history).simulation.opens? = some clock) :
    let g := x.after history
    let out := g.simulation.runTick g.world
    let done := g.simulation.stepDeedsIn g.world clock
    stepped out.calls =
      (joined g.calls).filter (fun i => i.isLive g.environment && !decide (i ∈ failed g.calls)) ∧
    (stepped out.calls).Nodup ∧
    g.simulation.activeParticipants g.environment = (stepped out.calls).map Incarnation.id ∧
    (∀ summary, out.result = .ok summary →
      summary.participantsStepped = (stepped out.calls).length) ∧
    (∀ before after, history = before ++ after → ∀ i ∈ joined (x.after before).calls,
      i.isLive (x.after before).environment = false → i ∉ stepped out.calls) ∧
    (∃ taken, Takes (g.world.openTick clock.ticks) clock.context
        (g.simulation.participants.filter fun slot => !slot.failed && slot.isLive g.environment)
        (out.calls.filter HookCall.steps) done taken ∧
      (g.simulation.driver.execution = .sequential → done = taken.flatMap TakenStep.path)) ∧
    (g.world.openTick clock.ticks).Along done (g.simulation.stepsIn g.world clock).2 ∧
    (g.simulation.driver.execution = .sequential →
      let turns := g.simulation.stepTurnsIn g.world clock
      out.calls.filter HookCall.steps = turns.map (StepTurn.call clock.context) ∧
        done = turns.flatMap (StepTurn.deeds clock.context)) := by
  intro g out done
  have tracked : Tracked g.simulation g.world g.calls := Progress.tracked_after distinct history
  have nodup : (joined g.calls).Nodup := tracked.keys.of_map _
  obtain ⟨slots, count⟩ := runTick_stepped (w := g.world) opens
  have driven : stepped out.calls = (joined g.calls).filter fun i =>
      i.isLive g.environment && !decide (i ∈ failed g.calls) := by
    rw [filter_eq_of_sublist tracked.slots nodup, List.filter_map]
    · refine slots.trans (congrArg _ (List.filter_congr fun slot mem => ?_))
      have mark := tracked.marks (opens?_eq_some_iff.1 opens).1 slot mem
      rw [Function.comp_apply, Bool.and_comm, ← Bool.decide_coe slot.failed]
      simp only [mark]
      rfl
    · intro i mem both
      exact tracked.dropped i mem (Bool.and_eq_true_iff.1 both).1
  have called : out.calls.filter HookCall.steps =
      stepCalls clock.context (g.simulation.stepsIn g.world clock).1 :=
    (runTick_ticks opens).calls.1
  refine ⟨driven, driven ▸ nodup.filter _, ?_, count, ?_, called ▸ stepsIn_takes _ _ _,
    stepDeedsIn_along _ _ _, fun sequential => called ▸ stepTurnsIn_spec _ _ _ sequential⟩
  · rw [slots, activeParticipants, List.map_map]
    rfl
  · -- who is stepped is live now, and so has been live ever since it joined
    rintro before after rfl i mem dead stepped
    rw [driven] at stepped
    have live := (Bool.and_eq_true_iff.1 (List.mem_filter.1 stepped).2).1
    have since : (x.after before).environment.Later g.environment := by
      have later := Progress.foldl_later (x.after before) after
      rwa [← Plan.after_append] at later
    have supply : (x.after before).environment.supply = x.supply :=
      (Progress.foldl_later x.start before).supply
    have drawn := (Progress.tracked_after distinct before).drawn i mem
    have lived := Incarnation.isLive_of_later since (supply ▸ distinct) drawn live
    rw [dead] at lived
    cases lived

section Rejoining

/-- A participant that stays. -/
def settled : Participant Key IntegerTime where
  id := ⟨1⟩
  name := "settled"
  initialise _ := .done .fine
  step _ := .done .fine

/-- A participant that leaves in its step, and whose identifier is registered again at once. -/
def restless : Participant Key IntegerTime where
  id := ⟨2⟩
  name := "restless"
  initialise handle := .ask (.keep fun _ => handle.key) fun _ => .done .fine
  step _ := .ask .remembered fun key => .ask (.deregister ⟨2⟩ key) fun _ =>
    .ask (.register ⟨2⟩ "restless") fun _ => .done .fine

/-- A simulation without handlers, generators or services of its own. -/
def plain : Plan Key IntegerTime where
  registry := {}
  services := {}
  supply := .counting
  generators := []
  nesting := 1
  database := {}
  operator := {}
  memory := ⟨0⟩
  clock := .new
  driver := {}
  schedule _ := []
  participantIds n := ⟨n⟩
  pluginIds n := ⟨n⟩

/-- The second tick steps who has stayed, although both identifiers are registered. -/
theorem stepped_rejoining :
    let history : List (DriverCall Key IntegerTime) := [.add settled, .add restless, .tick]
    let g := plain.after history
    Function.Injective plain.supply.draw ∧ g.simulation.opens? = some ⟨⟨2⟩, 2⟩ ∧
      g.environment.keyOf? ⟨2⟩ = some ⟨3⟩ ∧
      joined g.calls = [⟨⟨1⟩, "settled", ⟨1⟩⟩, ⟨⟨2⟩, "restless", ⟨2⟩⟩] ∧
      stepped (g.simulation.runTick g.world).calls = [⟨⟨1⟩, "settled", ⟨1⟩⟩] := by
  intro history g
  have distinct : Function.Injective plain.supply.draw := fun _ _ => KeySupply.counting_injective
  have opens : g.simulation.opens? = some ⟨⟨2⟩, 2⟩ := by decide
  refine ⟨distinct, opens, by decide, by decide, ?_⟩
  rw [(stepped_eq_filter_joined plain distinct history opens).1]
  decide

end Rejoining

end Cadence
