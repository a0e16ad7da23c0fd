import Cadence.Proofs.Abreast
import Cadence.Proofs.Setup
import Cadence.Proofs.Tick

/-!
# The ticks of a demonstration

A tick of a demonstration goes well, whether its walkers step in turn or side by side: every walker
takes the next step of its course, the plugins execute, nothing fails, and the next tick begins in
the same situation with one tick more on the clock (`Afoot.tick`). How a tick in which nothing fails
comes out is said for all simulations first (`Simulation.Ticks.of_fine`).
-/

namespace Cadence

namespace Simulation

variable {M T : Type} {ctx : TickContext T}

/-! ## Steps that end well -/

/-- The slots of a tick in which every step has ended well. -/
def allFine (slots : List (ParticipantSlot M T)) : List (Stepped (ParticipantSlot M T)) :=
  slots.map fun slot => (slot, some .fine)

variable {slots : List (ParticipantSlot M T)}

/-- Where all steps end well there are no failures. -/
lemma stepFailures_allFine : stepFailures (allFine slots) = [] := by
  rw [stepFailures, allFine, List.filterMap_map]
  exact List.filterMap_eq_nil_iff.2 fun _ _ => rfl

/-- Nobody is marked then. -/
lemma markFailed_allFine : markFailed (allFine slots) = slots := by
  rw [markFailed, allFine, List.map_map]
  exact List.map_id slots

/-- Everybody has been called. -/
lemma length_stepCalls_allFine : (stepCalls ctx (allFine slots)).length = slots.length := by
  rw [stepCalls, allFine, List.filterMap_map]
  show (slots.filterMap (some ∘ fun slot =>
    (⟨slot.component, some slot.key, .step, some ctx, .fine⟩ : HookCall T))).length = slots.length
  rw [List.filterMap_eq_map, List.length_map]

/-- Everybody with a good end is everybody stepped well. -/
lemma zip_allFine : slots.zip (slots.map fun _ => some .fine) = allFine slots :=
  List.map_prod_left_eq_zip.symm

variable {P : Nat → World M → Prop}

/-- What holds after every number of steps, all of them ending well, holds after all. -/
lemma runAll_of_fine {w w₁ : World M} {n : Nat} (alike : w.Alike w₁)
    (steps : ∀ (k : Nat) slot, slots[k]? = some slot → slot.failed = false ∧ ∀ w, P (n + k) w →
      ∃ w', w.perform (slot.participant.step ctx) = (.fine, w') ∧ P (n + k + 1) w')
    (start : P n w₁) :
    ∃ w', World.runAll (slots.map (stepThread ctx w)) w₁ =
      (slots.map fun _ => some .fine, w') ∧ P (n + slots.length) w' := by
  induction slots generalizing n w₁ with
  | nil => exact ⟨w₁, rfl, start⟩
  | cons slot rest ih =>
    obtain ⟨unfailed, step⟩ := steps 0 slot rfl
    -- the thread was made before the other steps, in a world that serves it alike
    obtain ⟨w₂, performed, next⟩ := step w₁ start
    have alike₂ : w.Alike w₂ := by
      have reaches := (World.perform_reaches w₁ (slot.participant.step ctx)).alike
      rw [performed] at reaches
      exact alike.trans reaches
    obtain ⟨w', ran, last⟩ := ih alike₂ (fun k other at_k => by
      rw [Nat.add_assoc n 1 k, Nat.add_comm 1 k]
      exact steps (k + 1) other at_k) next
    refine ⟨w', ?_, ?_⟩
    · rw [List.map_cons, World.runAll, run_stepThread ctx alike unfailed, performed]
      dsimp only
      rw [ran]
      rfl
    · rw [List.length_cons, Nat.add_comm rest.length 1, ← Nat.add_assoc]
      exact last

/-- Steps one after another all end well if each does so in the world that those before it leave. -/
theorem stepAll_of_fine {w : World M} (schedule : List Nat)
    (steps : ∀ (k : Nat) slot, slots[k]? = some slot → slot.failed = false ∧ ∀ w, P k w →
      ∃ w', w.perform (slot.participant.step ctx) = (.fine, w') ∧ P (k + 1) w')
    (start : P 0 w) :
    ∃ w', stepAll .sequential schedule ctx slots w = (allFine slots, w') ∧ P slots.length w' := by
  obtain ⟨w', ran, last⟩ := runAll_of_fine (.refl w)
    (fun k slot at_k => by rw [Nat.zero_add]; exact steps k slot at_k) start
  rw [Nat.zero_add] at last
  refine ⟨w', ?_, last⟩
  rw [stepAll]
  dsimp only
  rw [ran, zip_allFine]

/-- Steps side by side all end well if the threads do so under the schedule. -/
lemma stepAll_concurrent {w w' : World M} {schedule : List Nat}
    (ran : World.interleave schedule (slots.map (stepThread ctx w)) w =
      (slots.map fun _ => some .fine, w')) :
    stepAll .concurrent schedule ctx slots w = (allFine slots, w') := by
  rw [stepAll]
  dsimp only
  rw [ran, zip_allFine]

/-- A plugin whose execution ends well is followed by the others. -/
lemma executeAll_cons {slot : PluginSlot M T} {w w₁ : World M} (unfailed : slot.failed = false)
    (performed : w.perform (slot.plugin.execute ctx) = (.fine, w₁)) (policy : FailurePolicy)
    (rest : List (PluginSlot M T)) :
    executeAll policy ctx (slot :: rest) w =
      { executeAll policy ctx rest w₁ with
        slots := slot :: (executeAll policy ctx rest w₁).slots
        count := (executeAll policy ctx rest w₁).count + 1
        calls := slot.executed ctx .fine :: (executeAll policy ctx rest w₁).calls } := by
  rw [executeAll, unfailed, if_neg Bool.false_ne_true, performed]
  rfl

/-! ## A tick that goes well -/

variable {s : Simulation M T} {w w₁ w₂ : World M} {clock : Clock T}
  {out : Outcome M T (TickSummary T)} {count : Nat} {calls : List (HookCall T)}

/-- A tick in which no hook and no handler fails ends with a summary, and nobody is left out. -/
theorem Ticks.of_fine (h : s.Ticks w clock out)
    (stepped : s.stepsIn w clock = (allFine slots, w₁))
    (executed : executeAll s.driver.componentFailure clock.context s.plugins w₁ =
      ⟨s.plugins, [], count, none, w₂, calls⟩)
    (handled : w₂.environment.window.stats.failures = []) :
    out.result = .ok
        { tick := clock.ticks
          time := clock.current
          participantsStepped := slots.length
          pluginsExecuted := count
          participantsRegistered := w₂.environment.participants.length
          actions := w₂.environment.window.stats
          failures := [] } ∧
      out.simulation =
        { s with clock := clock, status := .running clock.ticks, participants := slots } ∧
      out.world = w₂.closeTick.2 := by
  have executed : s.executesIn w clock = ⟨s.plugins, [], count, none, w₂, calls⟩ := by
    rw [executesIn, stepped]
    exact executed
  have unfailed : stepFailures (s.stepsIn w clock).1 = [] := by
    rw [stepped]
    exact stepFailures_allFine
  cases h with
  | stepFailed abort failures =>
    rw [unfailed] at failures
    cases failures
  | executeFailed goesOn aborted =>
    rw [executed] at aborted
    cases aborted
  | actionFailed goesOn completed abort failures =>
    rw [executed, handled] at failures
    cases failures
  | ended goesOn completed settled =>
    rw [executed, unfailed, stepped]
    dsimp only
    rw [length_stepCalls_allFine, markFailed_allFine]
    exact ⟨rfl, rfl, rfl⟩

end Simulation

namespace ActionStats

/-- Statistics of some actions that were all applied. -/
structure AllApplied (n : Nat) (stats : ActionStats) : Prop where
  applied : stats.applied.toNat = min n 18446744073709551615
  rejected : stats.rejected = 0
  failed : stats.failed = 0
  refused : stats.refused = 0
  failures : stats.failures = []

variable {n : Nat} {stats : ActionStats}

/-- At first no action has been applied. -/
lemma allApplied_empty : AllApplied 0 {} := ⟨rfl, rfl, rfl, rfl, rfl⟩

/-- One more action that is applied is counted. -/
lemma AllApplied.next (h : stats.AllApplied n) : stats.addApplied.AllApplied (n + 1) where
  applied := by
    rw [addApplied, Word.toNat_bump, h.applied]
    omega
  rejected := h.rejected
  failed := h.failed
  refused := h.refused
  failures := h.failures

/-- Counting so many times counts so many. -/
lemma allApplied_iterate (n : Nat) : (addApplied^[n] {}).AllApplied n := by
  induction n with
  | zero => exact allApplied_empty
  | succ n ih =>
    rw [Function.iterate_succ_apply']
    exact ih.next

end ActionStats

namespace Scenario

variable {c : ScenarioConfig} {slots : List Slot} {tallied rows t : Nat} {w : World Memory}
  {r : Ring} {plugins : List (PluginSlot Memory IntegerTime)}

/-! ## Steps -/

/-- Walkers are on their courses as far as those on the ring are. -/
lemma Courses.congr {paces paces' : Nat → Nat} (h : Courses c slots paces r w)
    (same : ∀ n < slots.length, paces' n = paces n) : Courses c slots paces' r w where
  stored := h.stored
  follows := by
    refine ⟨h.follows.toPeopled, fun n id at_n => ?_⟩
    obtain ⟨below, -⟩ := List.getElem?_eq_some_iff.1 at_n
    rw [List.length_map] at below
    rw [same n below]
    exact h.follows.stands n id at_n
  streams := fun n slot at_n => by
    obtain ⟨below, -⟩ := List.getElem?_eq_some_iff.1 at_n
    rw [same n below]
    exact h.streams n slot at_n
  unmade := h.unmade

/-- Some walkers have stepped in turn in a tick that began with some collisions. -/
structure Striding (c : ScenarioConfig) (slots : List Slot) (tallied t : Nat) (collisions : UInt64)
    (before : World Memory) (n : Nat) (w : World Memory) : Prop where
  underway : Underway c slots tallied before n w
  courses : ∃ r, Courses c slots (Walker.inTick t n) r w ∧ r.collisions =
    Walker.collisionsStepping c.ringSize c.seed slots.length t collisions n

/-- The next walker takes its step and leaves the others to theirs. -/
lemma Striding.step {collisions : UInt64} {before : World Memory} {n : Nat}
    (h : Striding c slots tallied t collisions before n w) (ring : c.ringSize ≠ 0)
    (opened : before.environment.window.phase ≠ .closed) {slot : Slot}
    (at_n : slots[n]? = some slot) (ctx : TickContext IntegerTime) :
    ∃ w', w.perform (slot.participant.step ctx) = (.fine, w') ∧
      Striding c slots tallied t collisions before (n + 1) w' := by
  obtain ⟨underway, r, courses, collided⟩ := h
  have length : (slots.map fun slot => slot.participant.id).length = slots.length :=
    List.length_map _
  have opened : w.environment.window.phase ≠ .closed := by
    rw [underway.untouched.phase]
    exact opened
  -- the walkers before it have taken one step more than it has
  have pace : Walker.inTick t n n = t := if_neg (Nat.lt_irrefl n)
  obtain ⟨w', performed, stage, courses', untouched, stats⟩ :=
    underway.stage.step courses ring opened at_n ctx
  rw [pace, ← Walker.inTick_succ] at courses'
  rw [← length] at collided
  have collided' := courses.follows.collisions_stepping rfl collided slot.participant.id
  rw [length] at collided'
  refine ⟨w', performed, ⟨stage, underway.untouched.trans untouched, ?_⟩, _, courses', collided'⟩
  rw [stats, underway.stats, Nat.mul_succ, Function.iterate_succ_apply',
    Function.iterate_succ_apply']

/-- The walkers of a tick step one after another. -/
theorem Stage.inTurn (h : Stage c slots tallied w) (courses : Courses c slots (fun _ => t) r w)
    (ring : c.ringSize ≠ 0) (opened : w.environment.window.phase ≠ .closed) (schedule : List Nat)
    (ctx : TickContext IntegerTime) :
    ∃ w', Simulation.stepAll .sequential schedule ctx slots w = (Simulation.allFine slots, w') ∧
      Striding c slots tallied t r.collisions w slots.length w' := by
  have start : Striding c slots tallied t r.collisions w 0 w :=
    ⟨⟨h, .refl w, rfl⟩, r, courses, rfl⟩
  exact Simulation.stepAll_of_fine schedule (fun n slot at_n => ⟨(h.ready n slot at_n).unfailed,
    fun w' striding => striding.step ring opened at_n ctx⟩) start

/-- The walkers of a tick step, in turn or side by side; how often they collide is determined if
they step in turn. -/
theorem Stage.steps (h : Stage c slots tallied w) (courses : Courses c slots (fun _ => t) r w)
    (ring : c.ringSize ≠ 0) (opened : w.environment.window.phase ≠ .closed) (mode : ExecutionMode)
    (schedule : List Nat) (ctx : TickContext IntegerTime) :
    ∃ w' r', Simulation.stepAll mode schedule ctx slots w = (Simulation.allFine slots, w') ∧
      Underway c slots tallied w slots.length w' ∧ Courses c slots (fun _ => t + 1) r' w' ∧
      (mode = .sequential → r'.collisions = Walker.collisionsStepping c.ringSize c.seed
        slots.length t r.collisions slots.length) := by
  cases mode with
  | sequential =>
    obtain ⟨w', stepped, underway, r', courses', collided⟩ :=
      h.inTurn courses ring opened schedule ctx
    refine ⟨w', r', stepped, underway, courses'.congr fun n below => ?_, fun _ => collided⟩
    rw [Walker.inTick, if_pos below]
  | concurrent =>
    obtain ⟨w', r', ran, underway, courses'⟩ := h.abreast courses ring opened schedule ctx
    refine ⟨w', r', Simulation.stepAll_concurrent ran, underway, courses', fun sequential => ?_⟩
    cases sequential

/-! ## Executions -/

/-- The plugins of a tick execute, and the recorder commits a row for every entry of the shared
state. -/
theorem Equipped.execute {recordState : Bool} (h : Equipped recordState plugins rows w)
    (stage : Stage c slots tallied w) (policy : FailurePolicy) (ctx : TickContext IntegerTime) :
    ∃ w' calls, Simulation.executeAll policy ctx plugins w =
        ⟨plugins, [], plugins.length, none, w', calls⟩ ∧
      Equipped recordState plugins (rows + w.environment.store.entries.size) w' ∧
      Stage c slots tallied w' ∧ w'.environment = w.environment ∧
      w'.memory.walkers = w.memory.walkers ∧ w'.operator = w.operator := by
  obtain ⟨id₁, id₂, rfl⟩ := h.slots
  obtain ⟨roster, remembers⟩ := h.reporter
  obtain ⟨ring, readable⟩ := stage.exists_ring
  obtain ⟨events, reports⟩ := Reporter.perform_execute Memory.reporterPlace ctx remembers readable
  rw [Simulation.executeAll_cons rfl reports]
  cases recordState with
  | false =>
    refine ⟨_, _, rfl, ?_, stage.of_plugins rfl rfl rfl, rfl, rfl, rfl⟩
    exact ⟨⟨_, id₂, rfl⟩, ⟨_, remembers⟩, nofun, nofun⟩
  | true =>
    obtain ⟨committed, length, kept⟩ := h.database rfl
    obtain ⟨state, new, records, ready, length'⟩ := Recorder.perform_execute Memory.recorderPlace
      { w with events := events } ctx (h.recorder rfl) kept
    rw [if_pos rfl, Simulation.executeAll_cons rfl records]
    refine ⟨_, _, rfl, ?_, stage.of_plugins rfl rfl rfl, rfl, rfl, rfl⟩
    refine ⟨⟨_, _, rfl⟩, ⟨_, remembers⟩, fun _ => ready, fun _ => ⟨committed ++ new, ?_, rfl⟩⟩
    rw [List.length_append, length, length']

/-! ## A tick -/

/-- A summary of a tick in which all of some walkers have stepped, and nothing has failed. -/
structure Regular (walkers : Nat) (summary : TickSummary IntegerTime) : Prop where
  stepped : summary.participantsStepped = walkers
  applied : summary.actions.applied.toNat = 2 * walkers
  rejected : summary.actions.rejected = 0
  failed : summary.actions.failed = 0
  refused : summary.actions.refused = 0
  failures : summary.failures = []

/-- The summary of a tick in which some walkers have stepped and some plugins have executed. -/
def tickSummary (walkers plugins : Nat) (tick : UInt64) : TickSummary IntegerTime where
  tick := tick
  time := ⟨tick⟩
  participantsStepped := walkers
  pluginsExecuted := plugins
  participantsRegistered := walkers
  actions := ActionStats.addApplied^[2 * walkers] {}
  failures := []

/-- A tick of the walkers is a regular one, as long as they can be counted. -/
lemma regular_tickSummary {walkers : Nat} (few : walkers < 4294967296) (plugins : Nat)
    (tick : UInt64) : Regular walkers (tickSummary walkers plugins tick) := by
  have stats := ActionStats.allApplied_iterate (2 * walkers)
  have applied := stats.applied.trans (Nat.min_eq_left (by omega))
  exact ⟨rfl, applied, stats.rejected, stats.failed, stats.refused, rfl⟩

/-- Number of rows that are recorded in a tick: the ring and the tally, once somebody walks. -/
def rowsPerTick (slots : List Slot) : Nat := if slots = [] then 0 else 2

/-- A demonstration between two ticks, after some of them. -/
structure Afoot (c : ScenarioConfig) (driver : DriverConfig) (slots : List Slot)
    (plugins : List (PluginSlot Memory IntegerTime)) (ticks : Nat)
    (s : Simulation Memory IntegerTime) (w : World Memory) : Prop where
  ring : c.ringSize ≠ 0
  few : slots.length < 4294967296
  runnable : ¬s.status.isOver = true
  clock : ∃ word, s.clock = ⟨⟨word⟩, word⟩ ∧ word.toNat = ticks
  driven : s.driver = driver
  joined : s.participants = slots
  added : s.plugins = plugins
  stage : Stage c slots (slots.length * ticks) w
  courses : ∃ r, Courses c slots (fun _ => ticks) r w ∧ (driver.execution = .sequential →
    r.collisions = Walker.collisions c.ringSize c.seed slots.length ticks)
  equipped : Equipped c.recordState plugins (rowsPerTick slots * ticks) w

/-- A demonstration between two ticks, whose walkers step in turn. -/
structure Between (c : ScenarioConfig) (driver : DriverConfig) (slots : List Slot)
    (plugins : List (PluginSlot Memory IntegerTime)) (ticks : Nat)
    (s : Simulation Memory IntegerTime) (w : World Memory) : Prop
    extends Afoot c driver slots plugins ticks s w where
  sequential : driver.execution = .sequential

/-- After the steps of a tick there is an entry for every row that is recorded in it. -/
lemma Stage.size_entries_stepped {ticks : Nat}
    (h : Stage c slots (slots.length * ticks + slots.length) w) :
    w.environment.store.entries.size = rowsPerTick slots := by
  rw [h.size_entries, rowsPerTick]
  by_cases empty : slots = []
  · rw [if_pos empty, if_pos empty, empty, List.length_nil, Nat.zero_mul]
    rfl
  · have tallied : slots.length * ticks + slots.length ≠ 0 :=
      Nat.ne_of_gt (Nat.add_pos_right _ (List.length_pos_iff.2 empty))
    rw [if_neg empty, if_neg empty, if_neg tallied]

variable {driver : DriverConfig} {ticks : Nat} {s : Simulation Memory IntegerTime}

/-- The time of a demonstration is the number of its ticks, and goes on for as long as that is a
word. -/
lemma Afoot.opens (h : Afoot c driver slots plugins ticks s w)
    (bound : ticks + 1 < 18446744073709551616) :
    ∃ next, s.opens? = some ⟨⟨next⟩, next⟩ ∧ next.toNat = ticks + 1 := by
  obtain ⟨word, clock, count⟩ := h.clock
  obtain ⟨next, advances⟩ : ∃ next, Word.succ? word = some next :=
    ⟨word + 1, if_pos (by rw [count]; exact bound)⟩
  have later : Time.next? (⟨word⟩ : IntegerTime) = some ⟨next⟩ := by
    show (Word.succ? word).map IntegerTime.mk = _
    rw [advances]
    rfl
  refine ⟨next, Simulation.opens?_eq_some_iff.2 ⟨h.runnable, ?_⟩, ?_⟩
  · rw [clock, Clock.increment]
    dsimp only
    rw [later, advances]
  · rw [Word.toNat_succ? advances, count]

/-- In a tick all walkers take one more step, in either mode. -/
lemma Afoot.steps (h : Afoot c driver slots plugins ticks s w) (clock : Clock IntegerTime) :
    ∃ w' r', s.stepsIn w clock = (Simulation.allFine slots, w') ∧
      Underway c slots (slots.length * ticks) (w.openTick clock.ticks) slots.length w' ∧
      Courses c slots (fun _ => ticks + 1) r' w' ∧ (driver.execution = .sequential →
        r'.collisions = Walker.collisions c.ringSize c.seed slots.length (ticks + 1)) := by
  have opened := h.stage.of_window (w.environment.window.openFor clock.ticks)
  obtain ⟨r, courses, collided⟩ := h.courses
  have courses : Courses c slots (fun _ => ticks) r (w.openTick clock.ticks) :=
    courses.of_eq rfl rfl
  obtain ⟨w', r', stepped, underway, courses', collided'⟩ := opened.steps courses h.ring nofun
    driver.execution (s.schedule clock.ticks) clock.context
  refine ⟨w', r', ?_, underway, courses', fun sequential => ?_⟩
  · rw [Simulation.stepsIn, Simulation.enterTick, h.driven, h.joined]
    dsimp only
    rw [h.stage.filter_isLive]
    exact stepped
  · rw [collided' sequential, collided sequential]
    rfl

/-- A tick goes well, and leads to where the next one begins. -/
theorem Afoot.tick (h : Afoot c driver slots plugins ticks s w)
    (bound : ticks + 1 < 18446744073709551616) :
    ∃ tick, tick.toNat = ticks + 1 ∧
      (s.runTick w).result = .ok (tickSummary slots.length plugins.length tick) ∧
      Afoot c driver slots plugins (ticks + 1) (s.runTick w).simulation (s.runTick w).world ∧
      (s.runTick w).world.operator = w.operator := by
  obtain ⟨next, opens, count⟩ := h.opens bound
  obtain ⟨w₁, r, stepped, underway, courses, collided⟩ := h.steps ⟨⟨next⟩, next⟩
  -- what is recorded in a tick is what its steps have left, so they come first
  have equipped₁ := h.equipped.of_eq underway.untouched.reporter underway.untouched.recorder
    underway.untouched.database
  obtain ⟨w₂, calls, executed, equipped₂, stage₂, environment₂, walkers₂, operator₂⟩ :=
    equipped₁.execute underway.stage driver.componentFailure (Clock.context ⟨⟨next⟩, next⟩)
  rw [underway.stage.size_entries_stepped, ← Nat.mul_succ] at equipped₂
  rw [← Nat.mul_succ] at stage₂
  have stats : w₂.environment.window.stats = ActionStats.addApplied^[2 * slots.length] {} := by
    rw [environment₂]
    exact underway.stats
  have registered : w₂.environment.participants.length = slots.length := by
    rw [stage₂.members, List.length_map]
  have executed : Simulation.executeAll s.driver.componentFailure (Clock.context ⟨⟨next⟩, next⟩)
      s.plugins w₁ = ⟨s.plugins, [], plugins.length, none, w₂, calls⟩ := by
    rw [h.driven, h.added]
    exact executed
  have handled : w₂.environment.window.stats.failures = [] := by
    rw [stats]
    exact (ActionStats.allApplied_iterate _).failures
  obtain ⟨ok, simulation, world⟩ :=
    (Simulation.runTick_ticks opens).of_fine stepped executed handled
  rw [registered, stats] at ok
  refine ⟨next, count, ok, ?_, ?_⟩
  · have courses₂ := courses.of_eq (congrArg Environment.store environment₂) walkers₂
    rw [simulation, world]
    exact ⟨h.ring, h.few, nofun, ⟨next, rfl, count⟩, h.driven, rfl, h.added, stage₂.of_window _,
      ⟨r, courses₂.of_eq rfl rfl, collided⟩, equipped₂.of_eq rfl rfl rfl⟩
  · rw [world]
    exact operator₂.trans underway.untouched.operator

end Scenario

end Cadence
