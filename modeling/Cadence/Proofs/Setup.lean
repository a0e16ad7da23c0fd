import Cadence.Proofs.History
import Cadence.Proofs.Stage

/-!
# A demonstration is set up

Its walkers join one after another (`spawnFrom_stage`), as long as the identifiers that they are
given differ, and its plugins join after them (`addPlugins_equipped`): nothing that a hook asks for
is refused.
-/

namespace Cadence

namespace Simulation

variable {M T : Type} {s : Simulation M T} {w w₁ : World M}

/-- A plugin that initialises well is added. -/
lemma addPlugin_of_fine {p : Plugin M T} (runnable : ¬s.status.isOver = true)
    (initialised : w.perform p.initialise = (.fine, w₁)) :
    s.addPlugin w p =
      { result := .ok (s.pluginIds s.pluginsMade)
        simulation :=
          { s with
            pluginsMade := s.pluginsMade + 1
            plugins := s.plugins ++ [⟨s.pluginIds s.pluginsMade, p, false⟩] }
        world := w₁
        calls :=
          [⟨.plugin (s.pluginIds s.pluginsMade) p.name, none, .initialise, none, .fine⟩] } := by
  rw [addPlugin, checkRunnable_of_not_over s runnable]
  dsimp only
  rw [initialised]
  rfl

end Simulation

namespace Scenario

open World

/-! ## Walkers are spawned -/

/-- The simulation of a demonstration after some walkers have been made. -/
def joined (driver : DriverConfig) (ids : Identifiers) (slots : List Slot) (made : Nat) :
    Simulation Memory IntegerTime :=
  { simulation driver ids with participants := slots, participantsMade := made }

/-- The first participants are given different identifiers. -/
def Identifiers.Distinct (ids : Identifiers) (n : Nat) : Prop :=
  ∀ i j, i < n → j < n → ids.participants i = ids.participants j → i = j

/-- The slots are those of the first walkers. -/
def Numbered (ids : Identifiers) (slots : List Slot) : Prop :=
  (slots.map fun slot => slot.participant.id) = (List.range slots.length).map ids.participants

/-- The next participant gets the next identifier. -/
lemma Numbered.append {ids : Identifiers} {slots : List Slot} (h : Numbered ids slots) {slot : Slot}
    (next : slot.participant.id = ids.participants slots.length) :
    Numbered ids (slots ++ [slot]) := by
  rw [Numbered, List.map_append, h, List.map_singleton, next, List.length_append,
    List.length_singleton, List.range_succ, List.map_append, List.map_singleton]

variable {c : ScenarioConfig} {driver : DriverConfig} {ids : Identifiers}

/-- Walkers join one after another, as long as their identifiers are new. -/
theorem spawnFrom_stage (ring : c.ringSize ≠ 0) {total : Nat}
    (distinct : ids.Distinct total)
    (names : List String) {slots : List Slot} {w : World Memory} {r : Ring} {n : Nat}
    (made : slots.length = n) (count : n + names.length = total) (stage : Stage c slots 0 w)
    (courses : Courses c slots (fun _ => 0) r w)
    (collided : r.collisions = Walker.collisionsEntering c.ringSize c.seed n)
    (numbered : Numbered ids slots) (opened : w.environment.window.phase ≠ .closed)
    (absent : ∀ i, n ≤ i → i < total → w.environment.keyOf? (ids.participants i) = none) :
    let out := Simulation.spawnFrom (fun n id name => .done (walker c n id name)) n names
      (joined driver ids slots n) w
    ∃ slots' spawned r', out.result = .ok spawned ∧
      out.simulation = joined driver ids slots' total ∧ slots'.length = total ∧
      Stage c slots' 0 out.world ∧ Courses c slots' (fun _ => 0) r' out.world ∧
      r'.collisions = Walker.collisionsEntering c.ringSize c.seed total ∧ Numbered ids slots' ∧
      Untouched w out.world := by
  induction names generalizing slots w r n with
  | nil =>
    obtain rfl := count
    exact ⟨slots, [], r, rfl, rfl, made, stage, courses, collided, numbered, .refl w⟩
  | cons name rest ih =>
    obtain rfl := made
    have count : slots.length + 1 + rest.length = total := by
      rw [← count, List.length_cons]
      omega
    have new := absent slots.length (Nat.le_refl _) (by omega)
    obtain ⟨admission, w₁, w₂, registered, initialised, stage₂, courses₂, untouched, others⟩ :=
      stage.join courses rfl ring opened new name
    have runnable : ¬(joined driver ids slots (slots.length + 1)).status.isOver = true := nofun
    have added := Simulation.addParticipant_of_joined runnable registered initialised rfl
    have collided₂ := courses.follows.collisions_entering rfl
      (by rw [List.length_map]; exact collided) (ids.participants slots.length)
    rw [List.length_map] at collided₂
    -- the identifiers to come are none of those that have joined, so they are still new
    have later : ∀ i, slots.length + 1 ≤ i → i < total →
        w₂.environment.keyOf? (ids.participants i) = none := by
      intro i after before
      have other : ids.participants i ≠ ids.participants slots.length := fun same => by
        have := distinct i slots.length before (by omega) same
        omega
      exact (others _ other).trans (absent i (by omega) before)
    obtain ⟨slots', spawned, r', ok, eq, length, stage', courses', collided', numbered',
        untouched'⟩ := ih List.length_append count stage₂ courses₂
      collided₂ (numbered.append rfl)
      (by rw [untouched.phase]; exact opened) later
    intro out
    have goesOn : out = _ := Simulation.spawnFrom_cons rfl added
    rw [goesOn]
    refine ⟨slots', ids.participants slots.length :: spawned, r', ?_, eq, length, stage', courses',
      collided', numbered', untouched.trans untouched'⟩
    exact congrArg (Except.map _) ok

/-! ## The start -/

variable {w : World Memory} {slots : List Slot} {tallied : Nat}

/-- The stage is set in the world before anybody comes. -/
lemma stage_world (c : ScenarioConfig) (recordState : Bool) (operator : Operator) :
    Stage c [] 0 (world (handlers c.ringSize) recordState operator) where
  unguided := rfl
  members := rfl
  board := ⟨{}, ⟨rfl, rfl⟩, Board.shows_empty _⟩
  ready := fun _ _ found => absurd found nofun

/-- The courses have not begun in it. -/
lemma courses_world (c : ScenarioConfig) (recordState : Bool) (operator : Operator) :
    Courses c [] (fun _ => 0) {} (world (handlers c.ringSize) recordState operator) where
  stored := rfl
  follows := Ring.follows_empty _ _ _
  streams := fun _ _ found => absurd found nofun
  unmade := fun _ _ => rfl

variable {recordState : Bool} {operator : Operator}

/-- The view is among the global services. -/
lemma globalService_view
    (untouched : Untouched (world (handlers c.ringSize) recordState operator) w) :
    w.environment.globalService .view = .ok .view := by
  have found : w.environment.globals.get? .view = some .view := by
    rw [untouched.globals]
    exact OrderedMap.get?_insert_self _ _ _
  rw [Environment.globalService, found]

/-- The list of members is among them too. -/
lemma globalService_members
    (untouched : Untouched (world (handlers c.ringSize) recordState operator) w) :
    w.environment.globalService .members = .ok (.members .environment) := by
  have other : ServiceKind.members ≠ ServiceKind.view := by decide
  have found : w.environment.globals.get? .members = some (.members .environment) := by
    rw [untouched.globals]
    exact (OrderedMap.get?_insert_of_ne other _ _).trans (OrderedMap.get?_insert_self _ _ _)
  rw [Environment.globalService, found]

/-! ## Plugins are added -/

/-- The plugins of a demonstration have joined, and the recorder has committed some rows, if there
is one. -/
structure Equipped (recordState : Bool) (slots : List (PluginSlot Memory IntegerTime)) (rows : Nat)
    (w : World Memory) : Prop where
  slots : ∃ id₁ id₂, slots = ⟨id₁, Reporter.plugin Memory.reporterPlace, false⟩ ::
    if recordState then [⟨id₂, Recorder.plugin Memory.recorderPlace Recorder.defaultTable, false⟩]
    else []
  reporter : ∃ roster, w.memory.reporter = some roster
  recorder : recordState = true → w.memory.recorder.ready = true
  database : recordState = true → ∃ committed, committed.length = rows ∧
    w.database = Recorder.database true Recorder.defaultTable [] committed

/-- Plugins stay equipped as long as their places and the database are the same. -/
lemma Equipped.of_eq {plugins : List (PluginSlot Memory IntegerTime)} {rows : Nat}
    (h : Equipped recordState plugins rows w) {w' : World Memory}
    (reporter : w'.memory.reporter = w.memory.reporter)
    (recorder : w'.memory.recorder = w.memory.recorder) (database : w'.database = w.database) :
    Equipped recordState plugins rows w' where
  slots := h.slots
  reporter := by rw [reporter]; exact h.reporter
  recorder := by rw [recorder]; exact h.recorder
  database := by rw [database]; exact h.database

/-- The simulation of a demonstration with its plugins. -/
def equipped (driver : DriverConfig) (ids : Identifiers) (slots : List Slot) (made : Nat)
    (plugins : List (PluginSlot Memory IntegerTime)) : Simulation Memory IntegerTime :=
  { joined driver ids slots made with plugins := plugins, pluginsMade := plugins.length }

/-- Plugins are added one after another. -/
lemma addPlugins_cons {made : Nat} {before : List (PluginSlot Memory IntegerTime)}
    {p : Plugin Memory IntegerTime} {w₁ : World Memory}
    (initialised : w.perform p.initialise = (.fine, w₁)) (rest : List (Plugin Memory IntegerTime)) :
    addPlugins (p :: rest) (equipped driver ids slots made before) w =
      addPlugins rest (equipped driver ids slots made
        (before ++ [⟨ids.plugins before.length, p, false⟩])) w₁ := by
  have runnable : ¬(equipped driver ids slots made before).status.isOver = true := nofun
  have grown : ∀ slot, (before ++ [slot]).length = before.length + 1 := fun _ => List.length_append
  rw [addPlugins, Simulation.addPlugin_of_fine runnable initialised, equipped, equipped, grown]
  rfl

/-- The plugins join, and the stage stays as it is. -/
theorem addPlugins_equipped {made : Nat} (stage : Stage c slots 0 w)
    (untouched : Untouched (world (handlers c.ringSize) recordState operator) w) :
    let out := addPlugins (plugins recordState) (joined driver ids slots made) w
    ∃ plugins, out.result = .ok () ∧ out.simulation = equipped driver ids slots made plugins ∧
      Stage c slots 0 out.world ∧ Equipped recordState plugins 0 out.world ∧
      out.world.environment = w.environment ∧ out.world.memory.walkers = w.memory.walkers ∧
      out.world.operator = operator := by
  have view := globalService_view untouched
  have reports := Reporter.perform_initialise Memory.reporterPlace view
    (globalService_members untouched)
  have none : joined driver ids slots made = equipped driver ids slots made [] := rfl
  rw [none, plugins, addPlugins_cons reports]
  cases recordState with
  | false =>
    exact ⟨_, rfl, rfl, stage.of_plugins rfl rfl rfl, ⟨⟨_, default, rfl⟩, ⟨_, rfl⟩, nofun, nofun⟩,
      rfl, rfl, untouched.operator⟩
  | true =>
    have named : ¬Text.blank Recorder.defaultTable = true := by decide
    have records := Recorder.perform_initialise Memory.recorderPlace
      { w with memory := Memory.reporterPlace.put (some .environment) w.memory } named view
      untouched.database
    rw [if_pos rfl, addPlugins_cons records]
    refine ⟨_, rfl, rfl, stage.of_plugins rfl rfl rfl, ?_, rfl, rfl, untouched.operator⟩
    exact ⟨⟨_, _, rfl⟩, ⟨_, rfl⟩, fun _ => rfl, fun _ => ⟨[], rfl, rfl⟩⟩

end Scenario

end Cadence
