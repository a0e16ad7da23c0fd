import Cadence.Proofs.Recording

/-!
# Starting a recorder

A recorder starts its database before it knows whether it can have its table there
(`Recorder.Starts`). When it is refused before that, or when the database runs already, the database
stays as it was. But when the database is stopped and has the table, as it has after a run that has
been recorded, the recorder leaves it running with its tables as they were (`Recorder.Strands`); the
plugin is not kept, so no end of a run stops the database for it. There is no other way in which a
recorder that is refused changes the database (`refused_recorder_spares_tables`).
-/

namespace Cadence

variable {M T : Type}

namespace Recorder

variable {place : Place M RecorderState} {table : String} {w w' : World M} {ending : HookEnd}

/-- A recorder can start in the world: it sees the shared state, and its table has a name and is not
there yet. -/
structure Welcome (table : String) (w : World M) : Prop where
  seen : ∃ service, w.environment.globalService .view = .ok service
  named : Text.blank table = false
  free : w.database.tables.contains table = false

/-- A recorder starts the database of the world in vain: the table is there already. -/
structure Strands (table : String) (w : World M) : Prop where
  seen : ∃ service, w.environment.globalService .view = .ok service
  named : Text.blank table = false
  taken : w.database.tables.contains table = true
  stopped : w.database.running = false

namespace Starts

/-- A recorder starts if it can. -/
lemma fine_iff (h : Starts place table w ending w') :
    ending.guarded = .ok () ↔ Welcome table w := by
  cases h with
  | blind view =>
    constructor
    · intro fine
      cases fine
    · intro welcome
      obtain ⟨service, seen⟩ := welcome.seen
      cases view.symm.trans seen
  | nameless view blank =>
    constructor
    · intro fine
      cases fine
    · intro welcome
      cases blank.symm.trans welcome.named
  | taken view named taken =>
    constructor
    · intro fine
      cases fine
    · intro welcome
      cases taken.symm.trans welcome.free
  | fine view named free => exact ⟨fun _ => ⟨⟨_, view⟩, named, free⟩, fun _ => rfl⟩

/-- The database of a recorder that is refused is as it was, unless it was started in vain. -/
lemma database_of_refused (h : Starts place table w ending w') {cause : ComponentError}
    (refused : ending.guarded = .error cause) :
    (¬Strands table w ∧ w'.database = w.database) ∨
      (Strands table w ∧ cause = .other (DbError.tableExists table).message ∧
        w'.database = w.database.start) := by
  cases h with
  | blind view =>
    refine .inl ⟨fun strands => ?_, rfl⟩
    obtain ⟨service, seen⟩ := strands.seen
    cases view.symm.trans seen
  | nameless view blank =>
    refine .inl ⟨fun strands => ?_, rfl⟩
    cases blank.symm.trans strands.named
  | taken view named taken =>
    cases running : w.database.running with
    | true =>
      refine .inl ⟨fun strands => ?_, ?_⟩
      · cases running.symm.trans strands.stopped
      · show { w.database with running := true } = w.database
        rw [← running]
    | false =>
      obtain rfl := Except.error.inj refused
      exact .inr ⟨⟨⟨_, view⟩, named, taken, running⟩, rfl, rfl⟩
  | fine view named free => cases refused

end Starts

end Recorder

namespace Simulation

/-- A plugin that cannot be initialised is not kept, and the world stays as its hook leaves it. -/
lemma addPlugin_of_refused [Time T] {s : Simulation M T} {w w' : World M} {p : Plugin M T}
    {ending : HookEnd} {cause : ComponentError} (runnable : s.checkRunnable = .ok ())
    (initialised : w.perform p.initialise = (ending, w'))
    (refused : ending.guarded = .error cause) :
    (s.addPlugin w p).result =
        .error (.initialise (.plugin (s.pluginIds s.pluginsMade) p.name) cause) ∧
      (s.addPlugin w p).simulation.plugins = s.plugins ∧ (s.addPlugin w p).world = w' := by
  rw [addPlugin, runnable]
  dsimp only
  rw [initialised]
  dsimp only
  rw [refused]
  exact ⟨rfl, rfl, rfl⟩

end Simulation

/-- A recorder starts exactly if it sees the shared state, its table has a name, and there is no
table of that name. If it does not start, the plugin is not kept, and its database has the same
tables with the same rows as before; whether it runs is the same as well, unless it was stopped and
had the table, and then it runs. -/
theorem refused_recorder_spares_tables [Time T] (place : Place M RecorderState) (table : String)
    (w : World M) (s : Simulation M T) :
    let hook := w.perform (Recorder.initialise place table)
    let added := s.addPlugin w (Recorder.plugin place table)
    (hook.1.guarded = .ok () ↔ Recorder.Welcome table w) ∧
    ∀ cause, hook.1.guarded = .error cause →
      (¬Recorder.Strands table w → hook.2.database = w.database) ∧
      (Recorder.Strands table w → cause = .other (DbError.tableExists table).message ∧
        hook.2.database = { w.database with running := true }) ∧
      (s.checkRunnable = .ok () →
        added.result =
          .error (.initialise (.plugin (s.pluginIds s.pluginsMade) "state-recorder") cause) ∧
        added.simulation.plugins = s.plugins ∧ added.world = hook.2) := by
  intro hook added
  have starts := Recorder.initialise_starts place table w
  refine ⟨starts.fine_iff, fun cause refused => ?_⟩
  refine ⟨fun spared => ?_, fun strands => ?_, fun runnable => ?_⟩
  · obtain ⟨-, same⟩ | ⟨strands, -⟩ := starts.database_of_refused refused
    · exact same
    · exact absurd strands spared
  · obtain ⟨spared, -⟩ | ⟨-, told, started⟩ := starts.database_of_refused refused
    · exact absurd strands spared
    · exact ⟨told, started⟩
  · exact Simulation.addPlugin_of_refused runnable rfl refused

/-- A run that is recorded is over, and its database is stopped with the record of its one tick.
Another run over the same database cannot have its recorder, and the database runs from then on. -/
theorem refused_recorder_starts_database :
    let recorder : Plugin (Key × RecorderState) IntegerTime := Recorder.plugin besideKey "pages"
    let w := (diary.after [.add diarist, .addPlugin recorder, .tick, .finish]).world
    let hook := w.perform (Recorder.initialise besideKey "pages")
    let added := diary.start.simulation.addPlugin w recorder
    w.database.running = false ∧
    (∃ cause, hook.1.guarded = .error cause) ∧ added.simulation.plugins = [] ∧
    hook.2.database.running = true ∧ added.world.database.running = true := by
  intro recorder w hook added
  have stopped : w.database.running = false := by decide +kernel
  have told : hook.1.guarded = .error (.other "table `pages` already exists") := by decide +kernel
  have kept : added.simulation.plugins.length = 0 := by decide +kernel
  have running : hook.2.database.running = true ∧ added.world.database.running = true := by
    decide +kernel
  exact ⟨stopped, ⟨_, told⟩, List.length_eq_zero_iff.1 kept, running⟩

end Cadence
