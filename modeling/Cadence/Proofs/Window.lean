import Cadence.Proofs.Outcomes

/-!
# Shared state outside ticks

The action window follows the status of a simulation (`Progress.Gated`): it is in setup as long as
no tick has begun, and closed between two calls of the driver ever after, whichever way a tick
ends. Nothing that a program does moves the window, and while it is closed no program changes the
store (`World.respected_steady`). So the store changes only during setup and in a tick
(`store_frozen_outside_ticks`).
-/

namespace Cadence

variable {M T α : Type}

/-! ## A closed window -/

namespace Environment

variable {e : Environment} {id : ParticipantId} {key : Key}

/-- An action is refused while the window is closed, even with a current key. -/
lemma route_of_closed (closed : e.window.phase = .closed) (current : e.isCurrent id key = true)
    (action : Action) : e.route action id key = .error (.tickClosed e.window.tick) := by
  rw [route, authorize, if_pos current, Window.check, if_pos closed]

/-- While the window is open an action is routed by its tag. -/
lemma route_of_open (opened : e.window.phase ≠ .closed) (current : e.isCurrent id key = true)
    (action : Action) : e.route action id key = e.registry.resolve action.tag := by
  rw [route, authorize, if_pos current, Window.check, if_neg opened]

/-- An action that is not routed is counted as refused. -/
lemma act_of_route_error {action : Action} {err : EnvironmentError}
    (h : e.route action id key = .error err) :
    e.act action id key = (.error err, e.record .addRefused) := by
  rw [act, h]

/-- While the window is closed no action changes the store. -/
lemma act_store_of_closed (closed : e.window.phase = .closed) (action : Action) :
    (e.act action id key).2.store = e.store := by
  by_cases current : e.isCurrent id key = true
  · rw [act_of_route_error (route_of_closed closed current action)]
    rfl
  · have refused : e.route action id key = .error (.invalidAuthorization id) := by
      rw [route, authorize, if_neg current]
    rw [act_of_route_error refused]
    rfl

end Environment

/-- What programs leave as it is: the window, and the store while the window is closed. -/
structure World.Steady (w w' : World M) : Prop where
  frame : w.environment.SameFrame w'.environment
  store : w.environment.window.phase = .closed → w'.environment.store = w.environment.store

/-- Programs, which nothing interrupts, move no window and change no store behind a closed one. -/
theorem World.respected_steady : Respected (Steady (M := M)) where
  refl w := ⟨.refl w.environment, fun _ => rfl⟩
  trans ab bc :=
    ⟨ab.frame.trans bc.frame, fun closed =>
      (bc.store (ab.frame.phase.trans closed)).trans (ab.store closed)⟩
  action w action actor key :=
    ⟨(respected_reaches.action w action actor key).frame, fun closed =>
      Environment.act_store_of_closed closed action⟩
  access a w ha := ⟨(a.apply_frame w).1, fun _ => (a.apply_frame w).2 (Access.isWrite_eq_false ha)⟩

/-! ## The ends of a tick -/

open World

namespace Simulation

variable (s : Simulation M T) (w : World M)

/-- What a tick leaves behind, however it ends: the run has begun, and the window is closed. -/
structure Shut (s : Simulation M T) (w : World M) (tick : UInt64) : Prop where
  begun : s.status ≠ .notStarted
  closed : w.environment.window.phase = .closed
  tick : w.environment.window.tick = tick

variable {s w}

/-- However a tick ends, it ends with the window closed. -/
lemma Ticks.shut {clock : Clock T} {out : Outcome M T (TickSummary T)}
    (h : s.Ticks w clock out) : Shut out.simulation out.world clock.ticks := by
  have steps : (s.stepsIn w clock).2.environment.window.tick = clock.ticks :=
    (stepAll_reaches (w.openTick clock.ticks) s.driver.execution (s.schedule clock.ticks)
      clock.context (s.enterTick clock w.environment).participants).frame.tick
  have executes := (executeAll_respects (s.stepsIn w clock).2 respected_steady
    s.driver.componentFailure clock.context s.plugins).frame.tick.trans steps
  cases h with
  | stepFailed abort failures => exact ⟨nofun, rfl, steps⟩
  | executeFailed goesOn aborted => exact ⟨nofun, rfl, executes⟩
  | actionFailed goesOn completed abort failures => exact ⟨nofun, rfl, executes⟩
  | ended goesOn completed settled => exact ⟨nofun, rfl, executes⟩

/-- A tick that can begin leaves the window closed, at its own number if it opened it. -/
theorem runTick_shut [Time T] (runnable : ¬s.status.isOver = true) :
    Shut (s.runTick w).simulation (s.runTick w).world
      ((s.opens?.map Clock.ticks).getD w.environment.window.tick) := by
  cases advanced : s.clock.increment with
  | error cause =>
    rw [runTick_of_stuck runnable advanced, opens?, if_neg runnable, advanced]
    refine ⟨fun unstarted => ?_, rfl, rfl⟩
    cases unstarted
  | ok clock =>
    have opens := opens?_eq_some_iff.2 ⟨runnable, advanced⟩
    rw [opens]
    exact (runTick_ticks opens).shut

/-- To spawn participants changes neither status nor window. -/
lemma spawn_steady (create : Factory M T) (names : List String) :
    (s.spawn w create names).simulation.status = s.status ∧
      Steady w (s.spawn w create names).world :=
  spawnFrom_induction (P := fun s' w' _ => s'.status = s.status ∧ Steady w w')
    (fun _ w' _ p h => ⟨h.1, respected_steady.trans h.2 (perform_respects respected_steady w' p)⟩)
    (fun s' w' _ p h => ⟨(addParticipant_status p).trans h.1,
      respected_steady.trans h.2 (addParticipant_respects s' w' respected_steady p)⟩)
    [] ⟨rfl, respected_steady.refl w⟩

/-- The end of a run closes the window. -/
lemma finish_shut (runnable : ¬s.status.isOver = true) :
    Shut (s.finish w).simulation (s.finish w).world w.environment.window.tick := by
  obtain ⟨simulation, world⟩ := finish_of_not_over (w := w) runnable
  have still := (completeAll_respects w.closeTick.2 respected_steady s.plugins).frame
  rw [simulation, world]
  exact ⟨nofun, still.phase, still.tick⟩

/-- The end of a run never changes the store: the window closes before any plugin is called. -/
lemma finish_store : (s.finish w).world.environment.store = w.environment.store := by
  by_cases isOver : s.status.isOver = true
  · rw [(finish_of_over isOver).2]
  · -- plugins are called behind the closed window
    rw [(finish_of_not_over isOver).2]
    exact (completeAll_respects w.closeTick.2 respected_steady s.plugins).store rfl

end Simulation

/-! ## The window over a history -/

namespace Progress

/-- The tick that was opened last. -/
def lastOpened (g : Progress M T) : UInt64 := g.opened.getLast?.getD 0

/-- The window follows the status: in setup before the first tick, and closed where the last tick
left it between later calls. -/
structure Gated (g : Progress M T) : Prop where
  setup : g.simulation.status = .notStarted → g.environment.window.phase = .setup
  closed : g.simulation.status ≠ .notStarted → g.environment.window.phase = .closed
  tick : g.environment.window.tick = g.lastOpened

/-- A call that keeps the status, moves no window and opens no tick keeps the window in step. -/
lemma Gated.of_steady {g g' : Progress M T} (h : g.Gated)
    (status : g'.simulation.status = g.simulation.status) (steady : Steady g.world g'.world)
    (opened : g'.opened = g.opened) : g'.Gated where
  setup hs := steady.frame.phase.trans (h.setup (status ▸ hs))
  closed hs := steady.frame.phase.trans (h.closed (status ▸ hs))
  tick := by rw [lastOpened, opened]; exact steady.frame.tick.trans h.tick

/-- A simulation behind a closed window is gated. -/
lemma Gated.of_shut {g : Progress M T} (h : Simulation.Shut g.simulation g.world g.lastOpened) :
    g.Gated :=
  ⟨fun hs => absurd hs h.begun, fun _ => h.closed, h.tick⟩

variable [Time T]

/-- The tick that was opened last is that of the last call that opened one. -/
lemma lastOpened_next (g : Progress M T) (c : DriverCall M T) :
    (g.next c).lastOpened = (c.opens? g.simulation).getD g.lastOpened := by
  rw [lastOpened, next]
  cases c.opens? g.simulation <;> simp [lastOpened]

/-- Every call of the driver keeps the window in step with the status. -/
theorem Gated.next {g : Progress M T} (h : g.Gated) (c : DriverCall M T) : (g.next c).Gated := by
  cases c with
  | add p =>
    exact h.of_steady (Simulation.addParticipant_status p)
      (Simulation.addParticipant_respects _ _ respected_steady p) (List.append_nil _)
  | spawn create names =>
    obtain ⟨status, steady⟩ := Simulation.spawn_steady (s := g.simulation) (w := g.world) create
      names
    exact h.of_steady status steady (List.append_nil _)
  | addPlugin p =>
    exact h.of_steady (Simulation.addPlugin_status p)
      (Simulation.addPlugin_respects _ _ respected_steady p) (List.append_nil _)
  | tick =>
    by_cases isOver : g.simulation.status.isOver = true
    · refine h.of_steady ?_ ?_ ?_
      all_goals simp only [Progress.next, DriverCall.outcome, Simulation.runTick_of_over isOver]
      · exact respected_steady.refl _
      · simp [DriverCall.opens?, Simulation.opens?, isOver]
    · refine .of_shut ?_
      have shut := Simulation.runTick_shut (w := g.world) isOver
      rw [lastOpened_next, ← h.tick]
      exact shut
  | finish =>
    by_cases isOver : g.simulation.status.isOver = true
    · obtain ⟨simulation, world⟩ := Simulation.finish_of_over (w := g.world) isOver
      refine h.of_steady (congrArg _ simulation) ?_ (List.append_nil _)
      rw [Progress.next, DriverCall.outcome, world]
      exact respected_steady.refl _
    · refine .of_shut ?_
      have shut := Simulation.finish_shut (w := g.world) isOver
      rw [lastOpened_next, ← h.tick]
      exact shut
  | outside p =>
    exact h.of_steady rfl (perform_respects respected_steady g.world p) (List.append_nil _)

/-- The window is in step with the status after every history. -/
theorem gated_after (x : Plan M T) (history : List (DriverCall M T)) : (x.after history).Gated :=
  Plan.after_induction ⟨fun _ => rfl, fun h => absurd rfl h, rfl⟩ (fun _ c h => h.next c) history

/-! ## The store -/

/-- Outside ticks no call of the driver changes the store once the run has begun. -/
lemma next_store {g : Progress M T} (h : g.Gated) (begun : g.simulation.status ≠ .notStarted)
    {c : DriverCall M T} (hc : c ≠ .tick) : (g.next c).environment.store = g.environment.store := by
  have closed := h.closed begun
  cases c with
  | add p => exact (Simulation.addParticipant_respects _ _ respected_steady p).store closed
  | spawn create names => exact (Simulation.spawn_steady create names).2.store closed
  | addPlugin p => exact (Simulation.addPlugin_respects _ _ respected_steady p).store closed
  | tick => exact absurd rfl hc
  | finish => exact Simulation.finish_store
  | outside p => exact (perform_respects respected_steady g.world p).store closed

/-- A run that is over stays over, and no call of the driver changes its store. -/
lemma next_of_over {g : Progress M T} (h : g.Gated) (isOver : g.simulation.status.isOver = true)
    (c : DriverCall M T) :
    (g.next c).simulation.status.isOver = true ∧
      (g.next c).environment.store = g.environment.store := by
  have begun : g.simulation.status ≠ .notStarted := by
    intro hs
    rw [hs] at isOver
    cases isOver
  refine ⟨?_, ?_⟩
  · cases c with
    | add p => exact (congrArg _ (Simulation.addParticipant_status p)).trans isOver
    | spawn create names => exact (congrArg _ (Simulation.spawn_steady create names).1).trans isOver
    | addPlugin p => exact (congrArg _ (Simulation.addPlugin_status p)).trans isOver
    | tick =>
      rw [next, DriverCall.outcome, Simulation.runTick_of_over isOver]
      exact isOver
    | finish =>
      rw [next, DriverCall.outcome, (Simulation.finish_of_over isOver).1]
      exact isOver
    | outside p => exact isOver
  · by_cases hc : c = .tick
    · subst hc
      rw [next, DriverCall.outcome, Simulation.runTick_of_over isOver]
      rfl
    · exact next_store h begun hc

/-- Nothing that follows a run that is over changes its store. -/
lemma foldl_store_of_over {g : Progress M T} (h : g.Gated)
    (isOver : g.simulation.status.isOver = true) (later : List (DriverCall M T)) :
    (later.foldl next g).environment.store = g.environment.store := by
  induction later generalizing g with
  | nil => rfl
  | cons c rest ih =>
    obtain ⟨still, store⟩ := next_of_over h isOver c
    exact (ih (h.next c) still).trans store

end Progress

/-- Before the first tick the window is in setup, and every action with a current key goes to the
handler of its tag. From then on, between two calls of the driver, the window is closed: every
action with a current key is refused in the name of the tick opened last. So the store changes only
in ticks, the end of a run does not change it, and once the run is over it never changes again. -/
theorem store_frozen_outside_ticks [Time T] (x : Plan M T) (history : List (DriverCall M T)) :
    let g := x.after history
    let e := g.environment
    (g.simulation.status = .notStarted → e.window.phase = .setup ∧
      ∀ action id key, e.isCurrent id key = true →
        e.route action id key = e.registry.resolve action.tag) ∧
    (g.simulation.status ≠ .notStarted → e.window.phase = .closed ∧
      ∀ action id key, e.isCurrent id key = true → g.world.call (.act action id key) =
        (.error (.tickClosed g.lastOpened), { g.world with environment := e.record .addRefused })) ∧
    (g.simulation.status ≠ .notStarted → ∀ c, c ≠ .tick →
      (g.next c).environment.store = e.store) ∧
    (g.next .finish).environment.store = e.store ∧
    (g.simulation.status.isOver = true → ∀ later,
      (x.after (history ++ later)).environment.store = e.store) := by
  intro g e
  have gated : g.Gated := Progress.gated_after x history
  refine ⟨fun fresh => ⟨gated.setup fresh, ?_⟩, fun begun => ⟨gated.closed begun, ?_⟩,
    fun begun c hc => Progress.next_store gated begun hc, Simulation.finish_store, ?_⟩
  · intro action id key current
    refine Environment.route_of_open ?_ current action
    rw [gated.setup fresh]
    nofun
  · intro action id key current
    have refused := Environment.route_of_closed (gated.closed begun) current action
    rw [gated.tick] at refused
    rw [World.call_act]
    exact congrArg g.world.inEnvironment (Environment.act_of_route_error refused)
  · intro isOver later
    rw [Plan.after_append]
    exact Progress.foldl_store_of_over gated isOver later

end Cadence
