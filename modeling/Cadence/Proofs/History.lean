import Cadence.Simulation.Basic
import Cadence.Proofs.Registration

/-!
# Histories of a simulation

A history is a list of calls of the driver, with anything that others do to the environment between
them (`DriverCall.outside`). `Plan.after` carries it out from a fresh environment, whatever the
calls answer, and keeps the hooks that were called and the ticks that were opened. What holds at the
start and is preserved by every call holds after every history (`Plan.after_induction`).
-/

namespace Cadence

variable {M T α : Type}

/-! ## Calls of the driver -/

/-- What a driver does with its simulation, and others with the environment between. -/
inductive DriverCall (M T : Type) where
  | add (p : Participant M T)
  | spawn (create : Simulation.Factory M T) (names : List String)
  | addPlugin (p : Plugin M T)
  | tick
  | finish
  | outside (p : Program M Unit)

/-- What a call of the driver answers when it succeeds. -/
abbrev DriverCall.Answer : DriverCall M T → Type
  | add _ => ParticipantId
  | spawn _ _ => List ParticipantId
  | addPlugin _ => PluginId
  | tick => TickSummary T
  | finish => Unit
  | outside _ => Unit

/-- What a call of the driver comes to. -/
def DriverCall.outcome [Time T] (s : Simulation M T) (w : World M) :
    (c : DriverCall M T) → Outcome M T c.Answer
  | add p => s.addParticipant w p
  | spawn create names => s.spawn w create names
  | addPlugin p => s.addPlugin w p
  | tick => s.runTick w
  | finish => s.finish w
  | outside p => { result := .ok (), simulation := s, world := (w.perform p).2 }

/-- The clock of the tick that the simulation would run next. -/
def Simulation.opens? [Time T] (s : Simulation M T) : Option (Clock T) :=
  if s.status.isOver then none else s.clock.increment.toOption

/-- The tick that a call of the driver opens. -/
def DriverCall.opens? [Time T] (s : Simulation M T) : DriverCall M T → Option UInt64
  | tick => s.opens?.map Clock.ticks
  | _ => none

/-! ## Histories -/

/-- What a simulation starts from: a world before anybody joins, and its own policies. -/
structure Plan (M T : Type) extends Setting M where
  clock : Clock T
  driver : DriverConfig
  schedule : UInt64 → List Nat
  participantIds : Nat → ParticipantId
  pluginIds : Nat → PluginId

/-- Where a simulation stands, the hooks called so far, and the ticks opened so far. -/
structure Progress (M T : Type) where
  simulation : Simulation M T
  world : World M
  calls : List (HookCall T) := []
  opened : List UInt64 := []

namespace Progress

/-- Carry out one call of the driver, whatever it answers. -/
def next [Time T] (g : Progress M T) (c : DriverCall M T) : Progress M T where
  simulation := (c.outcome g.simulation g.world).simulation
  world := (c.outcome g.simulation g.world).world
  calls := g.calls ++ (c.outcome g.simulation g.world).calls
  opened := g.opened ++ (c.opens? g.simulation).toList

/-- The environment as it stands. -/
def environment (g : Progress M T) : Environment := g.world.environment

end Progress

namespace Plan

/-- The simulation before anything has happened. -/
def start (x : Plan M T) : Progress M T where
  simulation :=
    { clock := x.clock
      driver := x.driver
      schedule := x.schedule
      participantIds := x.participantIds
      pluginIds := x.pluginIds }
  world := x.world

/-- Where a history leads. -/
def after [Time T] (x : Plan M T) (history : List (DriverCall M T)) : Progress M T :=
  history.foldl Progress.next x.start

variable [Time T] {x : Plan M T}

/-- A history after another goes on where that one ends. -/
lemma after_append (h₁ h₂ : List (DriverCall M T)) :
    x.after (h₁ ++ h₂) = h₂.foldl Progress.next (x.after h₁) :=
  List.foldl_append

end Plan

/-- What calls of the driver preserve is preserved by a history. -/
theorem Progress.foldl_induction [Time T] {P : Progress M T → Prop} {g : Progress M T} (start : P g)
    (next : ∀ g c, P g → P (g.next c)) (history : List (DriverCall M T)) :
    P (history.foldl Progress.next g) := by
  induction history generalizing g with
  | nil => exact start
  | cons c rest ih => exact ih (next g c start)

/-- What holds at the start and is preserved by every call of the driver holds after every history.
-/
theorem Plan.after_induction [Time T] {x : Plan M T} {P : Progress M T → Prop} (start : P x.start)
    (next : ∀ g c, P g → P (g.next c)) (history : List (DriverCall M T)) : P (x.after history) :=
  Progress.foldl_induction start next history

/-! ## How components join -/

namespace Simulation

/-- How adding a participant comes out. -/
inductive Adds (s : Simulation M T) (w : World M) (p : Participant M T) :
    Outcome M T ParticipantId → Prop where
  | unrunnable (e : TickError) : Adds s w p { result := .error e, simulation := s, world := w }
  | refused {e : EnvironmentError} {w₁ : World M}
      (registered : w.call (.register p.id p.name) = (.error e, w₁)) :
      Adds s w p { result := .error (.environment e), simulation := s, world := w₁ }
  | joined {admission : Admission} {w₁ w₂ : World M} {ending : HookEnd}
      (registered : w.call (.register p.id p.name) = (.ok admission, w₁))
      (initialised : w₁.perform (p.initialise (.ofAdmission admission)) = (ending, w₂))
      (fine : ending.guarded = .ok ()) :
      Adds s w p
        { result := .ok p.id
          simulation := { s with participants := s.participants ++ [⟨p, admission.key, false⟩] }
          world := w₂
          calls := [⟨.participant p.id p.name, some admission.key, .initialise, none, ending⟩] }
  | failed {admission : Admission} {w₁ w₂ : World M} {ending : HookEnd} {cause : ComponentError}
      (registered : w.call (.register p.id p.name) = (.ok admission, w₁))
      (initialised : w₁.perform (p.initialise (.ofAdmission admission)) = (ending, w₂))
      (bad : ending.guarded = .error cause) :
      Adds s w p
        { result := .error (.initialise (.participant p.id p.name) cause)
          simulation := s
          world := (w₂.call (.deregister p.id admission.key)).2
          calls := [⟨.participant p.id p.name, some admission.key, .initialise, none, ending⟩] }

/-- How adding a plugin comes out. -/
inductive AddsPlugin (s : Simulation M T) (w : World M) (p : Plugin M T) :
    Outcome M T PluginId → Prop where
  | unrunnable (e : TickError) :
      AddsPlugin s w p { result := .error e, simulation := s, world := w }
  | joined {w₁ : World M} {ending : HookEnd} (initialised : w.perform p.initialise = (ending, w₁))
      (fine : ending.guarded = .ok ()) :
      AddsPlugin s w p
        { result := .ok (s.pluginIds s.pluginsMade)
          simulation :=
            { s with
              pluginsMade := s.pluginsMade + 1
              plugins := s.plugins ++ [⟨s.pluginIds s.pluginsMade, p, false⟩] }
          world := w₁
          calls := [⟨.plugin (s.pluginIds s.pluginsMade) p.name, none, .initialise, none, ending⟩] }
  | failed {w₁ : World M} {ending : HookEnd} {cause : ComponentError}
      (initialised : w.perform p.initialise = (ending, w₁)) (bad : ending.guarded = .error cause) :
      AddsPlugin s w p
        { result := .error (.initialise (.plugin (s.pluginIds s.pluginsMade) p.name) cause)
          simulation := { s with pluginsMade := s.pluginsMade + 1 }
          world := w₁
          calls := [⟨.plugin (s.pluginIds s.pluginsMade) p.name, none, .initialise, none, ending⟩] }

variable (s : Simulation M T) (w : World M)

/-- How adding a participant comes out. -/
theorem addParticipant_adds (p : Participant M T) : Adds s w p (s.addParticipant w p) := by
  rw [addParticipant]
  cases s.checkRunnable with
  | error e => exact .unrunnable e
  | ok u =>
    dsimp only
    rcases registered : w.call (.register p.id p.name) with ⟨_ | admission, w₁⟩
    · exact .refused registered
    · dsimp only
      rcases initialised : w₁.perform (p.initialise (.ofAdmission admission)) with ⟨ending, w₂⟩
      dsimp only
      cases guarded : ending.guarded with
      | ok u => exact .joined registered initialised guarded
      | error cause => exact .failed registered initialised guarded

/-- How adding a plugin comes out. -/
theorem addPlugin_adds (p : Plugin M T) : AddsPlugin s w p (s.addPlugin w p) := by
  rw [addPlugin]
  cases s.checkRunnable with
  | error e => exact .unrunnable e
  | ok u =>
    dsimp only
    rcases initialised : w.perform p.initialise with ⟨ending, w₁⟩
    dsimp only
    cases guarded : ending.guarded with
    | ok u => exact .joined initialised guarded
    | error cause => exact .failed initialised guarded

end Simulation

/-! ## What calls do to the world

A participant that joins, a plugin and the completion of plugins run programs and nothing else, so
they respect whatever programs respect. -/

open World

/-- Accesses that lead from a world to another are what programs do. -/
lemma World.respected_reaches : Respected (Reaches (M := M)) where
  refl _ := .refl
  trans := .trans
  action w action actor key := by
    rw [← Thread.run_act action actor key w]
    exact Thread.run_reaches _ w
  access a w _ := reaches_apply a w

/-- A program that has been performed respects what every access respects. -/
lemma World.Respected.of_perform {R : World M → World M → Prop} (h : Respected R) {w w' : World M}
    {p : Program M α} {a : α} (run : w.perform p = (a, w')) : R w w' := by
  have kept := perform_respects h w p
  rwa [run] at kept

/-- So does a request that has been made. -/
lemma World.Respected.of_call {R : World M → World M → Prop} (h : Respected R) {w w' : World M}
    {q : Request M} {r : q.Reply} (run : w.call q = (r, w')) : R w w' := by
  have kept : R w (w.call q).2 := perform_respects h w _
  rwa [run] at kept

namespace Simulation

variable {R : World M → World M → Prop} (s : Simulation M T) (w : World M)

/-- So does adding a participant. -/
lemma addParticipant_respects (h : Respected R) (p : Participant M T) :
    R w (s.addParticipant w p).world := by
  have adds := s.addParticipant_adds w p
  generalize s.addParticipant w p = out at adds ⊢
  cases adds with
  | unrunnable e => exact h.refl w
  | refused registered => exact h.of_call registered
  | joined registered initialised fine =>
    exact h.trans (h.of_call registered) (h.of_perform initialised)
  | failed registered initialised bad =>
    have before := h.trans (h.of_call registered) (h.of_perform initialised)
    exact h.trans before (perform_respects h _ _)

/-- So does adding a plugin. -/
lemma addPlugin_respects (h : Respected R) (p : Plugin M T) : R w (s.addPlugin w p).world := by
  have adds := s.addPlugin_adds w p
  generalize s.addPlugin w p = out at adds ⊢
  cases adds with
  | unrunnable e => exact h.refl w
  | joined initialised fine => exact h.of_perform initialised
  | failed initialised bad => exact h.of_perform initialised

/-- So do plugins that execute. -/
lemma executeAll_respects (h : Respected R) (policy : FailurePolicy) (ctx : TickContext T)
    (slots : List (PluginSlot M T)) : R w (executeAll policy ctx slots w).world := by
  induction slots generalizing w with
  | nil => exact h.refl w
  | cons slot rest ih =>
    rw [executeAll]
    split
    · exact ih w
    · have executed := perform_respects h w (slot.plugin.execute ctx)
      dsimp only
      split
      · exact h.trans executed (ih _)
      · exact executed
      · exact h.trans executed (ih _)

/-- So do plugins that complete. -/
lemma completeAll_respects (h : Respected R) (slots : List (PluginSlot M T)) :
    R w (completeAll slots w).2.1 := by
  induction slots generalizing w with
  | nil => exact h.refl w
  | cons slot rest ih =>
    rw [completeAll]
    split
    · exact ih w
    · have completed := h.trans (perform_respects h w slot.plugin.complete) (ih _)
      dsimp only
      split <;> exact completed

/-- What the steps of a tick leave is reached by accesses. -/
lemma stepAll_reaches (mode : ExecutionMode) (schedule : List Nat) (ctx : TickContext T)
    (slots : List (ParticipantSlot M T)) :
    Reaches w (stepAll mode schedule ctx slots w).2 := by
  cases mode with
  | sequential => exact runAll_reaches (slots.map (stepThread ctx w)) w
  | concurrent => exact interleave_reaches schedule (slots.map (stepThread ctx w)) w

/-- What every joining participant preserves is preserved by all that are spawned. -/
theorem spawnFrom_induction {P : Simulation M T → World M → List (HookCall T) → Prop}
    {create : Factory M T}
    (made : ∀ s w calls (p : Program M (Participant M T)), P s w calls →
      P { s with participantsMade := s.participantsMade + 1 } (w.perform p).2 calls)
    (add : ∀ s w calls p, P s w calls → P (addParticipant s w p).simulation
      (addParticipant s w p).world (calls ++ (addParticipant s w p).calls))
    {names : List String} {n : Nat} {s : Simulation M T} {w : World M} (calls : List (HookCall T))
    (start : P s w calls) :
    P (spawnFrom create n names s w).simulation (spawnFrom create n names s w).world
      (calls ++ (spawnFrom create n names s w).calls) := by
  induction names generalizing n s w calls with
  | nil =>
    rw [spawnFrom, List.append_nil]
    exact start
  | cons name rest ih =>
    rw [spawnFrom]
    dsimp only
    have added := add _ _ _ (w.perform (create n (s.participantIds s.participantsMade) name)).1
      (made s w calls (create n (s.participantIds s.participantsMade) name) start)
    split
    · exact added
    · rw [← List.append_assoc]
      exact ih _ added

/-! ## The cases of a call -/

/-- A run that is over is not runnable. -/
lemma checkRunnable_of_over (h : s.status.isOver = true) :
    s.checkRunnable = .error (.notRunnable s.status) := by
  rw [checkRunnable, if_pos h]

/-- A run that is not over is runnable. -/
lemma checkRunnable_of_not_over (h : ¬s.status.isOver = true) : s.checkRunnable = .ok () := by
  rw [checkRunnable, if_neg h]

variable {s w}

section Adding

variable {p : Participant M T} {w₁ w₂ : World M} {admission : Admission} {ending : HookEnd}
  (runnable : ¬s.status.isOver = true)

include runnable

/-- A participant whose registration is refused is not added. -/
lemma addParticipant_of_refused {e : EnvironmentError}
    (registered : w.call (.register p.id p.name) = (.error e, w₁)) :
    s.addParticipant w p = { result := .error (.environment e), simulation := s, world := w₁ } := by
  rw [addParticipant, checkRunnable_of_not_over s runnable, registered]

/-- A participant that is registered, and whose hook ends well, gets a slot. -/
lemma addParticipant_of_joined
    (registered : w.call (.register p.id p.name) = (.ok admission, w₁))
    (initialised : w₁.perform (p.initialise (.ofAdmission admission)) = (ending, w₂))
    (fine : ending.guarded = .ok ()) :
    s.addParticipant w p =
      { result := .ok p.id
        simulation := { s with participants := s.participants ++ [⟨p, admission.key, false⟩] }
        world := w₂
        calls := [⟨.participant p.id p.name, some admission.key, .initialise, none, ending⟩] } := by
  rw [addParticipant, checkRunnable_of_not_over s runnable, registered]
  dsimp only
  rw [initialised]
  dsimp only
  rw [fine]

/-- A participant that is registered, and whose hook fails, is deregistered again. -/
lemma addParticipant_of_failed {cause : ComponentError}
    (registered : w.call (.register p.id p.name) = (.ok admission, w₁))
    (initialised : w₁.perform (p.initialise (.ofAdmission admission)) = (ending, w₂))
    (bad : ending.guarded = .error cause) :
    s.addParticipant w p =
      { result := .error (.initialise (.participant p.id p.name) cause)
        simulation := s
        world := (w₂.call (.deregister p.id admission.key)).2
        calls := [⟨.participant p.id p.name, some admission.key, .initialise, none, ending⟩] } := by
  rw [addParticipant, checkRunnable_of_not_over s runnable, registered]
  dsimp only
  rw [initialised]
  dsimp only
  rw [bad]

end Adding

section Spawning

variable {create : Factory M T} {n : Nat} {name : String} {rest : List String}
  {p : Participant M T} {w₁ w₂ : World M} {s₁ : Simulation M T} {calls : List (HookCall T)}
  (made : w.perform (create n (s.participantIds s.participantsMade) name) = (p, w₁))

include made

/-- A participant that can be added is spawned, and the others after it. -/
lemma spawnFrom_cons {id : ParticipantId}
    (added : addParticipant { s with participantsMade := s.participantsMade + 1 } w₁ p =
      ⟨.ok id, s₁, w₂, calls⟩) :
    spawnFrom create n (name :: rest) s w =
      { spawnFrom create (n + 1) rest s₁ w₂ with
        result := (spawnFrom create (n + 1) rest s₁ w₂).result.map (id :: ·)
        calls := calls ++ (spawnFrom create (n + 1) rest s₁ w₂).calls } := by
  rw [spawnFrom, made]
  dsimp only
  rw [added]

/-- Whoever cannot be added is the last to be created. -/
lemma spawnFrom_of_error {e : TickError}
    (failed : addParticipant { s with participantsMade := s.participantsMade + 1 } w₁ p =
      ⟨.error e, s₁, w₂, calls⟩) :
    spawnFrom create n (name :: rest) s w = ⟨.error e, s₁, w₂, calls⟩ := by
  rw [spawnFrom, made]
  dsimp only
  rw [failed]

end Spawning

/-- A run that is over refuses ticks. -/
lemma runTick_of_over [Time T] (isOver : s.status.isOver = true) :
    s.runTick w = { result := .error (.notRunnable s.status), simulation := s, world := w } := by
  rw [runTick, checkRunnable_of_over s isOver]

/-- A tick that cannot advance the clock ends the run. -/
lemma runTick_of_stuck [Time T] (runnable : ¬s.status.isOver = true) {cause : ClockError}
    (stuck : s.clock.increment = .error cause) :
    s.runTick w = s.abort w s.clock.ticks (.clock cause) [] := by
  rw [runTick, checkRunnable_of_not_over s runnable, stuck]

/-- A tick that can begin opens the window and drops who has left. -/
lemma runTick_of_opens [Time T] (runnable : ¬s.status.isOver = true) {clock : Clock T}
    (advanced : s.clock.increment = .ok clock) :
    s.runTick w = (s.enterTick clock (w.openTick clock.ticks).environment).driveTick
      (w.openTick clock.ticks) ⟨clock.ticks, clock.current⟩ := by
  rw [runTick, checkRunnable_of_not_over s runnable, advanced]

/-- A tick opens exactly if the run is not over and the clock can advance. -/
lemma opens?_eq_some_iff [Time T] {clock : Clock T} :
    s.opens? = some clock ↔ ¬s.status.isOver = true ∧ s.clock.increment = .ok clock := by
  rw [opens?]
  by_cases isOver : s.status.isOver = true
  · simp [isOver]
  · cases s.clock.increment <;> simp [isOver, Except.toOption]

/-- To add a participant leaves the status. -/
lemma addParticipant_status (p : Participant M T) :
    (s.addParticipant w p).simulation.status = s.status := by
  have adds := s.addParticipant_adds w p
  generalize s.addParticipant w p = out at adds ⊢
  cases adds with
  | unrunnable | refused | joined | failed => rfl

/-- So does adding a plugin. -/
lemma addPlugin_status (p : Plugin M T) : (s.addPlugin w p).simulation.status = s.status := by
  have adds := s.addPlugin_adds w p
  generalize s.addPlugin w p = out at adds ⊢
  cases adds with
  | unrunnable | joined | failed => rfl

/-- The end of a run that is over changes nothing. -/
lemma finish_of_over (isOver : s.status.isOver = true) :
    (s.finish w).simulation = s ∧ (s.finish w).world = w := by
  rw [finish]
  cases hs : s.status with
  | notStarted | running => rw [hs] at isOver; cases isOver
  | completed | aborted => exact ⟨rfl, rfl⟩

/-- The end of a run that is not over completes it at the tick of the clock. -/
lemma finish_of_not_over (runnable : ¬s.status.isOver = true) :
    (s.finish w).simulation = { s with status := .completed s.clock.ticks } ∧
      (s.finish w).world = (completeAll s.plugins w.closeTick.2).2.1 := by
  rw [finish]
  cases hs : s.status with
  | notStarted | running => exact ⟨rfl, rfl⟩
  | completed | aborted => rw [hs] at runnable; exact absurd rfl runnable

end Simulation

end Cadence
