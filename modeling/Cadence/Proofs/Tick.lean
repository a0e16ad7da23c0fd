import Cadence.Proofs.Answers
import Cadence.Proofs.Calls
import Cadence.Proofs.Perform

/-!
# What a tick does

Beside the calls of a tick stand the deeds of its steps and of its executions, which lead from the
opening of its window to the closing (`Simulation.Ticks.along`), so that the statistics of the tick
tell how its actions were answered (`Simulation.tick_tells`).
-/

namespace Cadence

variable {M T : Type}

namespace HookCall

/-- Whether the call was an execution. -/
def executes (c : HookCall T) : Bool := c.hook == .execute

/-- The failure that the call ended with, if it failed. -/
def failure? (c : HookCall T) : Option (ComponentRef × ComponentError) :=
  c.ending.failure?.map fun e => (c.component, e)

/-- Calls of hooks of one kind are all of the kind that is looked for, or none of them is. -/
lemma filter_hook {kind : HookKind} {calls : List (HookCall T)} (h : ∀ c ∈ calls, c.hook = kind)
    (sought : HookKind) :
    calls.filter (fun c => c.hook == sought) = if kind = sought then calls else [] := by
  split
  · next same => exact List.filter_eq_self.2 fun c mem => beq_iff_eq.2 ((h c mem).trans same)
  · next other =>
    exact List.filter_eq_nil_iff.2 fun c mem same =>
      other ((h c mem).symm.trans (beq_iff_eq.1 same))

end HookCall

namespace PluginSlot

variable (slot : PluginSlot M T) (ctx : TickContext T) {ending : HookEnd}

/-- The call of a plugin in a tick. -/
def executed (ending : HookEnd) : HookCall T :=
  ⟨slot.component, none, .execute, some ctx, ending⟩

/-- An execution that ends well is no failure. -/
lemma failure?_executed_fine (fine : ending.guarded = .ok ()) :
    (slot.executed ctx ending).failure? = none := by
  rw [HookCall.failure?, executed, HookEnd.failure?, fine]
  rfl

/-- One that ends in an error is. -/
lemma failure?_executed_bad {e : ComponentError} (bad : ending.guarded = .error e) :
    (slot.executed ctx ending).failure? = some (slot.component, e) := by
  rw [HookCall.failure?, executed, HookEnd.failure?, bad]
  rfl

end PluginSlot

namespace Simulation

/-! ## Steps -/

section Steps

variable (mode : ExecutionMode) (schedule : List Nat) (ctx : TickContext T)
  (slots : List (ParticipantSlot M T)) (w : World M)

/-- What participants do when they are stepped. -/
def stepDeeds : List (Deed M) :=
  match mode with
  | .sequential => World.deedsOfAll (slots.map (stepThread ctx w)) w
  | .concurrent => World.deedsSideBySide schedule (slots.map (stepThread ctx w)) w

/-- What steps do leads to the world that they leave. -/
lemma stepDeeds_along :
    w.Along (stepDeeds mode schedule ctx slots w) (stepAll mode schedule ctx slots w).2 := by
  cases mode with
  | sequential => exact World.deedsOfAll_along _ w
  | concurrent => exact World.deedsSideBySide_along schedule _ w

/-- A step that was made a thread in one world is taken in another that is alike. -/
lemma run_stepThread {w w' : World M} (alike : w.Alike w') {slot : ParticipantSlot M T}
    (unfailed : slot.failed = false) :
    (stepThread ctx w slot).run w' = ((some (w'.perform (slot.participant.step ctx)).1),
      (w'.perform (slot.participant.step ctx)).2) := by
  rw [stepThread, unfailed, if_neg Bool.false_ne_true, Thread.map, Thread.run_bind,
    World.run_thread alike]
  rfl

/-- The accesses of a step account for its actions. -/
lemma stepThread_balanced (slot : ParticipantSlot M T) : (stepThread ctx w slot).Balanced := by
  have closed := Thread.closed_balanced (M := M)
  rw [stepThread]
  split
  · exact closed.done none
  · exact closed.bind (closed.thread w _) fun ending => closed.done (some ending)

/-- So do those of all steps together, whatever the mode. -/
lemma accounted_stepDeeds : Accounted (stepDeeds mode schedule ctx slots w) := by
  have balanced : ∀ t ∈ slots.map (stepThread ctx w), t.Balanced :=
    List.forall_mem_map.2 fun slot _ => stepThread_balanced ctx w slot
  cases mode with
  | sequential =>
    obtain ⟨ways, goes, -⟩ := World.runAll_ways (slots.map (stepThread ctx w)) w
    exact goes.accounted balanced
  | concurrent =>
    obtain ⟨ways, goes⟩ := World.interleave_ways schedule (slots.map (stepThread ctx w)) w
    exact goes.accounted balanced

variable {ctx} {qs : List (Stepped (ParticipantSlot M T))}

/-- The calls of steps are of steps, and in the context of the tick. -/
lemma of_mem_stepCalls {c : HookCall T} (mem : c ∈ stepCalls ctx qs) :
    c.hook = .step ∧ c.context = some ctx := by
  obtain ⟨q, -, call⟩ := List.mem_filterMap.1 mem
  obtain ⟨ending, -, rfl⟩ := Option.map_eq_some_iff.1 call
  exact ⟨rfl, rfl⟩

/-- The failures of the calls are those of the steps. -/
lemma failures_stepCalls : (stepCalls ctx qs).filterMap HookCall.failure? = stepFailures qs := by
  rw [stepCalls, stepFailures, List.filterMap_filterMap]
  refine List.filterMap_congr fun q _ => ?_
  cases q.2 <;> rfl

end Steps

/-! ## Executions -/

/-- What plugins do when they execute. -/
def executeDeeds (policy : FailurePolicy) (ctx : TickContext T) :
    List (PluginSlot M T) → World M → List (Deed M)
  | [], _ => []
  | slot :: rest, w =>
    if slot.failed then executeDeeds policy ctx rest w
    else
      let others := executeDeeds policy ctx rest (w.perform (slot.plugin.execute ctx)).2
      w.deedsOf (slot.plugin.execute ctx) ++
        match (w.perform (slot.plugin.execute ctx)).1.guarded, policy with
        | .error _, .abort => []
        | _, _ => others

/-- How executing plugins comes out, and what they do: one that has failed before is passed over,
and a failure ends the executions or leaves the plugin out from then on. -/
inductive Executes (policy : FailurePolicy) (ctx : TickContext T) :
    List (PluginSlot M T) → World M → List (Deed M) → Executed M T → Prop where
  | nil (w : World M) : Executes policy ctx [] w [] ⟨[], [], 0, none, w, []⟩
  | passed {slot : PluginSlot M T} {rest : List (PluginSlot M T)} {w : World M}
      {ds : List (Deed M)} {others : Executed M T} (before : slot.failed = true)
      (goesOn : Executes policy ctx rest w ds others) :
      Executes policy ctx (slot :: rest) w ds { others with slots := slot :: others.slots }
  | fine {slot : PluginSlot M T} {rest : List (PluginSlot M T)} {w : World M} {ending : HookEnd}
      {ds : List (Deed M)} {others : Executed M T} (runs : slot.failed = false)
      (ended : (w.perform (slot.plugin.execute ctx)).1 = ending) (fine : ending.guarded = .ok ())
      (goesOn : Executes policy ctx rest (w.perform (slot.plugin.execute ctx)).2 ds others) :
      Executes policy ctx (slot :: rest) w (w.deedsOf (slot.plugin.execute ctx) ++ ds)
        { others with
          slots := slot :: others.slots
          count := others.count + 1
          calls := slot.executed ctx ending :: others.calls }
  | aborted {slot : PluginSlot M T} {rest : List (PluginSlot M T)} {w : World M}
      {ending : HookEnd} {e : ComponentError} (runs : slot.failed = false)
      (ended : (w.perform (slot.plugin.execute ctx)).1 = ending) (bad : ending.guarded = .error e)
      (abort : policy = .abort) :
      Executes policy ctx (slot :: rest) w (w.deedsOf (slot.plugin.execute ctx))
        ⟨slot :: rest, [], 1, some (slot.component, e), (w.perform (slot.plugin.execute ctx)).2,
          [slot.executed ctx ending]⟩
  | failed {slot : PluginSlot M T} {rest : List (PluginSlot M T)} {w : World M} {ending : HookEnd}
      {e : ComponentError} {ds : List (Deed M)} {others : Executed M T} (runs : slot.failed = false)
      (ended : (w.perform (slot.plugin.execute ctx)).1 = ending) (bad : ending.guarded = .error e)
      (carryOn : policy = .carryOn)
      (goesOn : Executes policy ctx rest (w.perform (slot.plugin.execute ctx)).2 ds others) :
      Executes policy ctx (slot :: rest) w (w.deedsOf (slot.plugin.execute ctx) ++ ds)
        { others with
          slots := { slot with failed := true } :: others.slots
          failures := (slot.component, e) :: others.failures
          count := others.count + 1
          calls := slot.executed ctx ending :: others.calls }

/-- How executing all plugins comes out. -/
theorem executeAll_executes (policy : FailurePolicy) (ctx : TickContext T)
    (slots : List (PluginSlot M T)) (w : World M) :
    Executes policy ctx slots w (executeDeeds policy ctx slots w)
      (executeAll policy ctx slots w) := by
  induction slots generalizing w with
  | nil => exact .nil w
  | cons slot rest ih =>
    rw [executeAll, executeDeeds]
    cases before : slot.failed with
    | true => exact .passed before (ih w)
    | false =>
      dsimp only
      rw [if_neg Bool.false_ne_true, if_neg Bool.false_ne_true]
      cases ended : (w.perform (slot.plugin.execute ctx)).1.guarded with
      | ok u => exact .fine before rfl ended (ih _)
      | error e =>
        cases policy with
        | abort =>
          dsimp only
          rw [List.append_nil]
          exact .aborted before rfl ended rfl
        | carryOn => exact .failed before rfl ended rfl (ih _)

namespace Executes

variable {policy : FailurePolicy} {ctx : TickContext T} {slots : List (PluginSlot M T)}
  {w : World M} {ds : List (Deed M)} {out : Executed M T}

/-- What executions do leads to the world that they leave. -/
lemma along (h : Executes policy ctx slots w ds out) : w.Along ds out.world := by
  induction h with
  | nil w => exact rfl
  | passed before goesOn ih => exact ih
  | @aborted slot rest w ending e runs ended bad abort => exact w.deedsOf_along _
  | @fine slot rest w ending ds others runs ended fine goesOn ih =>
    exact (w.deedsOf_along _).append ih
  | @failed slot rest w ending e ds others runs ended bad carryOn goesOn ih =>
    exact (w.deedsOf_along _).append ih

/-- The accesses of executions account for their actions. -/
lemma accounted (h : Executes policy ctx slots w ds out) : Accounted ds := by
  induction h with
  | nil w => exact rfl
  | passed before goesOn ih => exact ih
  | @aborted slot rest w ending e runs ended bad abort => exact w.accounted_deedsOf _
  | @fine slot rest w ending ds others runs ended fine goesOn ih =>
    exact (w.accounted_deedsOf _).append ih
  | @failed slot rest w ending e ds others runs ended bad carryOn goesOn ih =>
    exact (w.accounted_deedsOf _).append ih

/-- The calls of executions are of executions, and in the context of the tick. -/
lemma of_mem (h : Executes policy ctx slots w ds out) :
    ∀ c ∈ out.calls, c.hook = .execute ∧ c.context = some ctx := by
  induction h with
  | nil w => exact fun _ mem => absurd mem List.not_mem_nil
  | passed before goesOn ih => exact ih
  | aborted runs ended bad abort =>
    exact List.forall_mem_cons.2 ⟨⟨rfl, rfl⟩, fun _ mem => absurd mem List.not_mem_nil⟩
  | fine runs ended fine goesOn ih => exact List.forall_mem_cons.2 ⟨⟨rfl, rfl⟩, ih⟩
  | failed runs ended bad carryOn goesOn ih => exact List.forall_mem_cons.2 ⟨⟨rfl, rfl⟩, ih⟩

/-- Plugins that have not failed before are called in order, and all of them unless a failure ends
the executions. -/
lemma components (h : Executes policy ctx slots w ds out) :
    ∃ left, (slots.filter fun slot => !slot.failed).map PluginSlot.component =
      out.calls.map HookCall.component ++ left ∧ (out.abortedBy = none → left = []) := by
  induction h with
  | nil w => exact ⟨[], rfl, fun _ => rfl⟩
  | passed before goesOn ih =>
    rw [List.filter_cons_of_neg (by rw [before]; nofun)]
    exact ih
  | aborted runs ended bad abort =>
    rw [List.filter_cons_of_pos (by rw [runs]; rfl)]
    exact ⟨_, rfl, nofun⟩
  | fine runs ended fine goesOn ih | failed runs ended bad carryOn goesOn ih =>
    rw [List.filter_cons_of_pos (by rw [runs]; rfl)]
    obtain ⟨left, eq, all⟩ := ih
    exact ⟨left, congrArg (_ :: ·) eq, all⟩

/-- Executions change no slot but in its mark. -/
lemma slots_eq (h : Executes policy ctx slots w ds out) :
    out.slots.map PluginSlot.component = slots.map PluginSlot.component := by
  induction h with
  | nil w => rfl
  | passed before goesOn ih => exact congrArg (_ :: ·) ih
  | aborted runs ended bad abort => rfl
  | fine runs ended fine goesOn ih => exact congrArg (_ :: ·) ih
  | failed runs ended bad carryOn goesOn ih => exact congrArg (_ :: ·) ih

/-- Executions that no failure ends list the failures of their calls; under the policy to abort
there is none. -/
lemma of_completed (h : Executes policy ctx slots w ds out) (completed : out.abortedBy = none) :
    out.failures = out.calls.filterMap HookCall.failure? ∧ out.count = out.calls.length ∧
      (policy = .abort → out.calls.filterMap HookCall.failure? = []) := by
  induction h with
  | nil w => exact ⟨rfl, rfl, fun _ => rfl⟩
  | passed before goesOn ih => exact ih completed
  | aborted runs ended bad abort => cases completed
  | @fine slot _ _ ending _ _ runs ended fine goesOn ih =>
    obtain ⟨failures, count, unfailed⟩ := ih completed
    rw [List.filterMap_cons_none (slot.failure?_executed_fine ctx fine)]
    exact ⟨failures, congrArg (· + 1) count, unfailed⟩
  | @failed slot _ _ ending e _ _ runs ended bad carryOn goesOn ih =>
    obtain ⟨failures, count, -⟩ := ih completed
    rw [List.filterMap_cons_some (slot.failure?_executed_bad ctx bad)]
    refine ⟨congrArg (_ :: ·) failures, congrArg (· + 1) count, ?_⟩
    intro abort
    rw [abort] at carryOn
    cases carryOn

/-- A failure ends executions only under the policy to abort, and it is the first of them and that
of the last call. -/
lemma of_aborted (h : Executes policy ctx slots w ds out) {f : ComponentRef × ComponentError}
    (aborted : out.abortedBy = some f) :
    policy = .abort ∧ ∃ before last, out.calls = before ++ [last] ∧
      before.filterMap HookCall.failure? = [] ∧ last.failure? = some f := by
  induction h with
  | nil w => cases aborted
  | passed before goesOn ih => exact ih aborted
  | @aborted slot _ _ ending e runs ended bad abort =>
    cases aborted
    exact ⟨abort, [], _, rfl, rfl, slot.failure?_executed_bad ctx bad⟩
  | @fine slot _ _ ending _ _ runs ended fine goesOn ih =>
    obtain ⟨abort, before, last, calls, unfailed, failed⟩ := ih aborted
    refine ⟨abort, slot.executed ctx ending :: before, last, congrArg (_ :: ·) calls, ?_, failed⟩
    rwa [List.filterMap_cons_none (slot.failure?_executed_fine ctx fine)]
  | failed runs ended bad carryOn goesOn ih =>
    rw [(ih aborted).1] at carryOn
    cases carryOn

end Executes

/-! ## A tick that opens -/

section Opened

variable (s : Simulation M T) (w : World M) (clock : Clock T)

/-- What the steps of a tick do. -/
def stepDeedsIn : List (Deed M) :=
  stepDeeds s.driver.execution (s.schedule clock.ticks) clock.context
    (s.enterTick clock w.environment).participants (w.openTick clock.ticks)

/-- What the executions of a tick do. -/
def executeDeedsIn : List (Deed M) :=
  if s.StepsAbort w clock then []
  else executeDeeds s.driver.componentFailure clock.context s.plugins (s.stepsIn w clock).2

/-- What the steps of a tick do leads from its opening to the world that they leave. -/
lemma stepDeedsIn_along :
    (w.openTick clock.ticks).Along (s.stepDeedsIn w clock) (s.stepsIn w clock).2 :=
  stepDeeds_along _ _ _ _ _

/-- What the components of a tick do. -/
def deedsIn : List (Deed M) := s.stepDeedsIn w clock ++ s.executeDeedsIn w clock

variable {s w clock}

/-- How the executions of a tick come out that its steps do not end. -/
lemma executesIn_executes (goesOn : ¬s.StepsAbort w clock) :
    Executes s.driver.componentFailure clock.context s.plugins (s.stepsIn w clock).2
      (s.executeDeedsIn w clock) (s.executesIn w clock) := by
  rw [executeDeedsIn, if_neg goesOn]
  exact executeAll_executes _ _ _ _

/-- From the opening of its window to its closing a tick does what its components do. -/
theorem Ticks.along {out : Outcome M T (TickSummary T)} (h : s.Ticks w clock out) :
    ∃ w', (w.openTick clock.ticks).Along (s.deedsIn w clock) w' ∧ out.world = w'.closeTick.2 := by
  have steps := s.stepDeedsIn_along w clock
  cases h with
  | stepFailed abort failures =>
    have aborts : s.StepsAbort w clock := ⟨abort, by rw [failures]; nofun⟩
    refine ⟨(s.stepsIn w clock).2, ?_, rfl⟩
    rw [deedsIn, executeDeedsIn, if_pos aborts, List.append_nil]
    exact steps
  | executeFailed goesOn aborted => exact ⟨_, steps.append (executesIn_executes goesOn).along, rfl⟩
  | actionFailed goesOn completed abort failures =>
    exact ⟨_, steps.append (executesIn_executes goesOn).along, rfl⟩
  | ended goesOn completed settled =>
    exact ⟨_, steps.append (executesIn_executes goesOn).along, rfl⟩

/-- At the closing of its window the statistics of a tick tell how its actions were answered. -/
theorem tick_tells (goesOn : ¬s.StepsAbort w clock) :
    (s.executesIn w clock).world.environment.window.stats.Tells (answered (s.deedsIn w clock)) := by
  have executes := executesIn_executes goesOn
  refine ((s.stepDeedsIn_along w clock).append executes.along).tells rfl ?_
  exact (accounted_stepDeeds _ _ _ _ _).append executes.accounted

/-- A summary tells of the tick and the time of the clock, and how the actions of the tick were
answered. -/
lemma Ticks.summary {out : Outcome M T (TickSummary T)} (h : s.Ticks w clock out)
    {summary : TickSummary T} (ok : out.result = .ok summary) :
    summary.tick = clock.ticks ∧ summary.time = clock.current ∧
      summary.actions.Tells (answered (s.deedsIn w clock)) := by
  cases h with
  | stepFailed | executeFailed | actionFailed => cases ok
  | ended goesOn completed settled =>
    cases ok
    exact ⟨rfl, rfl, tick_tells goesOn⟩

/-! ## Which hooks a tick calls -/

/-- A tick calls its steps, and then plugins unless the steps have ended the run. -/
lemma Ticks.calls_eq {out : Outcome M T (TickSummary T)} (h : s.Ticks w clock out) :
    out.calls = stepCalls clock.context (s.stepsIn w clock).1 ++
      if s.StepsAbort w clock then [] else (s.executesIn w clock).calls := by
  cases h with
  | stepFailed abort failures =>
    have aborts : s.StepsAbort w clock := ⟨abort, by rw [failures]; nofun⟩
    rw [if_pos aborts, List.append_nil]
  | executeFailed goesOn aborted => rw [if_neg goesOn]
  | actionFailed goesOn completed abort failures => rw [if_neg goesOn]
  | ended goesOn completed settled => rw [if_neg goesOn]

/-- A tick calls steps, then executions, all of them with its own context. -/
theorem Ticks.calls {out : Outcome M T (TickSummary T)} (h : s.Ticks w clock out) :
    out.calls.filter HookCall.steps = stepCalls clock.context (s.stepsIn w clock).1 ∧
      out.calls.filter HookCall.executes =
        (if s.StepsAbort w clock then [] else (s.executesIn w clock).calls) ∧
      ∀ c ∈ out.calls, c.context = some clock.context := by
  rw [h.calls_eq]
  have steps : ∀ c ∈ stepCalls clock.context (s.stepsIn w clock).1,
      c.hook = .step ∧ c.context = some clock.context := fun c => of_mem_stepCalls
  have executes : ∀ c ∈ if s.StepsAbort w clock then [] else (s.executesIn w clock).calls,
      c.hook = .execute ∧ c.context = some clock.context := by
    split
    · exact fun _ mem => absurd mem List.not_mem_nil
    · next goesOn => exact (executesIn_executes goesOn).of_mem
  generalize stepCalls clock.context (s.stepsIn w clock).1 = stepped at steps ⊢
  generalize (if s.StepsAbort w clock then [] else (s.executesIn w clock).calls) = executed
    at executes ⊢
  have only := fun sought => (List.filter_append (p := fun c : HookCall T => c.hook == sought)
    stepped executed).trans (congrArg₂ (· ++ ·)
      (HookCall.filter_hook (fun c mem => (steps c mem).1) sought)
      (HookCall.filter_hook (fun c mem => (executes c mem).1) sought))
  refine ⟨(only .step).trans (List.append_nil stepped), only .execute, ?_⟩
  · intro c mem
    rcases List.mem_append.1 mem with step | execute
    · exact (steps c step).2
    · exact (executes c execute).2

/-- A tick keeps its plugins. -/
lemma Ticks.plugins {out : Outcome M T (TickSummary T)} (h : s.Ticks w clock out) :
    out.simulation.plugins.map PluginSlot.component = s.plugins.map PluginSlot.component := by
  cases h with
  | stepFailed abort failures => rfl
  | executeFailed goesOn aborted => exact (executesIn_executes goesOn).slots_eq
  | actionFailed goesOn completed abort failures => exact (executesIn_executes goesOn).slots_eq
  | ended goesOn completed settled => exact (executesIn_executes goesOn).slots_eq

/-- All steps of a tick come before all executions. -/
lemma Ticks.calls_split {out : Outcome M T (TickSummary T)} (h : s.Ticks w clock out) :
    out.calls = out.calls.filter HookCall.steps ++ out.calls.filter HookCall.executes := by
  obtain ⟨steps, executes, -⟩ := h.calls
  rw [steps, executes]
  exact h.calls_eq

end Opened

end Simulation

end Cadence
