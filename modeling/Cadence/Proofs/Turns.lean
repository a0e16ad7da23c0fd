import Cadence.Proofs.Lockstep
import Mathlib.Data.List.ReduceOption

/-!
# Turns of plugins

Where the hooks of plugins are called one after another, in a tick and at the end of a run, every
plugin has its turn or is passed over. `Simulation.turns` lists the turns in step with the plugins:
the entry at the place of a plugin is its call, with the world in which it is made.
-/

namespace Cadence

variable {M T : Type}

open HookCall Simulation

/-- A call of a hook of a plugin, and the world in which it is made. -/
structure PluginTurn (M T : Type) where
  world : World M
  hook : Hook M
  call : HookCall T

/-- Deeds lead to one world only. -/
lemma World.Along.unique {w w' w'' : World M} {ds : List (Deed M)} (h : w.Along ds w')
    (h' : w.Along ds w'') : w' = w'' := by
  induction ds generalizing w with
  | nil => exact h.symm.trans h'
  | cons d rest ih => exact ih h.2 h'.2

namespace PluginTurn

/-- What is done in a turn. -/
def deeds (t : PluginTurn M T) : List (Deed M) := t.world.deedsOf t.hook

/-- The world after a turn. -/
def after (t : PluginTurn M T) : World M := (t.world.perform t.hook).2

/-- A turn leads from the world in which it begins to the one after it. -/
lemma deeds_along (t : PluginTurn M T) : t.world.Along t.deeds t.after :=
  t.world.deedsOf_along t.hook

end PluginTurn

/-- The call of a plugin when a run is completed. -/
def PluginSlot.completed (slot : PluginSlot M T) (ending : HookEnd) : HookCall T :=
  ⟨slot.component, none, .complete, none, ending⟩

/-- Whether a call was the completion of a plugin. -/
def HookCall.completes (c : HookCall T) : Bool := c.hook == .complete

namespace Simulation

/-! ## One turn after another -/

/-- Whether a hook that ends so is the last that is called. -/
def Stops (policy : FailurePolicy) (ending : HookEnd) : Prop :=
  policy = .abort ∧ ending.failure? ≠ none

instance (policy : FailurePolicy) (ending : HookEnd) : Decidable (Stops policy ending) :=
  inferInstanceAs (Decidable (_ ∧ _))

section Turns

variable (policy : FailurePolicy) (hook : PluginSlot M T → Hook M)
  (call : PluginSlot M T → HookEnd → HookCall T)

/-- The turns of plugins that are called in order, those left out that have failed before; under the
policy to abort none comes after the first that fails. -/
def turns : List (PluginSlot M T) → World M → List (Option (PluginTurn M T))
  | [], _ => []
  | slot :: rest, w =>
    if slot.failed then none :: turns rest w
    else
      some ⟨w, hook slot, call slot (w.perform (hook slot)).1⟩ ::
        if Stops policy (w.perform (hook slot)).1 then []
        else turns rest (w.perform (hook slot)).2

/-- How plugins take their turns. -/
inductive TakesTurns : List (PluginSlot M T) → World M → List (Option (PluginTurn M T)) → Prop where
  | nil (w : World M) : TakesTurns [] w []
  | passed {slot : PluginSlot M T} {rest : List (PluginSlot M T)} {w : World M}
      {ts : List (Option (PluginTurn M T))} (before : slot.failed = true)
      (others : TakesTurns rest w ts) :
      TakesTurns (slot :: rest) w (none :: ts)
  | last {slot : PluginSlot M T} {rest : List (PluginSlot M T)} {w w' : World M}
      {ending : HookEnd} (runs : slot.failed = false) (ended : w.perform (hook slot) = (ending, w'))
      (stops : Stops policy ending) :
      TakesTurns (slot :: rest) w [some ⟨w, hook slot, call slot ending⟩]
  | next {slot : PluginSlot M T} {rest : List (PluginSlot M T)} {w w' : World M}
      {ending : HookEnd} {ts : List (Option (PluginTurn M T))} (runs : slot.failed = false)
      (ended : w.perform (hook slot) = (ending, w')) (goesOn : ¬Stops policy ending)
      (others : TakesTurns rest w' ts) :
      TakesTurns (slot :: rest) w (some ⟨w, hook slot, call slot ending⟩ :: ts)

/-- The turns that are computed are taken. -/
theorem turns_takesTurns (slots : List (PluginSlot M T)) (w : World M) :
    TakesTurns policy hook call slots w (turns policy hook call slots w) := by
  induction slots generalizing w with
  | nil => exact .nil w
  | cons slot rest ih =>
    rw [turns]
    cases before : slot.failed with
    | true => exact .passed before (ih w)
    | false =>
      rw [if_neg Bool.false_ne_true]
      split
      · next stops => exact .last before rfl stops
      · next goesOn => exact .next before rfl goesOn (ih _)

end Turns

namespace TakesTurns

variable {policy : FailurePolicy} {hook : PluginSlot M T → Hook M}
  {call : PluginSlot M T → HookEnd → HookCall T} {slots : List (PluginSlot M T)} {w : World M}
  {ts : List (Option (PluginTurn M T))} {n : Nat} {t : PluginTurn M T}

/-- A turn is one of the plugin at its place, which has not failed before. -/
lemma exists_slot (h : TakesTurns policy hook call slots w ts) (turn : ts[n]?.join = some t) :
    ∃ slot, slots[n]? = some slot ∧ slot.failed = false ∧ t.hook = hook slot ∧
      t.call = call slot (t.world.perform t.hook).1 := by
  induction h generalizing n with
  | nil w => cases turn
  | passed before others ih =>
    cases n with
    | zero => cases turn
    | succ n => exact ih turn
  | @last slot rest w w' ending runs ended stops =>
    cases n with
    | zero =>
      obtain rfl := Option.some.inj turn
      exact ⟨slot, rfl, runs, rfl, by rw [ended]⟩
    | succ n => cases turn
  | @next slot rest w w' ending ts runs ended goesOn others ih =>
    cases n with
    | zero =>
      obtain rfl := Option.some.inj turn
      exact ⟨slot, rfl, runs, rfl, by rw [ended]⟩
    | succ n => exact ih turn

/-- The world of a turn is what the turns before it have made of the world at the start. -/
lemma along (h : TakesTurns policy hook call slots w ts) (turn : ts[n]?.join = some t) :
    w.Along ((ts.take n).reduceOption.flatMap PluginTurn.deeds) t.world := by
  induction h generalizing n with
  | nil w => cases turn
  | passed before others ih =>
    cases n with
    | zero => cases turn
    | succ n => exact ih turn
  | last runs ended stops =>
    cases n with
    | zero =>
      obtain rfl := Option.some.inj turn
      exact rfl
    | succ n => cases turn
  | @next slot rest w w' ending ts runs ended goesOn others ih =>
    cases n with
    | zero =>
      obtain rfl := Option.some.inj turn
      exact rfl
    | succ n =>
      have first := PluginTurn.deeds_along ⟨w, hook slot, call slot ending⟩
      rw [PluginTurn.after, ended] at first
      exact first.append (ih turn)

/-- If no turn is the last, every plugin that has not failed before has its turn. -/
lemma exists_turn (h : TakesTurns .carryOn hook call slots w ts) {slot : PluginSlot M T}
    (place : slots[n]? = some slot) (unfailed : slot.failed = false) :
    ∃ t, ts[n]?.join = some t := by
  induction h generalizing n with
  | nil w => cases place
  | passed before others ih =>
    cases n with
    | zero =>
      obtain rfl := Option.some.inj place
      rw [before] at unfailed
      cases unfailed
    | succ n => exact ih place
  | last runs ended stops => cases stops.1
  | next runs ended goesOn others ih =>
    cases n with
    | zero => exact ⟨_, rfl⟩
    | succ n => exact ih place

end TakesTurns

end Simulation

/-! ## Executions and completions -/

/-- A hook that ends well has no failure. -/
lemma HookEnd.failure?_of_fine {ending : HookEnd} (fine : ending.guarded = .ok ()) :
    ending.failure? = none := by
  rw [failure?, fine]

/-- A hook that ends in an error has that failure. -/
lemma HookEnd.failure?_of_bad {ending : HookEnd} {e : ComponentError}
    (bad : ending.guarded = .error e) : ending.failure? = some e := by
  rw [failure?, bad]

namespace PluginSlot

variable (slot : PluginSlot M T)

/-- The slot without its mark. -/
def unmarked : PluginSlot M T := { slot with failed := false }

/-- Slots that differ in their marks alone have the same plugin. -/
lemma unmarked_inj {slot slot' : PluginSlot M T} (h : slot'.unmarked = slot.unmarked) :
    slot'.id = slot.id ∧ slot'.plugin = slot.plugin := by
  obtain ⟨id, plugin, failed⟩ := slot
  obtain ⟨id', plugin', failed'⟩ := slot'
  cases h
  exact ⟨rfl, rfl⟩

end PluginSlot

namespace Simulation

/-- The turns of plugins in a tick. -/
abbrev executions (policy : FailurePolicy) (ctx : TickContext T) :
    List (PluginSlot M T) → World M → List (Option (PluginTurn M T)) :=
  turns policy (fun slot => slot.plugin.execute ctx) fun slot => slot.executed ctx

/-- The turns of plugins at the end of a run. -/
abbrev completions : List (PluginSlot M T) → World M → List (Option (PluginTurn M T)) :=
  turns .carryOn (fun slot => slot.plugin.complete) PluginSlot.completed

section Executions

variable {policy : FailurePolicy} {ctx : TickContext T} {slot : PluginSlot M T}
  {rest : List (PluginSlot M T)} {w w' : World M} {ending : HookEnd}

/-- A plugin that has failed before is passed over. -/
lemma executeAll_passed (before : slot.failed = true) :
    executeAll policy ctx (slot :: rest) w =
        { executeAll policy ctx rest w with
          slots := slot :: (executeAll policy ctx rest w).slots } ∧
      executeDeeds policy ctx (slot :: rest) w = executeDeeds policy ctx rest w := by
  rw [executeAll, executeDeeds, if_pos before, if_pos before]
  exact ⟨rfl, rfl⟩

/-- Under the policy to abort a plugin that fails is the last to execute. -/
lemma executeAll_last (runs : slot.failed = false)
    (ended : w.perform (slot.plugin.execute ctx) = (ending, w')) (stops : Stops policy ending) :
    (∃ e, executeAll policy ctx (slot :: rest) w =
        ⟨slot :: rest, [], 1, some (slot.component, e), w', [slot.executed ctx ending]⟩) ∧
      executeDeeds policy ctx (slot :: rest) w = w.deedsOf (slot.plugin.execute ctx) := by
  obtain ⟨rfl, failed⟩ := stops
  rw [executeAll, executeDeeds, runs, if_neg Bool.false_ne_true, if_neg Bool.false_ne_true]
  simp only [ended]
  cases guarded : ending.guarded with
  | ok u => exact absurd (HookEnd.failure?_of_fine guarded) failed
  | error e => exact ⟨⟨e, rfl⟩, List.append_nil _⟩

/-- A plugin that runs and lets others run after it is marked if it fails. -/
lemma executeAll_next (runs : slot.failed = false)
    (ended : w.perform (slot.plugin.execute ctx) = (ending, w')) (goesOn : ¬Stops policy ending) :
    executeAll policy ctx (slot :: rest) w =
        { executeAll policy ctx rest w' with
          slots := { slot with failed := (slot.executed ctx ending).failure?.isSome } ::
            (executeAll policy ctx rest w').slots
          failures := (slot.executed ctx ending).failure?.toList ++
            (executeAll policy ctx rest w').failures
          count := (executeAll policy ctx rest w').count + 1
          calls := slot.executed ctx ending :: (executeAll policy ctx rest w').calls } ∧
      executeDeeds policy ctx (slot :: rest) w =
        w.deedsOf (slot.plugin.execute ctx) ++ executeDeeds policy ctx rest w' := by
  rw [executeAll, executeDeeds, runs, if_neg Bool.false_ne_true, if_neg Bool.false_ne_true]
  simp only [ended]
  cases guarded : ending.guarded with
  | ok u =>
    rw [slot.failure?_executed_fine ctx guarded]
    obtain ⟨id, plugin, failed⟩ := slot
    obtain rfl : failed = false := runs
    exact ⟨rfl, rfl⟩
  | error e =>
    rw [slot.failure?_executed_bad ctx guarded]
    rw [Stops, HookEnd.failure?_of_bad guarded] at goesOn
    cases policy with
    | abort => exact absurd ⟨rfl, Option.some_ne_none e⟩ goesOn
    | carryOn => exact ⟨rfl, rfl⟩

end Executions

namespace TakesTurns

variable {policy : FailurePolicy} {ctx : TickContext T} {slots : List (PluginSlot M T)}
  {w : World M} {ts : List (Option (PluginTurn M T))}

/-- Plugins that execute take turns: what is called and done is called and done in these, and slots
change in their marks alone. -/
lemma executes (h : TakesTurns policy (fun slot => slot.plugin.execute ctx)
    (fun slot => slot.executed ctx) slots w ts) :
    (executeAll policy ctx slots w).calls = ts.reduceOption.map PluginTurn.call ∧
      executeDeeds policy ctx slots w = ts.reduceOption.flatMap PluginTurn.deeds ∧
      (executeAll policy ctx slots w).slots.map PluginSlot.unmarked =
        slots.map PluginSlot.unmarked := by
  induction h with
  | nil w => exact ⟨rfl, rfl, rfl⟩
  | passed before others ih =>
    obtain ⟨calls, deeds, slots⟩ := ih
    obtain ⟨out, done⟩ := executeAll_passed before
    rw [out, done]
    exact ⟨calls, deeds, congrArg (_ :: ·) slots⟩
  | last runs ended stops =>
    obtain ⟨⟨e, out⟩, done⟩ := executeAll_last runs ended stops
    rw [out, done]
    exact ⟨rfl, (List.append_nil _).symm, rfl⟩
  | next runs ended goesOn others ih =>
    obtain ⟨calls, deeds, slots⟩ := ih
    obtain ⟨out, done⟩ := executeAll_next runs ended goesOn
    rw [out, done]
    exact ⟨congrArg (_ :: ·) calls, congrArg (_ ++ ·) deeds, congrArg (_ :: ·) slots⟩

/-- Executions that no failure ends mark exactly the plugins that fail in their turns, and those
that have failed before. -/
lemma marks (h : TakesTurns policy (fun slot => slot.plugin.execute ctx)
    (fun slot => slot.executed ctx) slots w ts)
    (completed : (executeAll policy ctx slots w).abortedBy = none) {n : Nat}
    {slot : PluginSlot M T} (place : (executeAll policy ctx slots w).slots[n]? = some slot) :
    slot.failed = true ↔ (∃ old, slots[n]? = some old ∧ old.failed = true) ∨
      ∃ t, ts[n]?.join = some t ∧ t.call.failure? ≠ none := by
  induction h generalizing n with
  | nil w => cases place
  | @passed first rest w ts before others ih =>
    rw [(executeAll_passed before).1] at completed place
    cases n with
    | zero =>
      obtain rfl := Option.some.inj place
      exact ⟨fun _ => .inl ⟨first, rfl, before⟩, fun _ => before⟩
    | succ n => exact ih completed place
  | last runs ended stops =>
    -- such a turn ends the executions
    obtain ⟨⟨e, out⟩, -⟩ := executeAll_last runs ended stops
    rw [out] at completed
    cases completed
  | @next first rest w w' ending ts runs ended goesOn others ih =>
    rw [(executeAll_next runs ended goesOn).1] at completed place
    cases n with
    | zero =>
      obtain rfl := Option.some.inj place
      have unmarked : ¬∃ old, (first :: rest)[0]? = some old ∧ old.failed = true := by
        rintro ⟨old, same, failed⟩
        obtain rfl := Option.some.inj same
        cases runs.symm.trans failed
      rw [or_iff_right unmarked]
      show (first.executed ctx ending).failure?.isSome = true ↔ _
      rw [Option.isSome_iff_ne_none]
      refine ⟨fun failed => ⟨_, rfl, failed⟩, ?_⟩
      rintro ⟨t, turn, failed⟩
      obtain rfl := Option.some.inj turn
      exact failed
    | succ n => exact ih completed place

/-- Plugins that complete take turns, all who have not failed before, and the failures are those of
the turns. -/
lemma completes {ts : List (Option (PluginTurn M T))} (h : TakesTurns .carryOn
    (fun slot => slot.plugin.complete) PluginSlot.completed slots w ts) :
    (completeAll slots w).2.2 = ts.reduceOption.map PluginTurn.call ∧
      (completeAll slots w).2.2.map HookCall.component =
        (slots.filter fun slot => !slot.failed).map PluginSlot.component ∧
      (completeAll slots w).1 =
        ((completeAll slots w).2.2.filterMap HookCall.failure?).map listed := by
  induction h with
  | nil w => exact ⟨rfl, rfl, rfl⟩
  | @passed slot rest w ts before others ih =>
    rw [completeAll, if_pos before, List.filter_cons_of_neg (by simp [before])]
    exact ih
  | last runs ended stops => cases stops.1
  | @next slot rest w w' ending ts runs ended goesOn others ih =>
    obtain ⟨calls, components, failures⟩ := ih
    rw [completeAll, runs, if_neg Bool.false_ne_true,
      List.filter_cons_of_pos (by simp [runs])]
    simp only [ended]
    have told : (slot.completed ending : HookCall T).failure? =
        ending.failure?.map fun e => (slot.component, e) := rfl
    cases guarded : ending.guarded with
    | ok u =>
      rw [HookEnd.failure?_of_fine guarded] at told
      refine ⟨congrArg (_ :: ·) calls, congrArg (_ :: ·) components, ?_⟩
      exact failures.trans (congrArg _ (List.filterMap_cons_none told).symm)
    | error e =>
      rw [HookEnd.failure?_of_bad guarded, Option.map_some] at told
      refine ⟨congrArg (_ :: ·) calls, congrArg (_ :: ·) components, ?_⟩
      exact (congrArg (_ :: ·) failures).trans
        (congrArg (List.map listed) (List.filterMap_cons_some told).symm)

/-- What plugins do on completion they do in their turns. -/
lemma completeDeeds_eq {ts : List (Option (PluginTurn M T))} (h : TakesTurns .carryOn
    (fun slot => slot.plugin.complete) PluginSlot.completed slots w ts) :
    completeDeeds slots w = ts.reduceOption.flatMap PluginTurn.deeds := by
  induction h with
  | nil w => rfl
  | passed before others ih =>
    rw [completeDeeds, if_pos before]
    exact ih
  | last runs ended stops => cases stops.1
  | next runs ended goesOn others ih =>
    rw [completeDeeds, runs, if_neg Bool.false_ne_true]
    simp only [ended]
    exact congrArg (_ ++ ·) ih

end TakesTurns

/-! ## Calls of the driver -/

section Driver

variable (s : Simulation M T) (w : World M)

end Driver

section Driver

variable (s : Simulation M T) (w : World M) (clock : Clock T)

/-- The turns of plugins in a tick that opens. -/
def executionsIn : List (Option (PluginTurn M T)) :=
  if s.StepsAbort w clock then []
  else executions s.driver.componentFailure clock.context s.plugins (s.stepsIn w clock).2

/-- The turns of plugins at the end of a run. -/
def completionsIn : List (Option (PluginTurn M T)) :=
  if s.status.isOver then [] else completions s.plugins w.closeTick.2

variable {s w clock}

/-- A tick that goes on after its steps lets plugins take turns. -/
lemma executionsIn_of_goesOn (goesOn : ¬s.StepsAbort w clock) :
    TakesTurns s.driver.componentFailure (fun slot => slot.plugin.execute clock.context)
      (fun slot => slot.executed clock.context) s.plugins (s.stepsIn w clock).2
      (s.executionsIn w clock) := by
  rw [executionsIn, if_neg goesOn]
  exact turns_takesTurns _ _ _ _ _

/-- The end of a run that is not over lets plugins take turns. -/
lemma completionsIn_of_not_over (runnable : ¬s.status.isOver = true) :
    TakesTurns .carryOn (fun slot => slot.plugin.complete) PluginSlot.completed s.plugins
      w.closeTick.2 (s.completionsIn w) := by
  rw [completionsIn, if_neg runnable]
  exact turns_takesTurns _ _ _ _ _

/-- What a tick that opens does to the plugins: it calls them in their turns, and unless it ends the
run their slots remember who has failed. -/
lemma Ticks.serves {out : Outcome M T (TickSummary T)} (h : s.Ticks w clock out) :
    out.calls.filter HookCall.executes = (s.executionsIn w clock).reduceOption.map PluginTurn.call ∧
      out.simulation.plugins.map PluginSlot.unmarked = s.plugins.map PluginSlot.unmarked ∧
      (out.simulation.status = .running clock.ticks →
        ∀ (n : Nat) slot, out.simulation.plugins[n]? = some slot →
          (slot.failed = true ↔ (∃ old, s.plugins[n]? = some old ∧ old.failed = true) ∨
            ∃ t, (s.executionsIn w clock)[n]?.join = some t ∧ t.call.failure? ≠ none)) := by
  rw [h.calls.2.1]
  by_cases aborts : s.StepsAbort w clock
  · rw [if_pos aborts, executionsIn, if_pos aborts]
    cases h with
    | stepFailed abort failures => exact ⟨rfl, rfl, nofun⟩
    | executeFailed goesOn | actionFailed goesOn | ended goesOn => exact absurd aborts goesOn
  · have turns := executionsIn_of_goesOn aborts
    obtain ⟨calls, -, slots⟩ := turns.executes
    rw [if_neg aborts]
    refine ⟨calls, ?_⟩
    cases h with
    | stepFailed abort failures => exact absurd ⟨abort, by rw [failures]; nofun⟩ aborts
    | executeFailed goesOn aborted => exact ⟨slots, nofun⟩
    | actionFailed goesOn completed abort failures => exact ⟨slots, nofun⟩
    | ended goesOn completed settled => exact ⟨slots, fun _ n slot => turns.marks completed⟩

/-- The end of a run that is not over calls the plugins in their turns, and tells which have failed.
-/
lemma finish_serves (runnable : ¬s.status.isOver = true) :
    (s.finish w).calls = (s.completionsIn w).reduceOption.map PluginTurn.call ∧
      (s.finish w).calls.map HookCall.component =
        (s.plugins.filter fun slot => !slot.failed).map PluginSlot.component ∧
      let failures := ((s.finish w).calls.filterMap HookCall.failure?).map listed
      (s.finish w).result = if failures = [] then .ok () else .error (.completion failures) := by
  obtain ⟨calls, components, failures⟩ :=
    (completionsIn_of_not_over (w := w) runnable).completes
  have result : (s.finish w).calls = (completeAll s.plugins w.closeTick.2).2.2 ∧
      (s.finish w).result = if (completeAll s.plugins w.closeTick.2).1.isEmpty then .ok ()
        else .error (.completion (completeAll s.plugins w.closeTick.2).1) := by
    rw [finish]
    cases hs : s.status with
    | notStarted | running => exact ⟨rfl, rfl⟩
    | completed | aborted => rw [hs] at runnable; exact absurd rfl runnable
  rw [result.1, result.2]
  refine ⟨calls, components, ?_⟩
  dsimp only
  rw [← failures]
  simp only [List.isEmpty_iff]

end Driver

end Simulation

end Cadence
