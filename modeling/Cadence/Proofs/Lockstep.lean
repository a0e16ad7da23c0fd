import Cadence.Proofs.Pace
import Cadence.Proofs.Policy
import Cadence.Proofs.Trail

/-!
# Lockstep

The hooks that the ticks of a history call are a sequence of blocks, one for every tick that opens
(`Progress.blocks`). In a block all steps come before all executions, and all hooks see one tick and
one time; from block to block the tick goes up by one and time moves on. What an execution reads is
what the steps of its block and all earlier blocks have left (`ticks_in_lockstep`).
-/

namespace Cadence

variable {M T : Type}

open HookCall Simulation

namespace HookCall

/-- Whether the call was made in a tick. -/
def inTick (c : HookCall T) : Bool := c.steps || c.executes

/-- The plugin whose hook was called. -/
def plugin? (c : HookCall T) : Option ComponentRef :=
  match c.component with
  | .plugin id name => some (.plugin id name)
  | .participant _ _ => none

end HookCall

/-- The plugins that have been added, in that order. -/
def addedPlugins (calls : List (HookCall T)) : List ComponentRef :=
  (calls.filter joins).filterMap plugin?

/-- The plugins that are added in two stretches are those of the one and then of the other. -/
lemma addedPlugins_append (l₁ l₂ : List (HookCall T)) :
    addedPlugins (l₁ ++ l₂) = addedPlugins l₁ ++ addedPlugins l₂ := by
  rw [addedPlugins, List.filter_append, List.filterMap_append]
  rfl

/-! ## Blocks -/

/-- What the components of a tick were called with, the calls, and what came of the tick. -/
structure Block (T : Type) where
  context : TickContext T
  calls : List (HookCall T)
  result : Except TickError (TickSummary T)

section Blocks

variable [Time T]

/-- The block of a call of the driver, if it is a tick that opens. -/
def DriverCall.block? (s : Simulation M T) (w : World M) : DriverCall M T → Option (Block T)
  | tick => s.opens?.map fun clock =>
    ⟨clock.context, (s.runTick w).calls, (s.runTick w).result⟩
  | _ => none

/-- The blocks of a history. -/
def Progress.blocks (g : Progress M T) : List (DriverCall M T) → List (Block T)
  | [] => []
  | c :: rest => (c.block? g.simulation g.world).toList ++ (g.next c).blocks rest

/-- The blocks of a history. -/
def Plan.blocks (x : Plan M T) (history : List (DriverCall M T)) : List (Block T) :=
  x.start.blocks history

end Blocks

/-! ## Hooks that are called outside ticks -/

namespace Simulation

variable (s : Simulation M T) (w : World M)

/-- To add a participant calls no plugin. -/
lemma addParticipant_outside (p : Participant M T) :
    (∀ c ∈ (s.addParticipant w p).calls, c.inTick = false ∧ c.plugin? = none) ∧
      (s.addParticipant w p).simulation.plugins = s.plugins := by
  have adds := s.addParticipant_adds w p
  generalize s.addParticipant w p = out at adds ⊢
  cases adds with
  | unrunnable | refused => exact ⟨fun _ mem => absurd mem List.not_mem_nil, rfl⟩
  | joined | failed => exact ⟨List.forall_mem_singleton.2 ⟨rfl, rfl⟩, rfl⟩

/-- To spawn participants calls no plugin. -/
lemma spawn_outside (create : Factory M T) (names : List String) :
    (∀ c ∈ (s.spawn w create names).calls, c.inTick = false ∧ c.plugin? = none) ∧
      (s.spawn w create names).simulation.plugins = s.plugins :=
  spawnFrom_induction
    (P := fun s' _ calls => (∀ c ∈ calls, c.inTick = false ∧ c.plugin? = none) ∧
      s'.plugins = s.plugins)
    (fun _ _ _ _ h => h)
    (fun s' w' _ p h => by
      obtain ⟨calls, plugins⟩ := s'.addParticipant_outside w' p
      exact ⟨List.forall_mem_append.2 ⟨h.1, calls⟩, plugins.trans h.2⟩)
    [] ⟨fun _ mem => absurd mem List.not_mem_nil, rfl⟩

/-- To add a plugin calls it alone, outside ticks. -/
lemma addPlugin_outside (p : Plugin M T) :
    (∀ c ∈ (s.addPlugin w p).calls, c.inTick = false) ∧
      (s.addPlugin w p).simulation.plugins.map PluginSlot.component =
        s.plugins.map PluginSlot.component ++ addedPlugins (s.addPlugin w p).calls := by
  have adds := s.addPlugin_adds w p
  generalize s.addPlugin w p = out at adds ⊢
  cases adds with
  | unrunnable => exact ⟨fun _ mem => absurd mem List.not_mem_nil, (List.append_nil _).symm⟩
  | joined initialised fine =>
    refine ⟨List.forall_mem_singleton.2 rfl, ?_⟩
    simp [addedPlugins, joins, HookEnd.failure?, fine, plugin?, PluginSlot.component]
  | failed initialised bad =>
    refine ⟨List.forall_mem_singleton.2 rfl, ?_⟩
    simp [addedPlugins, joins, HookEnd.failure?, bad]

/-- On completion nobody is called in a tick, and nobody joins. -/
lemma completeAll_outside (slots : List (PluginSlot M T)) (w : World M) :
    ∀ c ∈ (completeAll slots w).2.2, c.inTick = false ∧ c.joins = false := by
  induction slots generalizing w with
  | nil => exact fun _ mem => absurd mem List.not_mem_nil
  | cons slot rest ih =>
    rw [completeAll]
    split
    · exact ih w
    · dsimp only
      split <;> exact List.forall_mem_cons.2 ⟨⟨rfl, rfl⟩, ih _⟩

/-- The end of a run calls nobody in a tick and keeps the plugins. -/
lemma finish_outside :
    (∀ c ∈ (s.finish w).calls, c.inTick = false ∧ c.joins = false) ∧
      (s.finish w).simulation.plugins = s.plugins := by
  rw [finish]
  split
  · exact ⟨fun _ mem => absurd mem List.not_mem_nil, rfl⟩
  · exact ⟨fun _ mem => absurd mem List.not_mem_nil, rfl⟩
  · exact ⟨completeAll_outside s.plugins w.closeTick.2, rfl⟩

variable {s w} {clock : Clock T} {out : Outcome M T (TickSummary T)}

/-- All hooks that a tick calls are called in it, and no plugin is added by them. -/
lemma Ticks.inTick (h : s.Ticks w clock out) :
    (∀ c ∈ out.calls, c.inTick = true) ∧ addedPlugins out.calls = [] := by
  have inTick : ∀ c ∈ out.calls, c.inTick = true := by
    rw [h.calls_split]
    intro c mem
    rcases List.mem_append.1 mem with step | execute
    · exact Bool.or_eq_true_iff.2 (.inl (List.mem_filter.1 step).2)
    · exact Bool.or_eq_true_iff.2 (.inr (List.mem_filter.1 execute).2)
  refine ⟨inTick, ?_⟩
  rw [addedPlugins, List.filter_eq_nil_iff.2, List.filterMap_nil]
  intro c mem
  have called := inTick c mem
  rw [HookCall.inTick, steps, executes] at called
  rw [joins]
  cases hook : c.hook <;> simp [hook] at called ⊢

/-- A tick executes plugins in the order in which the simulation keeps them. -/
lemma Ticks.executed_sublist (h : s.Ticks w clock out) :
    ((out.calls.filter executes).map component).Sublist (s.plugins.map PluginSlot.component) := by
  obtain ⟨left, active, -⟩ := h.executed
  have executed := List.sublist_append_left ((out.calls.filter executes).map component) left
  rw [← active] at executed
  exact executed.trans (List.filter_sublist.map _)

end Simulation

section Histories

variable [Time T]

namespace Progress

/-- The calls in ticks are those of the blocks. -/
lemma calls_next (g : Progress M T) (c : DriverCall M T) :
    (g.next c).calls.filter inTick = g.calls.filter inTick ++
      (c.block? g.simulation g.world).toList.flatMap Block.calls := by
  rw [next, List.filter_append]
  congr 1
  have outside : ∀ calls : List (HookCall T), (∀ h ∈ calls, h.inTick = false) →
      calls.filter inTick = [] := fun calls none =>
    List.filter_eq_nil_iff.2 fun h mem => Bool.eq_false_iff.1 (none h mem)
  cases c with
  | add p => exact outside _ fun h mem => ((addParticipant_outside _ _ p).1 h mem).1
  | spawn create names => exact outside _ fun h mem => ((spawn_outside _ _ create names).1 h mem).1
  | addPlugin p => exact outside _ (addPlugin_outside _ _ p).1
  | finish => exact outside _ fun h mem => ((finish_outside _ _).1 h mem).1
  | outside p => rfl
  | tick =>
    rw [DriverCall.outcome, DriverCall.block?]
    cases opens : g.simulation.opens? with
    | none =>
      rw [(runTick_of_closed opens).2.1]
      rfl
    | some clock =>
      rw [List.filter_eq_self.2 (runTick_ticks opens).inTick.1]
      exact (List.append_nil _).symm

/-- A simulation keeps its plugins in the order in which they were added. -/
lemma plugins_next {g : Progress M T} (c : DriverCall M T)
    (h : g.simulation.plugins.map PluginSlot.component = addedPlugins g.calls) :
    (g.next c).simulation.plugins.map PluginSlot.component = addedPlugins (g.next c).calls := by
  have others : ∀ calls : List (HookCall T), (∀ h ∈ calls, h.plugin? = none) →
      addedPlugins calls = [] := fun calls none =>
    List.filterMap_eq_nil_iff.2 fun h mem => none h (List.mem_filter.1 mem).1
  rw [next, addedPlugins_append, ← h]
  cases c with
  | add p =>
    obtain ⟨calls, plugins⟩ := addParticipant_outside g.simulation g.world p
    rw [DriverCall.outcome, plugins, others _ fun h mem => (calls h mem).2, List.append_nil]
  | spawn create names =>
    obtain ⟨calls, plugins⟩ := spawn_outside g.simulation g.world create names
    rw [DriverCall.outcome, plugins, others _ fun h mem => (calls h mem).2, List.append_nil]
  | addPlugin p => exact (addPlugin_outside _ _ p).2
  | tick =>
    rw [DriverCall.outcome]
    cases opens : g.simulation.opens? with
    | none =>
      obtain ⟨⟨status, same⟩, calls, -⟩ := runTick_of_closed (w := g.world) opens
      rw [same, calls]
      exact (List.append_nil _).symm
    | some clock =>
      have ticks := runTick_ticks (w := g.world) opens
      rw [ticks.plugins, ticks.inTick.2, List.append_nil]
  | finish =>
    obtain ⟨calls, plugins⟩ := finish_outside g.simulation g.world
    have none : (g.simulation.finish g.world).calls.filter joins = [] :=
      List.filter_eq_nil_iff.2 fun h mem => Bool.eq_false_iff.1 (calls h mem).2
    rw [DriverCall.outcome, plugins, addedPlugins, none]
    exact (List.append_nil _).symm
  | outside p => exact (List.append_nil _).symm

/-- The plugins of a simulation are those that have been added. -/
lemma plugins_after (x : Plan M T) (history : List (DriverCall M T)) :
    (x.after history).simulation.plugins.map PluginSlot.component =
      addedPlugins (x.after history).calls :=
  Plan.after_induction (P := fun g =>
    g.simulation.plugins.map PluginSlot.component = addedPlugins g.calls) rfl
    (fun _ c h => plugins_next c h) history

/-- The hooks that a history calls in ticks are those of its blocks, one after another. -/
lemma calls_foldl (g : Progress M T) (history : List (DriverCall M T)) :
    (history.foldl next g).calls.filter inTick =
      g.calls.filter inTick ++ (g.blocks history).flatMap Block.calls := by
  induction history generalizing g with
  | nil => exact (List.append_nil _).symm
  | cons c rest ih =>
    rw [List.foldl_cons, ih, calls_next, blocks, List.flatMap_append, List.append_assoc]

/-- A block is that of a tick which opens after some part of the history. -/
lemma mem_blocks {g : Progress M T} {history : List (DriverCall M T)} {b : Block T}
    (mem : b ∈ g.blocks history) :
    ∃ before after, history = before ++ .tick :: after ∧
      let g' := before.foldl next g
      ∃ clock, g'.simulation.opens? = some clock ∧ b = ⟨clock.context,
        (g'.simulation.runTick g'.world).calls, (g'.simulation.runTick g'.world).result⟩ := by
  induction history generalizing g with
  | nil => cases mem
  | cons c rest ih =>
    rcases List.mem_append.1 mem with now | later
    · have block := Option.mem_toList.1 now
      cases c with
      | add | spawn | addPlugin | finish | outside => cases block
      | tick =>
        obtain ⟨clock, opens, rfl⟩ := Option.map_eq_some_iff.1 block
        exact ⟨[], rest, rfl, clock, opens, rfl⟩
    · obtain ⟨before, after, rfl, clock, opens, eq⟩ := ih later
      exact ⟨c :: before, after, rfl, clock, opens, eq⟩

/-- From the clock on, every block is one tick after the one before, and later. -/
lemma blocks_chain (later : ∀ t t' : T, Time.next? t = some t' → compare t t' = .lt)
    (g : Progress M T) (history : List (DriverCall M T)) :
    (g.simulation.clock.context :: (g.blocks history).map Block.context).IsChain fun a b =>
      b.tick.toNat = a.tick.toNat + 1 ∧ compare a.time b.time = .lt := by
  induction history generalizing g with
  | nil => exact .singleton _
  | cons c rest ih =>
    have chain := ih (g.next c)
    rw [clock_next] at chain
    rw [blocks, List.map_append]
    cases c with
    | add | spawn | addPlugin | finish | outside => exact chain
    | tick =>
      rw [DriverCall.block?]
      rw [DriverCall.clock?] at chain
      cases opens : g.simulation.opens? with
      | none =>
        rw [opens] at chain
        exact chain
      | some clock =>
        rw [opens] at chain
        obtain ⟨-, advanced⟩ := opens?_eq_some_iff.1 opens
        obtain ⟨next, ticks⟩ := Clock.increment_eq advanced
        exact .cons_cons ⟨ticks, later _ _ next⟩ chain

/-- A history only adds to the calls. -/
lemma calls_grow (g : Progress M T) (history : List (DriverCall M T)) :
    ∃ more, (history.foldl next g).calls = g.calls ++ more := by
  induction history generalizing g with
  | nil => exact ⟨[], (List.append_nil _).symm⟩
  | cons c rest ih =>
    obtain ⟨more, eq⟩ := ih (g.next c)
    exact ⟨(c.outcome g.simulation g.world).calls ++ more, eq.trans (List.append_assoc _ _ _)⟩

end Progress

/-- Nothing of a tick is done behind a closed window. -/
lemma accepts_of_mem {s : Simulation M T} {w : World M} {clock : Clock T}
    (opens : s.opens? = some clock) {d : Deed M} (mem : d ∈ DriverCall.tick.deeds s w) :
    d.world.environment.window.phase ≠ .closed := by
  obtain ⟨w', along, -⟩ := DriverCall.tick.deeds_along s w
  have still := (along.reaches_of_mem mem).frame
  rw [DriverCall.entered, opens] at still
  rw [still.phase]
  nofun

/-- The ticks of a history are in lockstep, for every kind of time whose next value is later. What
they call is one block for each tick that opens: steps, then executions of plugins in the order in
which these were added, all with the tick and the time that a summary tells. Block by block the tick
goes up by one and the time is later, from the clock at the start on. Every access of an execution
is answered by what all accesses before it have made of the world at the start: those of earlier
calls, those of all steps of the tick, and those of executions before it. A tick that fails on the
clock leaves the clock and calls nothing. -/
theorem ticks_in_lockstep (later : ∀ t t' : T, Time.next? t = some t' → compare t t' = .lt)
    (x : Plan M T) (history : List (DriverCall M T)) :
    let g := x.after history
    let out := g.simulation.runTick g.world
    g.calls.filter inTick = (x.blocks history).flatMap Block.calls ∧
    (∀ b ∈ x.blocks history,
      b.calls = b.calls.filter steps ++ b.calls.filter executes ∧
      ((b.calls.filter executes).map component).Sublist (addedPlugins g.calls) ∧
      (∀ c ∈ b.calls, c.context = some b.context) ∧
      (∀ summary, b.result = .ok summary →
        summary.tick = b.context.tick ∧ summary.time = b.context.time)) ∧
    ((x.clock.context :: (x.blocks history).map Block.context).IsChain fun a b =>
      b.tick.toNat = a.tick.toNat + 1 ∧ compare a.time b.time = .lt) ∧
    (∀ clock, g.simulation.opens? = some clock →
      x.deeds (history ++ [.tick]) = x.deeds history ++ g.simulation.stepDeedsIn g.world clock ++
        g.simulation.executeDeedsIn g.world clock ∧
      ∀ before d after, g.simulation.executeDeedsIn g.world clock = before ++ d :: after →
        d.reply = (d.access.apply (x.world.replay ((x.deeds history ++
          g.simulation.stepDeedsIn g.world clock ++ before).map Deed.access))).1) ∧
    (∀ cause, out.result = .error (.clock cause) →
      out.simulation.clock = g.simulation.clock ∧ out.calls = []) := by
  intro g out
  refine ⟨x.start.calls_foldl history, fun b mem => ?_, Progress.blocks_chain later x.start history,
    fun clock opens => ?_, fun cause stuck => ?_⟩
  · obtain ⟨before, after, rfl, clock, opens, rfl⟩ := Progress.mem_blocks mem
    have ticks := runTick_ticks (w := (x.after before).world) opens
    refine ⟨ticks.calls_split, ?_, ticks.calls.2.2, fun summary ok => ?_⟩
    · -- what is added before the tick is added in the whole history
      have executed := ticks.executed_sublist
      obtain ⟨more, grown⟩ := (x.after before).calls_grow (.tick :: after)
      have kept : (x.after before).simulation.plugins.map PluginSlot.component =
          addedPlugins (x.after before).calls := Progress.plugins_after x before
      rw [← Plan.after_append] at grown
      show List.Sublist _ (addedPlugins (x.after (before ++ .tick :: after)).calls)
      rw [grown, addedPlugins_append, ← kept]
      exact executed.trans (List.sublist_append_left _ _)
    · obtain ⟨tick, time, -⟩ := ticks.summary ok
      exact ⟨tick, time⟩
  · have deeds : DriverCall.deeds g.simulation g.world .tick =
        g.simulation.stepDeedsIn g.world clock ++ g.simulation.executeDeedsIn g.world clock :=
      tickDeeds_of_opens g.world opens
    refine ⟨?_, fun before d after split => ?_⟩
    · rw [Plan.deeds, Progress.deeds_append, List.append_assoc, ← deeds]
      exact congrArg (_ ++ ·) (List.append_nil _)
    · rw [split, ← List.append_assoc] at deeds
      rw [List.append_assoc, ← x.content_of_deed history .tick deeds]
      refine ((d.access.apply_content d.world).2 ?_).symm
      exact accepts_of_mem opens (deeds ▸ List.mem_append_right _ List.mem_cons_self)
  · have closed : g.simulation.opens? = none := by
      cases opens : g.simulation.opens? with
      | none => rfl
      | some clock =>
        have ticks : g.simulation.Ticks g.world clock out := runTick_ticks opens
        generalize out = result at ticks stuck
        cases ticks with
        | stepFailed | executeFailed | actionFailed | ended => cases stuck
    obtain ⟨⟨status, same⟩, calls, -⟩ := runTick_of_closed (w := g.world) closed
    refine ⟨?_, calls⟩
    rw [same]

end Histories

/-- The time after a time is later. -/
lemma IntegerTime.compare_next (t t' : IntegerTime) (h : Time.next? t = some t') :
    compare t t' = .lt := by
  obtain ⟨value, next, rfl⟩ := Option.map_eq_some_iff.1 h
  have more : t.value.toNat < value.toNat := by
    rw [Word.toNat_succ? next]
    exact Nat.lt_succ_self _
  exact Nat.compare_eq_lt.2 more

section Watched

/-- A plugin that looks at who is registered. -/
def watcher : Plugin Key IntegerTime where
  name := "watcher"
  execute _ := .ask .members fun _ => .done .fine

/-- Two ticks with a participant and a plugin call two blocks of two hooks, one tick apart. -/
theorem ticks_in_lockstep_watched :
    let history : List (DriverCall Key IntegerTime) :=
      [.add settled, .addPlugin watcher, .tick, .tick]
    (∀ t t' : IntegerTime, Time.next? t = some t' → compare t t' = .lt) ∧
      (plain.blocks history).map Block.context = [⟨1, ⟨1⟩⟩, ⟨2, ⟨2⟩⟩] ∧
      ((plain.after history).calls.filter inTick).map HookCall.hook =
        [.step, .execute, .step, .execute] ∧
      (plain.after history).calls.filter inTick =
        (plain.blocks history).flatMap Block.calls := by
  intro history
  obtain ⟨blocks, -⟩ := ticks_in_lockstep IntegerTime.compare_next plain history
  exact ⟨IntegerTime.compare_next, by decide, by decide, blocks⟩

end Watched

end Cadence
