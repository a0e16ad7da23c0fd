import Cadence.Proofs.Lifecycle
import Cadence.Proofs.Turns

/-!
# One plugin through a history

A plugin keeps its place among the plugins of a simulation, and `Plan.turnsOf` lists the turns that
it has in a history. What is done in a call of the driver is done in the turn of the plugin, before
it or after it (`DriverCall.around`), and what becomes of the plugins comes down to four cases
(`Progress.Serves`).
-/

namespace Cadence

variable {M T : Type}

open HookCall Simulation

/-- The turns that are taken, before and after that at a place. -/
lemma reduceOption_split {ts : List (Option (PluginTurn M T))} {n : Nat} {t : PluginTurn M T}
    (turn : ts[n]?.join = some t) :
    ts.reduceOption = (ts.take n).reduceOption ++ t :: (ts.drop (n + 1)).reduceOption := by
  obtain ⟨inside, place⟩ := List.getElem?_eq_some_iff.1 (Option.join_eq_some_iff.1 turn)
  conv_lhs => rw [← List.take_append_drop n ts, List.drop_eq_getElem_cons inside, place]
  rw [List.reduceOption_append, List.reduceOption_cons_of_some]

namespace Simulation

/-- To add a plugin gives it the last place, if it gets one. -/
lemma addPlugin_plugins (s : Simulation M T) (w : World M) (p : Plugin M T) :
    (s.addPlugin w p).simulation.plugins = s.plugins ∨
      ∃ slot : PluginSlot M T, slot.failed = false ∧
        (s.addPlugin w p).simulation.plugins = s.plugins ++ [slot] := by
  have adds := s.addPlugin_adds w p
  generalize s.addPlugin w p = out at adds ⊢
  cases adds with
  | unrunnable | failed => exact .inl rfl
  | joined => exact .inr ⟨_, rfl, rfl⟩

end Simulation

section Histories

variable [Time T]

/-- The turns of plugins in a call of the driver. -/
def DriverCall.turns (s : Simulation M T) (w : World M) :
    DriverCall M T → List (Option (PluginTurn M T))
  | tick =>
    match s.opens? with
    | none => []
    | some clock => s.executionsIn w clock
  | finish => s.completionsIn w
  | _ => []

namespace DriverCall

variable {s : Simulation M T} {w : World M}

/-- What a call of the driver does before plugins have their turns, or without any. -/
def prelude (s : Simulation M T) (w : World M) : DriverCall M T → List (Deed M)
  | tick =>
    match s.opens? with
    | none => []
    | some clock => s.stepDeedsIn w clock
  | finish => []
  | c => c.deeds s w

/-- What a call of the driver does beside the turn of the plugin at a place. -/
def besides (n : Nat) (s : Simulation M T) (w : World M) (c : DriverCall M T) : List (Deed M) :=
  c.prelude s w ++ ((c.turns s w).eraseIdx n).reduceOption.flatMap PluginTurn.deeds

/-- What a call of the driver does is done before plugins have their turns, and in these. -/
lemma deeds_eq (c : DriverCall M T) :
    c.deeds s w = c.prelude s w ++ (c.turns s w).reduceOption.flatMap PluginTurn.deeds := by
  cases c with
  | add | spawn | addPlugin | outside => exact (List.append_nil _).symm
  | tick =>
    rw [deeds, prelude, turns, tickDeeds]
    cases opens : s.opens? with
    | none => rfl
    | some clock =>
      dsimp only
      refine congrArg (s.stepDeedsIn w clock ++ ·) ?_
      by_cases aborts : s.StepsAbort w clock
      · rw [executeDeedsIn, executionsIn, if_pos aborts, if_pos aborts]
        rfl
      · rw [executeDeedsIn, if_neg aborts]
        exact (executionsIn_of_goesOn aborts).executes.2.1
  | finish =>
    rw [deeds, prelude, turns, finishDeeds, List.nil_append]
    by_cases isOver : s.status.isOver = true
    · rw [completionsIn, if_pos isOver, if_pos isOver]
      rfl
    · rw [if_neg isOver]
      exact (completionsIn_of_not_over isOver).completeDeeds_eq

/-- The call in which a plugin has its turn. -/
inductive Takes (c : DriverCall M T) (s : Simulation M T) (w : World M) (slot : PluginSlot M T)
    (t : PluginTurn M T) : Prop where
  | executes {clock : Clock T} (ticks : c = .tick) (opens : s.opens? = some clock)
      (hook : t.hook = slot.plugin.execute clock.context)
      (call : t.call = slot.executed clock.context (t.world.perform t.hook).1)
  | completes (finishes : c = .finish) (hook : t.hook = slot.plugin.complete)
      (call : t.call = slot.completed (t.world.perform t.hook).1)

/-- The world of a turn is what has been made by all that is done before it, in its call, of the
world in which the call begins. -/
theorem takes {c : DriverCall M T} {n : Nat} {t : PluginTurn M T}
    (turn : (c.turns s w)[n]?.join = some t) :
    (∃ slot, s.plugins[n]? = some slot ∧ c.Takes s w slot t) ∧
      (c.entered s w).Along
        (c.prelude s w ++ ((c.turns s w).take n).reduceOption.flatMap PluginTurn.deeds)
        t.world := by
  cases c with
  | add | spawn | addPlugin | outside => cases turn
  | tick =>
    rw [turns] at turn ⊢
    rw [prelude, entered]
    cases opens : s.opens? with
    | none =>
      rw [opens] at turn
      cases turn
    | some clock =>
      rw [opens] at turn
      dsimp only at turn
      by_cases aborts : s.StepsAbort w clock
      · rw [executionsIn, if_pos aborts] at turn
        cases turn
      · have executions := executionsIn_of_goesOn aborts
        obtain ⟨slot, place, -, hook, call⟩ := executions.exists_slot turn
        exact ⟨⟨slot, place, .executes rfl opens hook call⟩,
          (s.stepDeedsIn_along w clock).append (executions.along turn)⟩
  | finish =>
    rw [turns] at turn ⊢
    rw [prelude, entered]
    by_cases isOver : s.status.isOver = true
    · rw [completionsIn, if_pos isOver] at turn
      cases turn
    · have completions := completionsIn_of_not_over (w := w) isOver
      obtain ⟨slot, place, -, hook, call⟩ := completions.exists_slot turn
      rw [if_neg isOver]
      exact ⟨⟨slot, place, .completes rfl hook call⟩, completions.along turn⟩

/-- Others act before the turn of a plugin and after it. -/
theorem around (c : DriverCall M T) {n : Nat} {t : PluginTurn M T}
    (turn : (c.turns s w)[n]?.join = some t) :
    ∃ before after w', c.besides n s w = before ++ after ∧ (c.entered s w).Along before t.world ∧
      t.after.Along after w' ∧ (c.outcome s w).world.content = w'.content := by
  obtain ⟨w', along, content⟩ := c.content_along s w
  have arrives := (takes turn).2
  -- deeds determine the worlds, so that the call comes by the world of the turn and that after it
  rw [deeds_eq, reduceOption_split turn, List.flatMap_append, List.flatMap_cons,
    ← List.append_assoc] at along
  obtain ⟨w₁, before, rest⟩ := along.split
  obtain rfl := before.unique arrives
  obtain ⟨w₂, own, after⟩ := rest.split
  obtain rfl := own.unique t.deeds_along
  refine ⟨_, _, w', ?_, before, after, content⟩
  rw [besides, List.eraseIdx_eq_take_drop_succ, List.reduceOption_append, List.flatMap_append,
    List.append_assoc]

/-- In a call without a turn of the plugin, others do all that is done. -/
lemma besides_of_none {c : DriverCall M T} {n : Nat} (none : (c.turns s w)[n]?.join = none) :
    c.besides n s w = c.deeds s w := by
  rw [besides, deeds_eq]
  refine congrArg (fun ts : List (PluginTurn M T) =>
    c.prelude s w ++ ts.flatMap PluginTurn.deeds) ?_
  generalize c.turns s w = ts at none
  cases place : ts[n]? with
  | none => rw [List.eraseIdx_of_length_le (List.getElem?_eq_none_iff.1 place)]
  | some passed =>
    obtain rfl : passed = .none := by rwa [place] at none
    obtain ⟨inside, passed⟩ := List.getElem?_eq_some_iff.1 place
    conv_rhs => rw [← List.take_append_drop n ts, List.drop_eq_getElem_cons inside, passed]
    rw [List.eraseIdx_eq_take_drop_succ, List.reduceOption_append, List.reduceOption_append,
      List.reduceOption_cons_of_none]

end DriverCall

/-! ## Histories -/

namespace Progress

/-- The turns of the plugin at a place in calls of the driver, one after another. -/
def turnsOf (n : Nat) (g : Progress M T) : List (DriverCall M T) → List (PluginTurn M T)
  | [] => []
  | c :: rest => (c.turns g.simulation g.world)[n]?.join.toList ++ (g.next c).turnsOf n rest

/-- What is done beside the turns of the plugin at a place in calls of the driver. -/
def besides (n : Nat) (g : Progress M T) : List (DriverCall M T) → List (Deed M)
  | [] => []
  | c :: rest => c.besides n g.simulation g.world ++ (g.next c).besides n rest

/-- What two histories do beside a plugin is what the one does and then what the other does. -/
lemma besides_append (n : Nat) (g : Progress M T) (h₁ h₂ : List (DriverCall M T)) :
    g.besides n (h₁ ++ h₂) = g.besides n h₁ ++ (h₁.foldl next g).besides n h₂ := by
  induction h₁ generalizing g with
  | nil => rfl
  | cons c rest ih =>
    rw [List.cons_append, besides, besides, ih, List.append_assoc, List.foldl_cons]

end Progress

/-- The turns of the plugin at a place in a history. -/
def Plan.turnsOf (x : Plan M T) (n : Nat) (history : List (DriverCall M T)) :
    List (PluginTurn M T) :=
  x.start.turnsOf n history

/-! ## What a call of the driver does to plugins -/

namespace Progress

/-- What a call of the driver does to the plugins. Either they have no turns and stay as they are,
but for one that is added; or it is a tick in which they have their turns, or the end of the run. -/
inductive Serves (g : Progress M T) (c : DriverCall M T) : Prop where
  | idle (quiet : c.turns g.simulation g.world = [])
      (plugins : (g.next c).simulation.plugins = g.simulation.plugins)
      (status : (g.next c).simulation.status = g.simulation.status ∨
        g.simulation.status.isOver = false ∧ ∃ t, (g.next c).simulation.status = .aborted t)
  | joined {slot : PluginSlot M T} (quiet : c.turns g.simulation g.world = [])
      (plugins : (g.next c).simulation.plugins = g.simulation.plugins ++ [slot])
      (fresh : slot.failed = false) (underway : g.simulation.status.isOver = false)
      (status : (g.next c).simulation.status = g.simulation.status)
  | executed (underway : g.simulation.status.isOver = false)
      (calls : ∀ (n : Nat) t, (c.turns g.simulation g.world)[n]?.join = some t →
        ∃ slot ctx, g.simulation.plugins[n]? = some slot ∧
          t.call = slot.executed ctx (t.world.perform t.hook).1)
      (plugins : (g.next c).simulation.plugins.map PluginSlot.unmarked =
        g.simulation.plugins.map PluginSlot.unmarked)
      (status : (∃ t, (g.next c).simulation.status = .aborted t) ∨
        (∃ t, (g.next c).simulation.status = .running t) ∧
          ∀ (n : Nat) slot, (g.next c).simulation.plugins[n]? = some slot →
            (slot.failed = true ↔
              (∃ old, g.simulation.plugins[n]? = some old ∧ old.failed = true) ∨
              ∃ t, (c.turns g.simulation g.world)[n]?.join = some t ∧ t.call.failure? ≠ none))
  | completed (underway : g.simulation.status.isOver = false)
      (turns : TakesTurns .carryOn (fun slot => slot.plugin.complete) PluginSlot.completed
        g.simulation.plugins g.world.closeTick.2 (c.turns g.simulation g.world))
      (plugins : (g.next c).simulation.plugins = g.simulation.plugins)
      {t : UInt64} (status : (g.next c).simulation.status = .completed t)

/-- A tick serves plugins in one of these ways. -/
lemma serves_tick (g : Progress M T) : g.Serves .tick := by
  cases opens : g.simulation.opens? with
  | none =>
    have quiet : DriverCall.tick.turns g.simulation g.world = [] := by
      rw [DriverCall.turns, opens]
    obtain ⟨⟨_, same⟩, -, failed⟩ := runTick_of_closed (w := g.world) opens
    have plugins : (g.simulation.runTick g.world).simulation.plugins = g.simulation.plugins := by
      rw [same]
    cases g.passes .tick with
    | still status => exact .idle quiet plugins (.inl status)
    | failed underway status => exact .idle quiet plugins (.inr ⟨underway, _, status⟩)
    | succeeded underway status ticks told => cases failed.symm.trans told
    | completed underway status ticks finishes => cases finishes
  | some clock =>
    have turns : DriverCall.tick.turns g.simulation g.world =
        g.simulation.executionsIn g.world clock := by
      rw [DriverCall.turns, opens]
    have ticks := runTick_ticks (w := g.world) opens
    obtain ⟨-, plugins, marks⟩ := ticks.serves
    refine .executed (Bool.eq_false_iff.2 (opens?_eq_some_iff.1 opens).1) ?_ plugins ?_
    · intro n t turn
      rw [turns] at turn
      by_cases aborts : g.simulation.StepsAbort g.world clock
      · rw [executionsIn, if_pos aborts] at turn
        cases turn
      · obtain ⟨slot, place, -, -, call⟩ := (executionsIn_of_goesOn aborts).exists_slot turn
        exact ⟨slot, _, place, call⟩
    · rw [turns]
      obtain ⟨given_up, goes_on, -⟩ := ticks.status
      cases result : (g.simulation.runTick g.world).result with
      | error cause => exact .inl ⟨_, given_up cause result⟩
      | ok summary =>
        have running := goes_on summary result
        exact .inr ⟨⟨_, running⟩, marks running⟩

/-- Every call of the driver does one of the four to the plugins. -/
theorem serves (g : Progress M T) (c : DriverCall M T) : g.Serves c := by
  cases c with
  | add p =>
    exact .idle rfl (addParticipant_outside _ _ p).2 (.inl (addParticipant_status p))
  | spawn create names =>
    exact .idle rfl (spawn_outside _ _ create names).2 (.inl (spawn_steady create names).1)
  | addPlugin p =>
    by_cases isOver : g.simulation.status.isOver = true
    · have refused := addPlugin_of_over (w := g.world) isOver p
      exact .idle rfl (congrArg (fun out => out.simulation.plugins) refused)
        (.inl (addPlugin_status p))
    · obtain same | ⟨slot, fresh, joined⟩ := g.simulation.addPlugin_plugins g.world p
      · exact .idle rfl same (.inl (addPlugin_status p))
      · exact .joined rfl joined fresh (Bool.eq_false_iff.2 isOver) (addPlugin_status p)
  | outside p => exact .idle rfl rfl (.inl rfl)
  | tick => exact g.serves_tick
  | finish =>
    by_cases isOver : g.simulation.status.isOver = true
    · have same := (finish_of_over (w := g.world) isOver).1
      refine .idle ?_ (congrArg Simulation.plugins same) (.inl (congrArg Simulation.status same))
      rw [DriverCall.turns, completionsIn, if_pos isOver]
    · have done := (finish_of_not_over (w := g.world) isOver).1
      have plugins : (g.simulation.finish g.world).simulation.plugins = g.simulation.plugins := by
        rw [done]
      exact .completed (Bool.eq_false_iff.2 isOver) (completionsIn_of_not_over isOver) plugins
        (congrArg Simulation.status done)

/-- A plugin keeps its place in a call. -/
lemma Serves.plugin {g : Progress M T} {c : DriverCall M T} (h : g.Serves c) {n : Nat}
    {slot : PluginSlot M T} (place : g.simulation.plugins[n]? = some slot) :
    ∃ slot', (g.next c).simulation.plugins[n]? = some slot' ∧ slot'.plugin = slot.plugin := by
  cases h with
  | idle quiet plugins => exact ⟨slot, plugins ▸ place, rfl⟩
  | joined quiet plugins =>
    refine ⟨slot, ?_, rfl⟩
    rw [plugins, List.getElem?_append_left (List.getElem?_eq_some_iff.1 place).1]
    exact place
  | executed underway calls plugins =>
    have same := congrArg (fun slots => slots[n]?) plugins
    simp only [List.getElem?_map, place, Option.map_some] at same
    obtain ⟨slot', place', same⟩ := Option.map_eq_some_iff.1 same
    exact ⟨slot', place', (PluginSlot.unmarked_inj same).2⟩
  | completed underway takes plugins => exact ⟨slot, plugins ▸ place, rfl⟩

/-- A plugin keeps its place in a history. -/
lemma plugin_foldl {g : Progress M T} {n : Nat} {slot : PluginSlot M T}
    (place : g.simulation.plugins[n]? = some slot) (history : List (DriverCall M T)) :
    ∃ slot', (history.foldl next g).simulation.plugins[n]? = some slot' ∧
      slot'.plugin = slot.plugin := by
  induction history generalizing g slot with
  | nil => exact ⟨slot, place, rfl⟩
  | cons c rest ih =>
    obtain ⟨slot', place', same⟩ := (g.serves c).plugin place
    obtain ⟨last, place', same'⟩ := ih place'
    exact ⟨last, place', same'.trans same⟩

/-- A turn is taken in some call of the history. -/
lemma mem_turnsOf {n : Nat} {g : Progress M T} {history : List (DriverCall M T)}
    {t : PluginTurn M T} (mem : t ∈ g.turnsOf n history) :
    ∃ before c after, history = before ++ c :: after ∧
      (c.turns (before.foldl next g).simulation (before.foldl next g).world)[n]?.join = some t := by
  induction history generalizing g with
  | nil => cases mem
  | cons c rest ih =>
    rcases List.mem_append.1 mem with now | later
    · exact ⟨[], c, rest, rfl, Option.mem_toList.1 now⟩
    · obtain ⟨before, c', after, rfl, turn⟩ := ih later
      exact ⟨c :: before, c', after, rfl, turn⟩

/-- A plugin whose turn has a context has it in a call that opens the tick. -/
lemma opens_of_takes {g : Progress M T} {c : DriverCall M T} {slot : PluginSlot M T}
    {t : PluginTurn M T} (takes : c.Takes g.simulation g.world slot t) {ctx : TickContext T}
    (context : t.call.context = some ctx) : c.opens? g.simulation = some ctx.tick := by
  cases takes with
  | completes finishes hook call =>
    rw [call] at context
    cases context
  | executes ticks opens hook call =>
    subst ticks
    rw [call] at context
    obtain rfl := Option.some.inj context
    rw [DriverCall.opens?, opens]
    rfl

/-- The turns of a plugin are in ticks that come after those so far. -/
lemma ticks_lt_of_mem_turnsOf {n : Nat} {g : Progress M T} {history : List (DriverCall M T)}
    {t : PluginTurn M T} (mem : t ∈ g.turnsOf n history) {ctx : TickContext T}
    (context : t.call.context = some ctx) : g.simulation.clock.ticks < ctx.tick := by
  rw [UInt64.lt_iff_toNat_lt]
  induction history generalizing g with
  | nil => cases mem
  | cons c rest ih =>
    rcases List.mem_append.1 mem with now | later
    · obtain ⟨⟨slot, -, takes⟩, -⟩ := DriverCall.takes (Option.mem_toList.1 now)
      obtain ⟨-, next⟩ := ticks_of_opens (opens_of_takes takes context)
      omega
    · have := ticks_le_next g c
      have := ih later
      omega

/-- one tick after the other. -/
lemma pairwise_turnsOf (n : Nat) (g : Progress M T) (history : List (DriverCall M T)) :
    (g.turnsOf n history).Pairwise fun a b => ∀ ctx ctx', a.call.context = some ctx →
      b.call.context = some ctx' → ctx.tick < ctx'.tick := by
  induction history generalizing g with
  | nil => exact .nil
  | cons c rest ih =>
    rw [turnsOf, List.pairwise_append]
    refine ⟨?_, ih _, fun a now b later ctx ctx' context context' => ?_⟩
    · cases (c.turns g.simulation g.world)[n]?.join with
      | none => exact .nil
      | some t => exact List.pairwise_singleton _ t
    · obtain ⟨⟨slot, -, takes⟩, -⟩ := DriverCall.takes (Option.mem_toList.1 now)
      obtain ⟨same, -⟩ := ticks_of_opens (opens_of_takes takes context)
      rw [← same]
      exact ticks_lt_of_mem_turnsOf later context'

end Progress

end Histories

end Cadence
