import Cadence.Proofs.Driven
import Cadence.Proofs.Membership
import Cadence.Proofs.Perform

/-!
# Departures

A registration ends by a removal and by nothing else (`World.Along.dead_iff`). The environment knows
of it at once, but a simulation asks who is registered only when a tick opens. So whoever has been
removed is not stepped in any later tick; in the tick of the removal, those that were still to come
are stepped although their keys are dead by then (`removal_takes_effect_next_tick`), and such a step
can end the run (`stepped_after_removal`).
-/

namespace Cadence

variable {M T : Type}

open World HookCall Simulation

/-! ## Removals -/

/-- The deed ends the registration under which the participant has joined. -/
def Deed.Removes (d : Deed M) (i : Incarnation) : Prop :=
  d.performed = ⟨.deregister i.id i.key, .ok ()⟩

namespace Incarnation

variable {i : Incarnation} {e : Environment}

/-- A participant is not live once its key is not the current one. -/
lemma isLive_eq_false_iff : i.isLive e = false ↔ e.keyOf? i.id ≠ some i.key := by
  rw [← Bool.not_eq_true, isLive_iff]

/-- A live registration is under a key that has been drawn. -/
lemma drawn_of_isLive (agrees : e.Agrees) (live : i.isLive e = true) :
    ∃ n < e.drawn, i.key = e.supply.draw n := by
  rw [isLive_iff, Environment.keyOf?_eq_some_iff agrees.ids] at live
  obtain ⟨r, mem, -, key⟩ := live
  exact agrees.order.drawn i.key (key ▸ List.mem_map_of_mem mem)

/-- The registration under which the participant has joined is over. -/
structure Ended (i : Incarnation) (e : Environment) : Prop where
  dead : i.isLive e = false
  drawn : ∃ n < e.drawn, i.key = e.supply.draw n

/-- What is over stays so. -/
lemma Ended.later {e' : Environment} (h : i.Ended e)
    (distinct : Function.Injective e.supply.draw) (later : e.Later e') : i.Ended e' := by
  refine ⟨?_, ?_⟩
  · rw [← Bool.not_eq_true]
    intro live
    have lived := isLive_of_later later distinct h.drawn live
    rw [h.dead] at lived
    cases lived
  · obtain ⟨n, before, key⟩ := h.drawn
    exact ⟨n, Nat.lt_of_lt_of_le before later.drawn, later.supply ▸ key⟩

end Incarnation

namespace Deed

variable {d : Deed M} {i : Incarnation}

/-- A removal ends a registration that is live until then. -/
lemma Removes.ends (h : d.Removes i) :
    i.isLive d.world.environment = true ∧ i.isLive d.after.environment = false := by
  obtain ⟨access, w⟩ := d
  have made : access = .deregister i.id i.key := congrArg Performed.access h
  subst made
  have accepted : (w.environment.deregister i.id i.key).1 = .ok () :=
    eq_of_heq (Performed.mk.inj h).2
  by_cases current : w.environment.keyOf? i.id = some i.key
  · refine ⟨Incarnation.isLive_iff.2 current, Incarnation.isLive_eq_false_iff.2 ?_⟩
    show (w.environment.deregister i.id i.key).2.keyOf? i.id ≠ some i.key
    rw [Environment.deregister_of_eq current, Environment.keyOf?_leave, if_pos rfl]
    nofun
  · rw [Environment.deregister_of_ne current] at accepted
    cases accepted

/-- Only a removal ends a registration. -/
lemma removes_of_ends (live : i.isLive d.world.environment = true)
    (dead : i.isLive d.after.environment = false) : d.Removes i := by
  obtain ⟨access, w⟩ := d
  rw [Incarnation.isLive_iff] at live
  rw [Incarnation.isLive_eq_false_iff] at dead
  have told : (access.apply w).2.environment.keyOf? i.id = _ := access.keyOf?_apply w i.id
  rw [Deed.after, told, live] at dead
  cases access with
  | enrol member services =>
    cases absent : w.environment.keyOf? member.id with
    | some key =>
      simp only [Access.apply, inEnvironment, Environment.enrol_of_some absent] at dead
      exact absurd rfl dead
    | none =>
      -- who is registered cannot register once more
      have other : i.id ≠ member.id := by
        rintro same
        rw [same, absent] at live
        cases live
      simp only [Access.apply, inEnvironment, Environment.enrol_of_eq absent, Performed.keyAfter,
        if_neg other] at dead
      exact absurd rfl dead
  | deregister id key =>
    by_cases current : w.environment.keyOf? id = some key
    · have same : i.id = id := by
        by_contra other
        simp only [Access.apply, inEnvironment, Environment.deregister_of_eq current,
          Performed.keyAfter, if_neg other] at dead
        exact dead rfl
      subst same
      obtain rfl : i.key = key := Option.some.inj (live.symm.trans current)
      show (⟨.deregister i.id i.key, (w.environment.deregister i.id i.key).1⟩ : Performed M) = _
      rw [Environment.deregister_of_eq current]
    · simp only [Access.apply, inEnvironment, Environment.deregister_of_ne current] at dead
      exact absurd rfl dead
  | _ => exact absurd rfl dead

/-- After its removal a registration is over. -/
lemma Removes.ended (h : d.Removes i) (agrees : d.world.environment.Agrees) :
    i.Ended d.after.environment := by
  have step : d.world.environment.Later d.after.environment := (reaches_apply d.access _).later
  obtain ⟨n, before, key⟩ := Incarnation.drawn_of_isLive agrees h.ends.1
  exact ⟨h.ends.2, n, Nat.lt_of_lt_of_le before step.drawn, step.supply ▸ key⟩

end Deed

namespace World

variable {w w' : World M} {ds : List (Deed M)} {i : Incarnation}

/-- Whatever is done after an access leads on from there. -/
lemma Along.reaches_after (h : w.Along ds w') {d : Deed M} (mem : d ∈ ds) :
    Reaches d.after w' := by
  induction ds generalizing w with
  | nil => cases mem
  | cons d' rest ih =>
    cases mem with
    | head => exact h.2.reaches
    | tail _ later => exact ih h.2 later

/-- Whoever one of some deeds removes is not registered any more after them. -/
lemma Along.ended_of_removed (h : w.Along ds w') (agrees : w.environment.Agrees)
    (distinct : Function.Injective w.environment.supply.draw) {d : Deed M} (mem : d ∈ ds)
    (removes : d.Removes i) : i.Ended w'.environment := by
  have before := h.reaches_of_mem mem
  have removed : Reaches w d.after := before.trans (reaches_apply d.access d.world)
  exact (removes.ended (before.agrees agrees)).later (removed.later.supply ▸ distinct)
    (h.reaches_after mem).later

/-- Deeds that follow one another end a live registration exactly if one of them removes it. -/
theorem Along.dead_iff (h : w.Along ds w') (agrees : w.environment.Agrees)
    (distinct : Function.Injective w.environment.supply.draw)
    (live : i.isLive w.environment = true) :
    i.isLive w'.environment = false ↔ ∃ d ∈ ds, d.Removes i := by
  constructor
  · intro dead
    induction ds generalizing w with
    | nil =>
      obtain rfl : w = w' := h
      rw [live] at dead
      cases dead
    | cons d rest ih =>
      obtain ⟨rfl, rest⟩ := h
      have step := reaches_apply d.access d.world
      cases still : i.isLive d.after.environment with
      | false => exact ⟨d, List.mem_cons_self, Deed.removes_of_ends live still⟩
      | true =>
        obtain ⟨d', mem, removes⟩ :=
          ih rest (step.agrees agrees) (step.later.supply ▸ distinct) still
        exact ⟨d', List.mem_cons_of_mem _ mem, removes⟩
  · rintro ⟨d, mem, removes⟩
    exact (h.ended_of_removed agrees distinct mem removes).dead

end World

/-! ## Removals of a history -/

section Histories

variable [Time T] {i : Incarnation}

/-- Whoever is removed in a call of the driver is not registered any more after it. -/
lemma DriverCall.ended_of_removed {s : Simulation M T} {w : World M} (c : DriverCall M T)
    (agrees : w.environment.Agrees) (distinct : Function.Injective w.environment.supply.draw)
    {d : Deed M} (mem : d ∈ c.deeds s w) (removes : d.Removes i) :
    i.Ended (c.outcome s w).world.environment := by
  have supply : (c.entered s w).environment.supply = w.environment.supply :=
    congrArg (fun w => w.environment.supply) (c.content_entered s w)
  have entered : (c.entered s w).environment.Agrees :=
    agrees.of_eq c.entries_entered (congrArg (fun w => w.environment.members)
      (c.content_entered s w)) supply
      (congrArg (fun w => w.environment.drawn) (c.content_entered s w))
  obtain ⟨w', along, ends⟩ := c.deeds_along s w
  have ended := along.ended_of_removed entered (supply ▸ distinct) mem removes
  obtain same | closed := ends
  · rw [same]
    exact ended
  · rw [closed]
    exact ⟨ended.dead, ended.drawn⟩

/-- Whoever is removed in a history is not registered any more after it. -/
theorem Progress.ended_of_removed {g : Progress M T} (agrees : g.environment.Agrees)
    (distinct : Function.Injective g.environment.supply.draw) (history : List (DriverCall M T))
    {d : Deed M} (mem : d ∈ g.deeds history) (removes : d.Removes i) :
    i.Ended (history.foldl next g).environment := by
  induction history generalizing g with
  | nil => cases mem
  | cons c rest ih =>
    have distinct' : Function.Injective (g.next c).environment.supply.draw :=
      (g.next_later c).supply ▸ distinct
    rcases List.mem_append.1 mem with now | later
    · have ended : i.Ended (g.next c).environment := c.ended_of_removed agrees distinct now removes
      exact ended.later distinct' ((g.next c).foldl_later rest)
    · exact ih (c.agrees agrees).2 distinct' later

end Histories

/-! ## When a removal takes effect -/

/-- A tick that steps its participants one after another steps those that were registered as they
joined when it opened. Whoever has been removed before is not among them, in whatever call of the
driver that was. Who is not registered any more when its turn comes is stepped nevertheless; that
happens exactly if somebody who was stepped earlier in the same tick has removed it. -/
theorem removal_takes_effect_next_tick [Time T] (x : Plan M T)
    (distinct : Function.Injective x.supply.draw) (history : List (DriverCall M T))
    {clock : Clock T} (opens : (x.after history).simulation.opens? = some clock)
    (sequential : (x.after history).simulation.driver.execution = .sequential) :
    let g := x.after history
    let turns := g.simulation.stepTurnsIn g.world clock
    (g.simulation.runTick g.world).calls.filter HookCall.steps =
      turns.map (StepTurn.call clock.context) ∧
    g.simulation.stepDeedsIn g.world clock = turns.flatMap (StepTurn.deeds clock.context) ∧
    turns.map StepTurn.slot = g.simulation.participants.filter
      (fun slot => !slot.failed && slot.isLive g.environment) ∧
    (∀ d ∈ x.deeds history, ∀ i, d.Removes i →
      i ∉ stepped (g.simulation.runTick g.world).calls) ∧
    ∀ before t after, turns = before ++ t :: after →
      (t.slot.isLive t.world.environment = false ↔
        ∃ d ∈ before.flatMap (StepTurn.deeds clock.context), d.Removes t.slot.incarnation) := by
  intro g turns
  have agrees : g.environment.Agrees := x.agrees_after history
  have supply : g.environment.supply = x.supply := (Progress.foldl_later x.start history).supply
  have slots : turns.map StepTurn.slot = g.simulation.participants.filter
      (fun slot => !slot.failed && slot.isLive g.environment) := by
    rw [← List.filter_filter]
    exact slot_stepTurns _ _ _
  obtain ⟨calls, deeds⟩ := stepTurnsIn_spec g.world g.simulation clock sequential
  refine ⟨(runTick_ticks opens).calls.1.trans calls, deeds, slots, ?_, ?_⟩
  · intro d mem i removes stepped
    have ended : i.Ended g.environment := Progress.ended_of_removed (g := x.start)
      (x.agrees_after []) distinct history mem removes
    rw [(runTick_stepped opens).1] at stepped
    obtain ⟨slot, mem, rfl⟩ := List.mem_map.1 stepped
    have live := (Bool.and_eq_true_iff.1 (List.mem_filter.1 mem).2).2
    rw [show slot.isLive g.world.environment = _ from ended.dead] at live
    cases live
  · intro before t after split
    have mem : t.slot ∈ turns.map StepTurn.slot := by
      rw [split]
      simp
    rw [slots] at mem
    have live := (Bool.and_eq_true_iff.1 (List.mem_filter.1 mem).2).2
    have along := along_of_stepTurns split
    exact along.dead_iff (i := t.slot.incarnation) (agrees.of_eq rfl rfl rfl rfl)
      (supply ▸ distinct) live

section Eviction

/-- A participant that removes another one, whose key it knows, in its step. -/
def bouncer : Participant Key IntegerTime where
  id := ⟨1⟩
  name := "bouncer"
  initialise _ := .done .fine
  step _ := .ask .remembered fun key => .ask (.deregister ⟨2⟩ key) fun _ => .done .fine

/-- A participant whose step fails when its action is refused. -/
def guest : Participant Key IntegerTime where
  id := ⟨2⟩
  name := "guest"
  initialise handle := .ask (.keep fun _ => handle.key) fun _ => .done .fine
  step _ := .ask .remembered fun key => .ask (.act ⟨⟨"order"⟩, .null⟩ ⟨2⟩ key) fun
    | .ok _ => .done .fine
    | .error e => .done (.failed (.environment e))

/-- A simulation that the two have joined. -/
def evening : List (DriverCall Key IntegerTime) := [.add bouncer, .add guest]

/-- The guest is live as the tick opens, and the turn before its own removes it. -/
theorem removal_of_guest :
    let g := plain.after evening
    Function.Injective plain.supply.draw ∧ g.simulation.opens? = some ⟨⟨1⟩, 1⟩ ∧
      g.simulation.driver.execution = .sequential ∧
      ∃ host late : StepTurn Key IntegerTime,
        g.simulation.stepTurnsIn g.world ⟨⟨1⟩, 1⟩ = [host, late] ∧
        late.slot.isLive g.environment = true ∧
        ∃ d ∈ host.deeds ⟨1, ⟨1⟩⟩, d.Removes late.slot.incarnation := by
  intro g
  have distinct : Function.Injective plain.supply.draw := fun _ _ => KeySupply.counting_injective
  have opens : g.simulation.opens? = some ⟨⟨1⟩, 1⟩ := by decide
  have spec := (removal_takes_effect_next_tick plain distinct evening opens rfl).2.2.2.2
  refine ⟨distinct, opens, rfl, _, _, rfl, by decide, ?_⟩
  have removed := (spec [_] _ [] rfl).1 (by decide)
  rwa [List.flatMap_cons, List.flatMap_nil, List.append_nil] at removed

/-- A participant that has been removed earlier in the tick is stepped although its registration is
dead, and its failure ends the run. -/
theorem stepped_after_removal :
    let g := plain.after evening
    let out := g.simulation.runTick g.world
    ∃ host late : StepTurn Key IntegerTime,
      g.simulation.stepTurnsIn g.world ⟨⟨1⟩, 1⟩ = [host, late] ∧
        (∃ d ∈ host.deeds ⟨1, ⟨1⟩⟩, d.Removes ⟨⟨2⟩, "guest", ⟨2⟩⟩) ∧
        late.slot.incarnation = ⟨⟨2⟩, "guest", ⟨2⟩⟩ ∧
        late.slot.isLive late.world.environment = false ∧
        stepped out.calls = [⟨⟨1⟩, "bouncer", ⟨1⟩⟩, ⟨⟨2⟩, "guest", ⟨2⟩⟩] ∧
        out.result = .error (.componentFailed 1 (.participant ⟨2⟩ "guest")
          (.environment (.invalidAuthorization ⟨2⟩))) ∧
        out.simulation.status = .aborted 1 := by
  intro g out
  have removes : (⟨.deregister ⟨2⟩ ⟨2⟩, g.world.openTick 1⟩ : Deed Key).Removes
      ⟨⟨2⟩, "guest", ⟨2⟩⟩ := rfl
  refine ⟨_, _, rfl, ⟨_, .tail _ (.head _), removes⟩, rfl, by decide, ?_⟩
  decide

end Eviction

end Cadence
