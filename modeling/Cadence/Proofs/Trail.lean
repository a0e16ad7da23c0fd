import Cadence.Proofs.Tick

/-!
# What a history does

The deeds of every call of the driver, and those of a history, one call after another
(`Plan.deeds`). The driver itself only opens and closes the window between them, so the content of
the world after a history, and before every deed of it, is what the accesses so far have made of the
content at the start (`Plan.content_of_deed`).
-/

namespace Cadence

variable {M T α : Type}

open World

namespace Simulation

variable (s : Simulation M T) (w : World M)

/-! ## Components join -/

/-- What is done when a participant is added. -/
def addDeeds (p : Participant M T) : List (Deed M) :=
  match s.checkRunnable with
  | .error _ => []
  | .ok () =>
    w.deedsOf (.request (.register p.id p.name)) ++
      match w.call (.register p.id p.name) with
      | (.error _, _) => []
      | (.ok admission, w) =>
        let hook := p.initialise (.ofAdmission admission)
        w.deedsOf hook ++
          match (w.perform hook).1.guarded with
          | .ok () => []
          | .error _ => (w.perform hook).2.deedsOf (.request (.deregister p.id admission.key))

/-- To add a participant leads along its deeds. -/
lemma addDeeds_along (p : Participant M T) :
    w.Along (s.addDeeds w p) (s.addParticipant w p).world := by
  rw [addDeeds, addParticipant]
  cases s.checkRunnable with
  | error e => exact rfl
  | ok u =>
    have registers := w.deedsOf_along (.request (.register p.id p.name))
    rw [← call] at registers
    dsimp only
    generalize w.call (.register p.id p.name) = registered at registers ⊢
    obtain ⟨_ | admission, w₁⟩ := registered
    · rw [List.append_nil]
      exact registers
    · refine registers.append ?_
      dsimp only
      have initialises := w₁.deedsOf_along (p.initialise (.ofAdmission admission))
      generalize w₁.perform (p.initialise (.ofAdmission admission)) = initialised at initialises ⊢
      cases initialised.1.guarded with
      | ok u =>
        rw [List.append_nil]
        exact initialises
      | error e => exact initialises.append (initialised.2.deedsOf_along _)

/-- What is done when participants are created and added. -/
def spawnDeeds (create : Factory M T) :
    Nat → List String → Simulation M T → World M → List (Deed M)
  | _, [], _, _ => []
  | n, name :: rest, s, w =>
    let made := w.perform (create n (s.participantIds s.participantsMade) name)
    let s' := { s with participantsMade := s.participantsMade + 1 }
    let added := s'.addParticipant made.2 made.1
    w.deedsOf (create n (s.participantIds s.participantsMade) name) ++
      (s'.addDeeds made.2 made.1 ++
        match added.result with
        | .error _ => []
        | .ok _ => spawnDeeds create (n + 1) rest added.simulation added.world)

/-- To spawn participants leads along their deeds. -/
lemma spawnDeeds_along (create : Factory M T) (n : Nat) (names : List String) :
    w.Along (spawnDeeds create n names s w) (spawnFrom create n names s w).world := by
  induction names generalizing n s w with
  | nil => exact rfl
  | cons name rest ih =>
    rw [spawnDeeds, spawnFrom]
    refine (w.deedsOf_along _).append ?_
    have adds := addDeeds_along { s with participantsMade := s.participantsMade + 1 }
      (w.perform (create n (s.participantIds s.participantsMade) name)).2
      (w.perform (create n (s.participantIds s.participantsMade) name)).1
    dsimp only
    generalize addParticipant { s with participantsMade := s.participantsMade + 1 } _ _ = added
      at adds ⊢
    obtain ⟨result, simulation, world, calls⟩ := added
    cases result with
    | error e =>
      dsimp only
      rw [List.append_nil]
      exact adds
    | ok id => exact adds.append (ih _ _ _)

/-- What is done when a plugin is added. -/
def addPluginDeeds (p : Plugin M T) : List (Deed M) :=
  match s.checkRunnable with
  | .error _ => []
  | .ok () => w.deedsOf p.initialise

/-- To add a plugin leads along its deeds. -/
lemma addPluginDeeds_along (p : Plugin M T) :
    w.Along (s.addPluginDeeds w p) (s.addPlugin w p).world := by
  rw [addPluginDeeds, addPlugin]
  cases s.checkRunnable with
  | error e => exact rfl
  | ok u =>
    dsimp only
    cases (w.perform p.initialise).1.guarded with
    | ok u => exact w.deedsOf_along p.initialise
    | error e => exact w.deedsOf_along p.initialise

/-! ## Ticks, and the end -/

/-- What is done in a tick. -/
def tickDeeds [Time T] : List (Deed M) :=
  match s.opens? with
  | none => []
  | some clock => s.deedsIn w clock

/-- A tick that opens does what its steps do and then what its executions do. -/
lemma tickDeeds_of_opens [Time T] {s : Simulation M T} {clock : Clock T}
    (opens : s.opens? = some clock) :
    s.tickDeeds w = s.stepDeedsIn w clock ++ s.executeDeedsIn w clock := by
  rw [tickDeeds, opens]
  rfl

/-- A tick that does not open leaves the world, or closes the window. -/
lemma runTick_world_of_not_opens [Time T] {s : Simulation M T} {w : World M}
    (closed : s.opens? = none) :
    (s.runTick w).world = w ∨ (s.runTick w).world = w.closeTick.2 := by
  by_cases isOver : s.status.isOver = true
  · exact .inl (by rw [runTick_of_over isOver])
  · cases advanced : s.clock.increment with
    | error cause => exact .inr (by rw [runTick_of_stuck isOver advanced]; rfl)
    | ok clock =>
      rw [opens?_eq_some_iff.2 ⟨isOver, advanced⟩] at closed
      cases closed

/-- What plugins do when the run is completed. -/
def completeDeeds : List (PluginSlot M T) → World M → List (Deed M)
  | [], _ => []
  | slot :: rest, w =>
    if slot.failed then completeDeeds rest w
    else w.deedsOf slot.plugin.complete ++ completeDeeds rest (w.perform slot.plugin.complete).2

/-- To complete plugins leads along their deeds. -/
lemma completeDeeds_along (slots : List (PluginSlot M T)) (w : World M) :
    w.Along (completeDeeds slots w) (completeAll slots w).2.1 := by
  induction slots generalizing w with
  | nil => exact rfl
  | cons slot rest ih =>
    rw [completeDeeds, completeAll]
    split
    · exact ih w
    · have completes := (w.deedsOf_along slot.plugin.complete).append (ih _)
      dsimp only
      split <;> exact completes

/-- What is done when a run is completed. -/
def finishDeeds : List (Deed M) :=
  if s.status.isOver then [] else completeDeeds s.plugins w.closeTick.2

end Simulation

/-! ## Calls of the driver -/

open Simulation

namespace DriverCall

variable [Time T] (s : Simulation M T) (w : World M)

/-- What is done in a call of the driver. -/
def deeds : DriverCall M T → List (Deed M)
  | add p => s.addDeeds w p
  | spawn create names => spawnDeeds create 0 names s w
  | addPlugin p => s.addPluginDeeds w p
  | tick => s.tickDeeds w
  | finish => s.finishDeeds w
  | outside p => w.deedsOf p

/-- The world in which the first of its deeds is done: a tick opens the window, and the end of a run
closes it. -/
def entered : DriverCall M T → World M
  | tick => (s.opens?.map fun clock => w.openTick clock.ticks).getD w
  | finish => if s.status.isOver then w else w.closeTick.2
  | _ => w

/-- A call does its deeds one after another, and a tick closes the window after them. -/
theorem deeds_along (c : DriverCall M T) :
    ∃ w', (c.entered s w).Along (c.deeds s w) w' ∧
      ((c.outcome s w).world = w' ∨ (c.outcome s w).world = w'.closeTick.2) := by
  cases c with
  | add p => exact ⟨_, s.addDeeds_along w p, .inl rfl⟩
  | spawn create names => exact ⟨_, spawnDeeds_along s w create 0 names, .inl rfl⟩
  | addPlugin p => exact ⟨_, s.addPluginDeeds_along w p, .inl rfl⟩
  | tick =>
    show ∃ w',
      ((s.opens?.map fun clock => w.openTick clock.ticks).getD w).Along (s.tickDeeds w) w' ∧
      ((s.runTick w).world = w' ∨ (s.runTick w).world = w'.closeTick.2)
    rw [tickDeeds]
    cases opens : s.opens? with
    | none => exact ⟨w, rfl, runTick_world_of_not_opens opens⟩
    | some clock =>
      obtain ⟨w', along, closes⟩ := (runTick_ticks (w := w) opens).along
      exact ⟨w', along, .inr closes⟩
  | finish =>
    show ∃ w', (if s.status.isOver then w else w.closeTick.2).Along (s.finishDeeds w) w' ∧
      ((s.finish w).world = w' ∨ (s.finish w).world = w'.closeTick.2)
    rw [finishDeeds]
    split
    · next isOver => exact ⟨w, rfl, .inl (finish_of_over isOver).2⟩
    · next runnable =>
      exact ⟨_, completeDeeds_along s.plugins w.closeTick.2, .inl (finish_of_not_over runnable).2⟩
  | outside p => exact ⟨_, w.deedsOf_along p, .inl rfl⟩

/-- Entering a call changes no content. -/
lemma content_entered (c : DriverCall M T) : (c.entered s w).content = w.content := by
  cases c with
  | add | spawn | addPlugin | outside => rfl
  | tick =>
    show ((s.opens?.map fun clock => w.openTick clock.ticks).getD w).content = w.content
    cases s.opens? <;> rfl
  | finish =>
    show (if s.status.isOver then w else w.closeTick.2).content = w.content
    split <;> rfl

/-- The content of the world after a call is what its accesses have made of the content before. -/
lemma content_outcome (c : DriverCall M T) :
    (c.outcome s w).world.content = w.replay ((c.deeds s w).map Deed.access) := by
  obtain ⟨w', along, same | closed⟩ := c.deeds_along s w
  · rw [same, along.content_eq, replay_congr (c.content_entered s w)]
  · rw [closed, ← replay_congr (c.content_entered s w), ← along.content_eq]
    rfl

/-- A call leaves the world to which its deeds lead, but for the action window. -/
lemma content_along (c : DriverCall M T) :
    ∃ w', (c.entered s w).Along (c.deeds s w) w' ∧
      (c.outcome s w).world.content = w'.content := by
  obtain ⟨w', along, ends⟩ := c.deeds_along s w
  refine ⟨w', along, ?_⟩
  obtain same | closed := ends
  · rw [same]
  · rw [closed]
    rfl

/-- What every access keeps, and what does not depend on the action window, holds before every deed
of a call and after it. -/
lemma keeps {P : World M → Prop}
    (of_content : ∀ {w w' : World M}, w'.content = w.content → P w → P w')
    (step : ∀ (a : Access M) w, P w → P (a.apply w).2) (c : DriverCall M T) (h : P w) :
    (∀ d ∈ c.deeds s w, P d.world) ∧ P (c.outcome s w).world := by
  have entered : P (c.entered s w) := of_content (c.content_entered s w) h
  obtain ⟨w', along, content⟩ := c.content_along s w
  exact ⟨fun d mem => (along.reaches_of_mem mem).keeps step entered,
    of_content content (along.reaches.keeps step entered)⟩

end DriverCall

/-! ## Histories -/

namespace Progress

variable [Time T]

/-- What is done in calls of the driver, one after another. -/
def deeds (g : Progress M T) : List (DriverCall M T) → List (Deed M)
  | [] => []
  | c :: rest => c.deeds g.simulation g.world ++ (g.next c).deeds rest

/-- The deeds of two histories are those of the one and then of the other. -/
lemma deeds_append (g : Progress M T) (h₁ h₂ : List (DriverCall M T)) :
    g.deeds (h₁ ++ h₂) = g.deeds h₁ ++ (h₁.foldl next g).deeds h₂ := by
  induction h₁ generalizing g with
  | nil => rfl
  | cons c rest ih =>
    rw [List.cons_append, deeds, deeds, ih, List.append_assoc]
    rfl

/-- The content of the world after a history is what its accesses have made of the content before.
-/
theorem content_foldl (g : Progress M T) (history : List (DriverCall M T)) :
    (history.foldl next g).world.content = g.world.replay ((g.deeds history).map Deed.access) := by
  induction history generalizing g with
  | nil => rfl
  | cons c rest ih =>
    have first : (g.next c).world.content =
        g.world.replay ((c.deeds g.simulation g.world).map Deed.access) :=
      c.content_outcome g.simulation g.world
    rw [List.foldl_cons, ih, deeds, List.map_append, replay_append]
    refine replay_congr ?_ _
    rw [first, content_replay]

end Progress

namespace Plan

variable [Time T] (x : Plan M T)

/-- What is done in a history. -/
def deeds (history : List (DriverCall M T)) : List (Deed M) := x.start.deeds history

/-- Every deed sees, the window aside, what all deeds before it have made of the world at the start:
those of earlier calls of the driver, and those of its own call. -/
theorem content_of_deed (history : List (DriverCall M T)) (c : DriverCall M T)
    {before after : List (Deed M)} {d : Deed M}
    (split : c.deeds (x.after history).simulation (x.after history).world =
      before ++ d :: after) :
    d.world.content = x.world.replay ((x.deeds history ++ before).map Deed.access) := by
  obtain ⟨w', along, -⟩ := c.deeds_along (x.after history).simulation (x.after history).world
  rw [split] at along
  have earlier : (x.after history).world.content =
      x.world.replay ((x.deeds history).map Deed.access) := x.start.content_foldl history
  rw [along.content_of_mem, List.map_append, replay_append]
  refine replay_congr ?_ _
  rw [c.content_entered, earlier, content_replay]

end Plan

end Cadence
