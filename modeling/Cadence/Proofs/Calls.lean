import Cadence.Proofs.Outcomes

/-!
# The hooks that are called

A participant that joins does so under a registration of its own, and the key of that registration
tells it apart from all that join under the same identifier earlier or later (`Incarnation`). Here
is what every call of the driver does to the participants of a simulation and which of their hooks
it calls: a tick drives those that are still registered (`runTick_spec`), and the other calls but
`addParticipant`, of which `Adds` tells, leave the participants alone and call none of them.
-/

namespace Cadence

variable {M T α : Type}

/-! ## Incarnations -/

/-- A participant under one registration. -/
structure Incarnation where
  id : ParticipantId
  name : String
  key : Key
  deriving DecidableEq, Repr

/-- Whether the registration under which the participant has joined is live. -/
def Incarnation.isLive (i : Incarnation) (e : Environment) : Bool := e.isCurrent i.id i.key

/-- The participant of a slot. -/
def ParticipantSlot.incarnation (slot : ParticipantSlot M T) : Incarnation :=
  ⟨slot.participant.id, slot.participant.name, slot.key⟩

namespace HookCall

/-- The participant whose hook was called. -/
def incarnation? (c : HookCall T) : Option Incarnation :=
  match c.component, c.key with
  | .participant id name, some key => some ⟨id, name, key⟩
  | _, _ => none

/-- Whether the call has made a component join. -/
def joins (c : HookCall T) : Bool := c.hook == .initialise && c.ending.failure?.isNone

/-- Whether the call was a step. -/
def steps (c : HookCall T) : Bool := c.hook == .step

/-- Whether the call was a step that failed. -/
def fails (c : HookCall T) : Bool := c.hook == .step && c.ending.failure?.isSome

/-- The participants of those calls that are as told. -/
def incarnations (p : HookCall T → Bool) (calls : List (HookCall T)) : List Incarnation :=
  (calls.filter p).filterMap incarnation?

/-- The participants of calls after other calls come after those of the others. -/
lemma incarnations_append (p : HookCall T → Bool) (l₁ l₂ : List (HookCall T)) :
    incarnations p (l₁ ++ l₂) = incarnations p l₁ ++ incarnations p l₂ := by
  rw [incarnations, List.filter_append, List.filterMap_append]
  rfl

/-- Calls of which none is of a hook of a participant. -/
def Silent (calls : List (HookCall T)) : Prop := ∀ c ∈ calls, c.incarnation? = none

/-- No calls are silent. -/
lemma Silent.nil : Silent ([] : List (HookCall T)) := fun _ mem => absurd mem List.not_mem_nil

/-- Silent calls after one that is of no participant are silent with it. -/
lemma Silent.cons {c : HookCall T} {calls : List (HookCall T)} (head : c.incarnation? = none)
    (tail : Silent calls) : Silent (c :: calls) :=
  List.forall_mem_cons.2 ⟨head, tail⟩

/-- Silent calls are of nobody. -/
lemma Silent.incarnations_eq {calls : List (HookCall T)} (h : Silent calls)
    (p : HookCall T → Bool) : incarnations p calls = [] := by
  rw [incarnations, List.filterMap_eq_nil_iff]
  intro c mem
  exact h c (List.mem_filter.1 mem).1

end HookCall

open HookCall

/-- The participants that have joined, in that order. -/
abbrev joined (calls : List (HookCall T)) : List Incarnation := incarnations joins calls

/-- The participants that were stepped, in that order. -/
abbrev stepped (calls : List (HookCall T)) : List Incarnation := incarnations steps calls

/-- The participants that have failed in a step. -/
abbrev failed (calls : List (HookCall T)) : List Incarnation := incarnations fails calls

/-- Who joins later comes later in the list. -/
lemma joined_append (l₁ l₂ : List (HookCall T)) : joined (l₁ ++ l₂) = joined l₁ ++ joined l₂ :=
  incarnations_append joins l₁ l₂

/-- Who is stepped later comes later in the list. -/
lemma stepped_append (l₁ l₂ : List (HookCall T)) : stepped (l₁ ++ l₂) = stepped l₁ ++ stepped l₂ :=
  incarnations_append steps l₁ l₂

/-- Who fails later comes later in the list. -/
lemma failed_append (l₁ l₂ : List (HookCall T)) : failed (l₁ ++ l₂) = failed l₁ ++ failed l₂ :=
  incarnations_append fails l₁ l₂

/-! ## Steps of a tick -/

namespace Simulation

/-- Whether the step of a slot has failed. -/
def Stepped.hasFailed (q : Stepped (ParticipantSlot M T)) : Bool :=
  (q.2.bind HookEnd.failure?).isSome

/-- A step is taken exactly if the slot has not failed before. -/
lemma stepThread_endsIn (ctx : TickContext T) (w : World M) (slot : ParticipantSlot M T) :
    (stepThread ctx w slot).EndsIn fun a => a.isSome = !slot.failed := by
  rw [stepThread]
  split
  · next failed =>
    rw [failed]
    exact rfl
  · next runs =>
    rw [Bool.eq_false_iff.2 runs]
    refine Thread.endsIn_map (fun ending => ?_) _
    rfl

/-- Exactly the slots that have not failed before are stepped, in both modes. -/
lemma stepAll_spec (mode : ExecutionMode) (schedule : List Nat) (ctx : TickContext T)
    (slots : List (ParticipantSlot M T)) (w : World M) :
    (stepAll mode schedule ctx slots w).1.map Prod.fst = slots ∧
      ∀ q ∈ (stepAll mode schedule ctx slots w).1, q.2.isSome = !q.1.failed := by
  have ends : ∀ (i : Nat) (t : Thread M (Option HookEnd)),
      (slots.map (stepThread ctx w))[i]? = some t → t.EndsIn fun a =>
        ∀ slot : ParticipantSlot M T, slots[i]? = some slot → a.isSome = !slot.failed := by
    intro i t at_i
    rw [List.getElem?_map, Option.map_eq_some_iff] at at_i
    obtain ⟨slot, at_i, rfl⟩ := at_i
    refine (stepThread_endsIn ctx w slot).imp fun a ending slot' at_i' => ?_
    obtain rfl : slot = slot' := Option.some.inj (at_i.symm.trans at_i')
    exact ending
  obtain ⟨endings, eq, size, each⟩ : ∃ endings : List (Option HookEnd),
      (stepAll mode schedule ctx slots w).1 = slots.zip endings ∧
      endings.length = slots.length ∧ ∀ (i : Nat) (a : Option HookEnd), endings[i]? = some a →
        ∀ slot : ParticipantSlot M T, slots[i]? = some slot → a.isSome = !slot.failed := by
    cases mode with
    | sequential =>
      obtain ⟨size, each⟩ := World.runAll_endsIn ends w
      exact ⟨_, rfl, size.trans (List.length_map _), each⟩
    | concurrent =>
      obtain ⟨size, each⟩ := World.interleave_endsIn schedule ends w
      exact ⟨_, rfl, size.trans (List.length_map _), each⟩
  rw [eq]
  refine ⟨List.map_fst_zip (Nat.le_of_eq size.symm), fun q mem => ?_⟩
  obtain ⟨i, at_i⟩ := List.mem_iff_getElem?.1 mem
  rw [List.getElem?_zip_eq_some] at at_i
  exact each i q.2 at_i.2 q.1 at_i.1

variable {ctx : TickContext T} {qs : List (Stepped (ParticipantSlot M T))}

/-- The calls of steps are of the participants that were called, as far as the calls are as asked
for. -/
lemma incarnations_stepCalls (p : HookCall T → Bool) :
    incarnations p (stepCalls ctx qs) = qs.filterMap fun q => q.2.bind fun ending =>
      if p ⟨q.1.component, some q.1.key, .step, some ctx, ending⟩ then some q.1.incarnation
      else none := by
  rw [incarnations, stepCalls, List.filterMap_filter, List.filterMap_filterMap]
  congr 1
  funext q
  cases q.2 <;> rfl

/-- Nobody joins by being stepped. -/
lemma joined_stepCalls : joined (stepCalls ctx qs) = [] := by
  rw [joined, incarnations_stepCalls, List.filterMap_eq_nil_iff]
  intro q _
  cases q.2 <;> rfl

/-- The calls of steps are of those that were called. -/
lemma stepped_stepCalls_eq :
    stepped (stepCalls ctx qs) = qs.filterMap fun q => q.2.map fun _ => q.1.incarnation := by
  rw [stepped, incarnations_stepCalls]
  congr 1
  funext q
  cases q.2 <;> rfl

/-- They are of all who have not failed before, if all of them and no others are called. -/
lemma stepped_stepCalls (h : ∀ q ∈ qs, q.2.isSome = !q.1.failed) :
    stepped (stepCalls ctx qs) =
      ((qs.map Prod.fst).filter fun slot => !slot.failed).map ParticipantSlot.incarnation := by
  rw [stepped_stepCalls_eq]
  induction qs with
  | nil => rfl
  | cons q rest ih =>
    obtain ⟨head, tail⟩ := List.forall_mem_cons.1 h
    rw [List.filterMap_cons, ih tail, List.map_cons, List.filter_cons, ← head]
    cases q.2 <;> rfl

/-- Every call of a step counts as one. -/
lemma length_stepped_stepCalls :
    (stepped (stepCalls ctx qs)).length = (stepCalls ctx qs).length := by
  rw [stepped_stepCalls_eq, stepCalls]
  induction qs with
  | nil => rfl
  | cons q rest ih =>
    rw [List.filterMap_cons, List.filterMap_cons]
    cases q.2 with
    | none => exact ih
    | some ending => exact congrArg (· + 1) ih

/-- Who fails in these calls is whose step has ended in a failure. -/
lemma mem_failed_stepCalls {i : Incarnation} :
    i ∈ failed (stepCalls ctx qs) ↔ ∃ q ∈ qs, q.hasFailed = true ∧ q.1.incarnation = i := by
  rw [failed, incarnations_stepCalls, List.mem_filterMap]
  refine exists_congr fun q => and_congr_right fun _ => ?_
  rw [Stepped.hasFailed]
  -- a slot that was not stepped has neither a call nor a failure
  cases q.2 with
  | none => simp
  | some ending => cases h : ending.failure? <;> simp [fails, h]

/-! ## The rest of a tick -/

/-- Plugins that execute are no participants. -/
lemma executeAll_silent (policy : FailurePolicy) (ctx : TickContext T)
    (slots : List (PluginSlot M T)) (w : World M) :
    Silent (executeAll policy ctx slots w).calls := by
  induction slots generalizing w with
  | nil => exact .nil
  | cons slot rest ih =>
    rw [executeAll]
    split
    · exact ih w
    · dsimp only
      split
      · exact .cons rfl (ih _)
      · exact .cons rfl .nil
      · exact .cons rfl (ih _)

/-- Neither are plugins that complete. -/
lemma completeAll_silent (slots : List (PluginSlot M T)) (w : World M) :
    Silent (completeAll slots w).2.2 := by
  induction slots generalizing w with
  | nil => exact .nil
  | cons slot rest ih =>
    rw [completeAll]
    split
    · exact ih w
    · dsimp only
      split <;> exact .cons rfl (ih _)

variable {s : Simulation M T} {w : World M}

/-- To mark failures changes nothing about whose the slots are. -/
lemma map_incarnation_markFailed :
    (markFailed qs).map ParticipantSlot.incarnation =
      (qs.map Prod.fst).map ParticipantSlot.incarnation := by
  rw [markFailed, List.map_map, List.map_map]
  refine List.map_congr_left fun q _ => ?_
  simp only [Function.comp]
  split <;> rfl

/-- A slot remembers a failure of its step, and one before. -/
lemma mem_markFailed {slot : ParticipantSlot M T} (mem : slot ∈ markFailed qs) :
    ∃ q ∈ qs, slot.incarnation = q.1.incarnation ∧ slot.failed = (q.1.failed || q.hasFailed) := by
  obtain ⟨q, step, rfl⟩ := List.mem_map.1 mem
  refine ⟨q, step, ?_⟩
  rw [Stepped.hasFailed]
  cases (q.2.bind HookEnd.failure?).isSome with
  | true => exact ⟨rfl, (Bool.or_true _).symm⟩
  | false => exact ⟨rfl, (Bool.or_false _).symm⟩

/-- What a tick does to the participants that enter it: those that have not failed are stepped, all
keep their slots, and unless the tick ends the run the slots remember who has failed. -/
structure Drives (entrants : List (ParticipantSlot M T)) (w : World M) (ctx : TickContext T)
    (qs : List (Stepped (ParticipantSlot M T))) (out : Outcome M T (TickSummary T)) : Prop where
  entered : qs.map Prod.fst = entrants
  called : ∀ q ∈ qs, q.2.isSome = !q.1.failed
  kept : out.simulation.participants.map ParticipantSlot.incarnation =
    entrants.map ParticipantSlot.incarnation
  marked : ¬out.simulation.status.isOver = true → out.simulation.participants = markFailed qs
  calls : ∃ rest, out.calls = stepCalls ctx qs ++ rest ∧ Silent rest
  later : w.environment.Later out.world.environment
  count : ∀ summary, out.result = .ok summary →
    summary.participantsStepped = (stepCalls ctx qs).length

/-- A tick that opens drives the participants that are live by then. -/
theorem Ticks.drives {clock : Clock T} {out : Outcome M T (TickSummary T)}
    (h : s.Ticks w clock out) :
    Drives (s.participants.filter fun slot => slot.isLive w.environment) w clock.context
      (s.stepsIn w clock).1 out := by
  obtain ⟨entered, called⟩ := stepAll_spec s.driver.execution (s.schedule clock.ticks)
    clock.context (s.enterTick clock w.environment).participants (w.openTick clock.ticks)
  have marked := map_incarnation_markFailed.trans (congrArg _ entered)
  have silent := executeAll_silent s.driver.componentFailure clock.context s.plugins
    (s.stepsIn w clock).2
  have closed : ∀ w : World M, w.environment.Later w.closeTick.2.environment :=
    fun _ => .of_eq rfl rfl rfl
  have opened : w.environment.Later (w.openTick clock.ticks).environment := .of_eq rfl rfl rfl
  have steps := opened.trans (stepAll_reaches (w.openTick clock.ticks) s.driver.execution
    (s.schedule clock.ticks) clock.context (s.enterTick clock w.environment).participants).later
  have executes := steps.trans (executeAll_respects (s.stepsIn w clock).2 World.respected_reaches
    s.driver.componentFailure clock.context s.plugins).later
  cases h with
  | stepFailed abort failures =>
    -- a failure that ends the run leaves the slots as they were
    exact ⟨entered, called, rfl, fun goesOn => absurd rfl goesOn,
      ⟨[], (List.append_nil _).symm, .nil⟩, steps.trans (closed _), nofun⟩
  | executeFailed goesOn aborted =>
    exact ⟨entered, called, marked, fun _ => rfl, ⟨_, rfl, silent⟩, executes.trans (closed _),
      nofun⟩
  | actionFailed goesOn completed abort failures =>
    exact ⟨entered, called, marked, fun _ => rfl, ⟨_, rfl, silent⟩, executes.trans (closed _),
      nofun⟩
  | ended goesOn completed settled =>
    refine ⟨entered, called, marked, fun _ => rfl, ⟨_, rfl, silent⟩, executes.trans (closed _), ?_⟩
    rintro summary ⟨⟩
    rfl

/-- A tick that cannot open leaves the participants alone, and one that opens drives those that are
still registered as they joined. -/
theorem runTick_spec [Time T] (s : Simulation M T) (w : World M) :
    s.opens? = none ∧
        (s.runTick w).simulation.participants = s.participants ∧
        (¬(s.runTick w).simulation.status.isOver = true → ¬s.status.isOver = true) ∧
        (s.runTick w).calls = [] ∧
        w.environment.Later (s.runTick w).world.environment ∨
      ∃ clock, s.opens? = some clock ∧ ∃ qs,
        Drives (s.participants.filter fun slot => slot.isLive w.environment) w
          ⟨clock.ticks, clock.current⟩ qs (s.runTick w) := by
  by_cases isOver : s.status.isOver = true
  · refine .inl ⟨if_pos isOver, ?_⟩
    rw [runTick_of_over isOver]
    exact ⟨rfl, id, rfl, .refl _⟩
  · cases advanced : s.clock.increment with
    | error cause =>
      refine .inl ⟨?_, ?_⟩
      · rw [opens?, if_neg isOver, advanced]
        rfl
      · rw [runTick_of_stuck isOver advanced]
        exact ⟨rfl, fun goesOn => absurd rfl goesOn, rfl, .of_eq rfl rfl rfl⟩
    | ok clock =>
      have opens := opens?_eq_some_iff.2 ⟨isOver, advanced⟩
      exact .inr ⟨clock, opens, _, (runTick_ticks opens).drives⟩

/-- What a tick steps, in the slots of the simulation and in the result. -/
lemma runTick_stepped [Time T] {s : Simulation M T} {w : World M} {clock : Clock T}
    (opens : s.opens? = some clock) :
    stepped (s.runTick w).calls =
        (s.participants.filter fun slot => !slot.failed && slot.isLive w.environment).map
          ParticipantSlot.incarnation ∧
      ∀ summary, (s.runTick w).result = .ok summary →
        summary.participantsStepped = (stepped (s.runTick w).calls).length := by
  obtain ⟨closed, -⟩ | ⟨clock', -, qs, drives⟩ := s.runTick_spec w
  · rw [closed] at opens
    cases opens
  · obtain ⟨rest, eq, silent⟩ := drives.calls
    have same : stepped (s.runTick w).calls =
        stepped (stepCalls ⟨clock'.ticks, clock'.current⟩ qs) := by
      rw [eq, stepped_append, stepped, stepped, silent.incarnations_eq, List.append_nil]
    rw [same, length_stepped_stepCalls]
    refine ⟨?_, drives.count⟩
    rw [stepped_stepCalls drives.called, drives.entered, List.filter_filter]

/-! ## Calls of the driver -/

variable (s : Simulation M T) (w : World M)

/-- A tick makes the environment later. -/
lemma runTick_later [Time T] : w.environment.Later (s.runTick w).world.environment := by
  obtain ⟨-, -, -, -, later⟩ | ⟨clock, -, qs, drives⟩ := s.runTick_spec w
  · exact later
  · exact drives.later

/-- So does spawning participants. -/
lemma spawn_later (create : Factory M T) (names : List String) :
    w.environment.Later (s.spawn w create names).world.environment :=
  spawnFrom_induction (P := fun _ w' _ => w.environment.Later w'.environment)
    (fun _ w' _ p later => later.trans (w'.perform_reaches p).later)
    (fun s' w' _ p later =>
      later.trans (s'.addParticipant_respects w' World.respected_reaches p).later)
    [] (.refl _)

/-- So does the end of a run. -/
lemma finish_later : w.environment.Later (s.finish w).world.environment := by
  by_cases isOver : s.status.isOver = true
  · rw [(finish_of_over isOver).2]
    exact .refl _
  · rw [(finish_of_not_over isOver).2]
    have closed : w.environment.Later w.closeTick.2.environment := .of_eq rfl rfl rfl
    exact closed.trans (completeAll_respects _ World.respected_reaches s.plugins).later

/-- The end of a run calls no participant. -/
lemma finish_silent : Silent (s.finish w).calls := by
  rw [finish]
  split
  · exact .nil
  · exact .nil
  · exact completeAll_silent s.plugins w.closeTick.2

/-- It leaves the participants as they are. -/
lemma finish_participants : (s.finish w).simulation.participants = s.participants := by
  rw [finish]
  split <;> rfl

/-- So does adding a plugin. -/
lemma addPlugin_participants (p : Plugin M T) :
    (s.addPlugin w p).simulation.participants = s.participants := by
  have adds := s.addPlugin_adds w p
  generalize s.addPlugin w p = out at adds ⊢
  cases adds with
  | unrunnable | joined | failed => rfl

/-- Adding a plugin calls no participant. -/
lemma addPlugin_silent (p : Plugin M T) : Silent (s.addPlugin w p).calls := by
  have adds := s.addPlugin_adds w p
  generalize s.addPlugin w p = out at adds ⊢
  cases adds with
  | unrunnable => exact .nil
  | joined | failed => exact .cons rfl .nil

end Simulation

open Simulation

/-- Every call of the driver leads to a later environment. -/
lemma Progress.next_later [Time T] (g : Progress M T) (c : DriverCall M T) :
    g.environment.Later (g.next c).environment := by
  cases c with
  | add p => exact (addParticipant_respects _ _ World.respected_reaches p).later
  | spawn create names => exact spawn_later _ _ create names
  | addPlugin p => exact (addPlugin_respects _ _ World.respected_reaches p).later
  | tick => exact runTick_later _ _
  | finish => exact finish_later _ _
  | outside p => exact (g.world.perform_reaches p).later

end Cadence
