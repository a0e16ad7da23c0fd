import Cadence.Proofs.Tick

/-!
# Steps that are taken

The steps of a tick are programs that are run, one after another or side by side. Every call that a
tick makes of a step is that of a program which was run to its end (`Simulation.Takes`): it has
taken a way of its own through what all steps do, and has ended as the call says
(`Simulation.stepsIn_takes`). Steps one after another take their turns, each in the world that those
before it leave (`Simulation.stepTurnsIn_spec`).
-/

namespace Cadence

variable {M T : Type}

open World HookCall Simulation

/-! ## Steps side by side -/

/-- A step that was taken: whose it was, what was done in it, and how it has ended. -/
structure TakenStep (M T : Type) where
  slot : ParticipantSlot M T
  path : List (Deed M)
  ending : HookEnd

/-- The call of the step. -/
def TakenStep.call (ctx : TickContext T) (q : TakenStep M T) : HookCall T :=
  ⟨q.slot.component, some q.slot.key, .step, some ctx, q.ending⟩

namespace Simulation

/-- The calls are those of steps that were taken in a world, one for each of the slots, in order.
Each step is the program of its slot run to its end, with others coming in between, and all that is
done is done in these steps. -/
structure Takes (w : World M) (ctx : TickContext T) (slots : List (ParticipantSlot M T))
    (calls : List (HookCall T)) (ds : List (Deed M)) (taken : List (TakenStep M T)) : Prop where
  slots_eq : taken.map TakenStep.slot = slots
  calls_eq : calls = taken.map (TakenStep.call ctx)
  follow : ∀ q ∈ taken, (w.thread (q.slot.participant.step ctx)).Follows q.path q.ending
  sub : ∀ q ∈ taken, q.path.Sublist ds
  perm : ds.Perm (taken.flatMap TakenStep.path)

section Ways

variable {mode : ExecutionMode} {schedule : List Nat} {ctx : TickContext T}
  {slots : List (ParticipantSlot M T)} {w : World M}

/-- A slot that has not failed goes the way of its step. -/
lemma follows_of_stepThread {slot : ParticipantSlot M T} (unfailed : slot.failed = false)
    {path : List (Deed M)} {r : Option HookEnd} (follows : (stepThread ctx w slot).Follows path r) :
    ∃ ending, r = some ending ∧
      (w.thread (slot.participant.step ctx)).Follows path ending := by
  rw [stepThread, unfailed, if_neg Bool.false_ne_true] at follows
  obtain ⟨before, ending, after, rfl, follows, ends⟩ := follows.of_bind
  obtain ⟨rfl, rfl⟩ := ends.of_done
  exact ⟨ending, rfl, by rwa [List.append_nil]⟩

/-- The ways of the threads of steps are the steps that were taken. -/
lemma exists_taken {ways : List (List (Deed M) × Option HookEnd)}
    (follow : List.Forall₂ (fun t way => t.Follows way.1 way.2) (slots.map (stepThread ctx w))
      ways) :
    ∃ taken : List (TakenStep M T),
      taken.map TakenStep.slot = slots.filter (fun slot => !slot.failed) ∧
      stepCalls ctx (slots.zip (ways.map Prod.snd)) = taken.map (TakenStep.call ctx) ∧
      (∀ q ∈ taken, (w.thread (q.slot.participant.step ctx)).Follows q.path q.ending) ∧
      (∀ q ∈ taken, ∃ way ∈ ways, q.path = way.1) ∧
      ways.flatMap Prod.fst = taken.flatMap TakenStep.path := by
  induction slots generalizing ways with
  | nil =>
    cases follow
    exact ⟨[], rfl, rfl, nofun, nofun, rfl⟩
  | cons slot rest ih =>
    cases follow with
    | @cons _ way _ ways head tail =>
      obtain ⟨taken, slots', calls, follow, among, all⟩ := ih tail
      rw [List.map_cons, List.zip_cons_cons, List.filter_cons, List.flatMap_cons, all]
      have among' (q : TakenStep M T) (mem : q ∈ taken) :
          ∃ way' ∈ way :: ways, q.path = way'.1 := by
        obtain ⟨way', mem', same⟩ := among q mem
        exact ⟨way', .tail _ mem', same⟩
      cases failed : slot.failed with
      | true =>
        -- a slot that has failed before does nothing and is not called
        rw [stepThread, if_pos failed] at head
        obtain ⟨nothing, ended⟩ := head.of_done
        refine ⟨taken, slots', ?_, follow, among', by rw [nothing]; rfl⟩
        rw [← calls, ← ended]
        rfl
      | false =>
        obtain ⟨ending, ended, follows⟩ := follows_of_stepThread failed head
        refine ⟨⟨slot, way.1, ending⟩ :: taken, congrArg (slot :: ·) slots', ?_,
          List.forall_mem_cons.2 ⟨follows, follow⟩,
          List.forall_mem_cons.2 ⟨⟨way, List.mem_cons_self, rfl⟩, among'⟩, rfl⟩
        rw [ended, List.map_cons, ← calls]
        rfl

/-- Threads of steps that go their ways take the steps of the slots that have not failed. -/
lemma exists_takes {ds : List (Deed M)} {results : List (Option HookEnd)}
    {ways : List (List (Deed M) × Option HookEnd)}
    (goes : Ways (slots.map (stepThread ctx w)) ds results ways) :
    ∃ taken, Takes w ctx (slots.filter fun slot => !slot.failed)
        (stepCalls ctx (slots.zip results)) ds taken ∧
      ways.flatMap Prod.fst = taken.flatMap TakenStep.path := by
  obtain ⟨taken, slots_eq, calls, follow, among, all⟩ := exists_taken goes.follow
  rw [goes.results_eq] at calls
  refine ⟨taken, ⟨slots_eq, calls, follow, fun q mem => ?_, all ▸ goes.perm⟩, all⟩
  obtain ⟨way, mem', same⟩ := among q mem
  exact same ▸ goes.sub way mem'

/-- In both modes exactly the slots that have not failed take steps; one after another, what they do
is done in their order. -/
theorem stepAll_takes (mode : ExecutionMode) (schedule : List Nat) (ctx : TickContext T)
    (slots : List (ParticipantSlot M T)) (w : World M) :
    ∃ taken, Takes w ctx (slots.filter fun slot => !slot.failed)
        (stepCalls ctx (stepAll mode schedule ctx slots w).1)
        (stepDeeds mode schedule ctx slots w) taken ∧
      (mode = .sequential →
        stepDeeds mode schedule ctx slots w = taken.flatMap TakenStep.path) := by
  cases mode with
  | sequential =>
    obtain ⟨ways, goes, ordered⟩ := runAll_ways (slots.map (stepThread ctx w)) w
    obtain ⟨taken, takes, all⟩ := exists_takes goes
    exact ⟨taken, takes, fun _ => ordered.trans all⟩
  | concurrent =>
    obtain ⟨ways, goes⟩ := interleave_ways schedule (slots.map (stepThread ctx w)) w
    obtain ⟨taken, takes, -⟩ := exists_takes goes
    exact ⟨taken, takes, nofun⟩

end Ways

/-- The steps of a tick are those of the slots that are live as it opens and have not failed. -/
theorem stepsIn_takes (s : Simulation M T) (w : World M) (clock : Clock T) :
    ∃ taken, Takes (w.openTick clock.ticks) clock.context
        (s.participants.filter fun slot => !slot.failed && slot.isLive w.environment)
        (stepCalls clock.context (s.stepsIn w clock).1) (s.stepDeedsIn w clock) taken ∧
      (s.driver.execution = .sequential →
        s.stepDeedsIn w clock = taken.flatMap TakenStep.path) := by
  rw [← List.filter_filter]
  exact stepAll_takes _ _ _ _ _

end Simulation

/-! ## Steps one after another -/

/-- A step that nothing interrupts: whose it is, and the world in which it begins. -/
structure StepTurn (M T : Type) where
  slot : ParticipantSlot M T
  world : World M

namespace StepTurn

variable (ctx : TickContext T) (t : StepTurn M T)

/-- What is done in the step. -/
def deeds : List (Deed M) := t.world.deedsOf (t.slot.participant.step ctx)

/-- The call of the step, and how it ended. -/
def call : HookCall T :=
  ⟨t.slot.component, some t.slot.key, .step, some ctx,
    (t.world.perform (t.slot.participant.step ctx)).1⟩

end StepTurn

namespace Simulation

/-- The steps of slots one after another, each in the world that those before it leave. -/
def stepTurns (ctx : TickContext T) :
    List (ParticipantSlot M T) → World M → List (StepTurn M T)
  | [], _ => []
  | slot :: rest, w =>
    if slot.failed then stepTurns ctx rest w
    else ⟨slot, w⟩ :: stepTurns ctx rest (w.perform (slot.participant.step ctx)).2

section Steps

variable (ctx : TickContext T) (slots : List (ParticipantSlot M T)) (w : World M)

/-- Exactly the slots that have not failed take turns. -/
lemma slot_stepTurns :
    (stepTurns ctx slots w).map StepTurn.slot = slots.filter fun slot => !slot.failed := by
  induction slots generalizing w with
  | nil => rfl
  | cons slot rest ih =>
    rw [stepTurns, List.filter_cons]
    cases slot.failed with
    | true => exact ih w
    | false => exact congrArg (slot :: ·) (ih _)

variable {w}

/-- What a step does that was made a thread in one world and is taken in another. -/
lemma deeds_stepThread {w₀ : World M} (alike : w₀.Alike w) {slot : ParticipantSlot M T}
    (unfailed : slot.failed = false) :
    (stepThread ctx w₀ slot).deeds w = w.deedsOf (slot.participant.step ctx) := by
  rw [stepThread, unfailed, if_neg Bool.false_ne_true, Thread.map, Thread.deeds_bind, deedsOf,
    thread, thread, alike.generators, alike.nesting]
  exact List.append_nil _

variable {ctx slots}

/-- The threads of steps take their turns one after another. -/
lemma runAll_stepTurns {w₀ : World M} (alike : w₀.Alike w) :
    stepCalls ctx (slots.zip (runAll (slots.map (stepThread ctx w₀)) w).1) =
        (stepTurns ctx slots w).map (StepTurn.call ctx) ∧
      deedsOfAll (slots.map (stepThread ctx w₀)) w =
        (stepTurns ctx slots w).flatMap (StepTurn.deeds ctx) := by
  induction slots generalizing w with
  | nil => exact ⟨rfl, rfl⟩
  | cons slot rest ih =>
    rw [List.map_cons, runAll, deedsOfAll, stepTurns]
    cases runs : slot.failed with
    | true =>
      have passed : stepThread ctx w₀ slot = .done none := by rw [stepThread, if_pos runs]
      rw [passed, if_pos rfl]
      exact ih alike
    | false =>
      obtain ⟨calls, others⟩ :=
        ih (alike.trans (w.perform_reaches (slot.participant.step ctx)).alike)
      rw [run_stepThread ctx alike runs, deeds_stepThread ctx alike runs, others,
        if_neg Bool.false_ne_true, List.map_cons, List.flatMap_cons, ← calls]
      exact ⟨rfl, rfl⟩

/-- A turn begins where the turns before it lead. -/
lemma along_of_stepTurns {before after : List (StepTurn M T)} {t : StepTurn M T}
    (split : stepTurns ctx slots w = before ++ t :: after) :
    w.Along (before.flatMap (StepTurn.deeds ctx)) t.world := by
  induction slots generalizing w before with
  | nil => exact absurd split.symm (by simp [stepTurns])
  | cons slot rest ih =>
    rw [stepTurns] at split
    cases failed : slot.failed with
    | true =>
      rw [failed, if_pos rfl] at split
      exact ih split
    | false =>
      rw [failed, if_neg Bool.false_ne_true] at split
      cases before with
      | nil =>
        obtain ⟨rfl, -⟩ := List.cons.inj split
        exact rfl
      | cons first before =>
        obtain ⟨rfl, rest⟩ := List.cons.inj split
        exact (w.deedsOf_along _).append (ih rest)

variable (s : Simulation M T) (clock : Clock T) (w)

/-- The steps of a tick one after another. -/
def stepTurnsIn : List (StepTurn M T) :=
  stepTurns clock.context (s.enterTick clock w.environment).participants (w.openTick clock.ticks)

/-- A tick that runs its participants one after another calls and does what their turns do. -/
lemma stepTurnsIn_spec (sequential : s.driver.execution = .sequential) :
    stepCalls clock.context (s.stepsIn w clock).1 =
        (s.stepTurnsIn w clock).map (StepTurn.call clock.context) ∧
      s.stepDeedsIn w clock =
        (s.stepTurnsIn w clock).flatMap (StepTurn.deeds clock.context) := by
  simp only [stepsIn, stepAll, stepDeedsIn, stepDeeds, sequential]
  exact runAll_stepTurns (.refl _)

end Steps

end Simulation

end Cadence
