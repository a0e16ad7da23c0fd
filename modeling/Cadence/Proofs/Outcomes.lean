import Cadence.Proofs.History

/-!
# How ticks come out

A tick that opens comes out in one of four ways (`Simulation.Ticks`): its steps end the run, an
execution ends it, an action ends it, or the tick ends with a summary. Every case says which hooks
were called and what the simulation and the world are afterwards, so that whatever is said of all
ticks is said by four cases.
-/

namespace Cadence

variable {M T : Type}

/-- What the components of a tick see of the clock. -/
def Clock.context (clock : Clock T) : TickContext T := ⟨clock.ticks, clock.current⟩

namespace Simulation

variable (s : Simulation M T) (w : World M) (clock : Clock T)

/-- The steps of a tick, and the world after them. -/
def stepsIn : List (Stepped (ParticipantSlot M T)) × World M :=
  stepAll s.driver.execution (s.schedule clock.ticks) clock.context
    (s.enterTick clock w.environment).participants (w.openTick clock.ticks)

/-- The executions of a tick that its steps do not end. -/
def executesIn : Executed M T :=
  executeAll s.driver.componentFailure clock.context s.plugins (s.stepsIn w clock).2

/-- Whether the steps of a tick end the run. -/
def StepsAbort : Prop :=
  s.driver.componentFailure = .abort ∧ stepFailures (s.stepsIn w clock).1 ≠ []

instance : Decidable (s.StepsAbort w clock) := inferInstanceAs (Decidable (_ ∧ _))

/-- How a tick that opens comes out. -/
inductive Ticks : Outcome M T (TickSummary T) → Prop where
  | stepFailed {component : ComponentRef} {e : ComponentError}
      {more : List (ComponentRef × ComponentError)}
      (abort : s.driver.componentFailure = .abort)
      (failures : stepFailures (s.stepsIn w clock).1 = (component, e) :: more) :
      Ticks
        { result := .error (.componentFailed clock.ticks component e)
          simulation := { s.enterTick clock w.environment with status := .aborted clock.ticks }
          world := (s.stepsIn w clock).2.closeTick.2
          calls := stepCalls clock.context (s.stepsIn w clock).1 }
  | executeFailed {component : ComponentRef} {e : ComponentError}
      (goesOn : ¬s.StepsAbort w clock)
      (aborted : (s.executesIn w clock).abortedBy = some (component, e)) :
      Ticks
        { result := .error (.componentFailed clock.ticks component e)
          simulation :=
            { s.enterTick clock w.environment with
              status := .aborted clock.ticks
              participants := markFailed (s.stepsIn w clock).1
              plugins := (s.executesIn w clock).slots }
          world := (s.executesIn w clock).world.closeTick.2
          calls := stepCalls clock.context (s.stepsIn w clock).1 ++ (s.executesIn w clock).calls }
  | actionFailed {failure : ActionFailure} {more : List ActionFailure}
      (goesOn : ¬s.StepsAbort w clock)
      (completed : (s.executesIn w clock).abortedBy = none)
      (abort : s.driver.actionFailure = .abort)
      (failures : (s.executesIn w clock).world.environment.window.stats.failures =
        failure :: more) :
      Ticks
        { result := .error (.actionFailed clock.ticks failure)
          simulation :=
            { s.enterTick clock w.environment with
              status := .aborted clock.ticks
              participants := markFailed (s.stepsIn w clock).1
              plugins := (s.executesIn w clock).slots }
          world := (s.executesIn w clock).world.closeTick.2
          calls := stepCalls clock.context (s.stepsIn w clock).1 ++ (s.executesIn w clock).calls }
  | ended (goesOn : ¬s.StepsAbort w clock)
      (completed : (s.executesIn w clock).abortedBy = none)
      (settled : s.driver.actionFailure = .abort →
        (s.executesIn w clock).world.environment.window.stats.failures = []) :
      Ticks
        { result := .ok
            { tick := clock.ticks
              time := clock.current
              participantsStepped := (stepCalls clock.context (s.stepsIn w clock).1).length
              pluginsExecuted := (s.executesIn w clock).count
              participantsRegistered :=
                (s.executesIn w clock).world.environment.participants.length
              actions := (s.executesIn w clock).world.environment.window.stats
              failures := (stepFailures (s.stepsIn w clock).1).map listed ++
                (s.executesIn w clock).failures.map listed }
          simulation :=
            { s.enterTick clock w.environment with
              participants := markFailed (s.stepsIn w clock).1
              plugins := (s.executesIn w clock).slots }
          world := (s.executesIn w clock).world.closeTick.2
          calls := stepCalls clock.context (s.stepsIn w clock).1 ++ (s.executesIn w clock).calls }

variable {s w clock}

/-- A tick that opens goes through its phases. -/
theorem runTick_ticks [Time T] (opens : s.opens? = some clock) :
    s.Ticks w clock (s.runTick w) := by
  obtain ⟨runnable, advanced⟩ := opens?_eq_some_iff.1 opens
  rw [runTick_of_opens runnable advanced, driveTick]
  dsimp only
  split
  · next abort failures => exact .stepFailed abort failures
  · next goesOn =>
    have goesOn : ¬s.StepsAbort w clock := by
      rintro ⟨abort, failed⟩
      obtain ⟨⟨component, e⟩, more, eq⟩ := List.exists_cons_of_ne_nil failed
      exact goesOn component e more abort eq
    rw [finishTick]
    dsimp only
    split
    · next aborted => exact .executeFailed goesOn aborted
    · next completed =>
      rw [conclude]
      dsimp only
      split
      · next abort failures => exact .actionFailed goesOn completed abort failures
      · next settled =>
        refine .ended goesOn completed fun abort => ?_
        cases failures : (s.executesIn w clock).world.environment.window.stats.failures with
        | nil => rfl
        | cons failure more => exact absurd failures (settled failure more abort)

/-- A tick that cannot open leaves all but the status, calls no hook and gives no summary. -/
lemma runTick_of_closed [Time T] (closed : s.opens? = none) :
    (∃ status, (s.runTick w).simulation = { s with status := status }) ∧ (s.runTick w).calls = [] ∧
      (s.runTick w).result.toOption = none := by
  by_cases isOver : s.status.isOver = true
  · rw [runTick_of_over isOver]
    exact ⟨⟨s.status, rfl⟩, rfl, rfl⟩
  · cases advanced : s.clock.increment with
    | error cause =>
      rw [runTick_of_stuck isOver advanced]
      exact ⟨⟨_, rfl⟩, rfl, rfl⟩
    | ok clock =>
      rw [opens?_eq_some_iff.2 ⟨isOver, advanced⟩] at closed
      cases closed

end Simulation

end Cadence
