import Cadence.Proofs.Driven
import Cadence.Proofs.Tick

/-!
# Failure policies

Which failures of a tick end the run, and which of them is told. Failed steps come before failed
executions, and these before failed actions (`Simulation.Verdict`); what does not end the run is
listed in the summary (`tick_ends_by_policy`).
-/

namespace Cadence

variable {M T : Type}

namespace HookCall

/-- The failures among the calls that are as told, in the order of the calls. -/
def failures (p : HookCall T → Bool) (calls : List (HookCall T)) :
    List (ComponentRef × ComponentError) :=
  (calls.filter p).filterMap failure?

end HookCall

open HookCall

namespace Simulation

/-- The result of a tick that opens, given the failures of its steps, its executions, and the
failures of its actions. -/
inductive Verdict (driver : DriverConfig) (tick : UInt64)
    (steps : List (ComponentRef × ComponentError)) (executed : List (HookCall T))
    (actions : List ActionFailure) : Except TickError (TickSummary T) → Prop where
  | stepFailed {component : ComponentRef} {e : ComponentError}
      {more : List (ComponentRef × ComponentError)} (abort : driver.componentFailure = .abort)
      (failed : steps = (component, e) :: more) (unexecuted : executed = []) :
      Verdict driver tick steps executed actions (.error (.componentFailed tick component e))
  | executeFailed {component : ComponentRef} {e : ComponentError} {before : List (HookCall T)}
      {last : HookCall T} (abort : driver.componentFailure = .abort) (unfailed : steps = [])
      (calls : executed = before ++ [last]) (fine : before.filterMap failure? = [])
      (failed : last.failure? = some (component, e)) :
      Verdict driver tick steps executed actions (.error (.componentFailed tick component e))
  | actionFailed {failure : ActionFailure} {more : List ActionFailure}
      (fine : driver.componentFailure = .abort → steps = [] ∧ executed.filterMap failure? = [])
      (abort : driver.actionFailure = .abort) (failed : actions = failure :: more) :
      Verdict driver tick steps executed actions (.error (.actionFailed tick failure))
  | ended {summary : TickSummary T}
      (fine : driver.componentFailure = .abort → steps = [] ∧ executed.filterMap failure? = [])
      (settled : driver.actionFailure = .abort → actions = [])
      (listed : summary.failures = (steps ++ executed.filterMap failure?).map listed) :
      Verdict driver tick steps executed actions (.ok summary)

namespace Verdict

variable {driver : DriverConfig} {tick : UInt64} {steps : List (ComponentRef × ComponentError)}
  {executed : List (HookCall T)} {actions : List ActionFailure}
  {result : Except TickError (TickSummary T)}

end Verdict

variable {s : Simulation M T} {w : World M} {clock : Clock T}
  {out : Outcome M T (TickSummary T)}

/-- If its steps do not end a tick under the policy to abort, none has failed. -/
lemma unfailed_of_goesOn (goesOn : ¬s.StepsAbort w clock)
    (abort : s.driver.componentFailure = .abort) : stepFailures (s.stepsIn w clock).1 = [] := by
  by_contra failed
  exact goesOn ⟨abort, failed⟩

/-- A tick that no component ends has no failed component if such failures end runs. -/
lemma unfailed_of_completed (goesOn : ¬s.StepsAbort w clock)
    (completed : (s.executesIn w clock).abortedBy = none)
    (abort : s.driver.componentFailure = .abort) :
    stepFailures (s.stepsIn w clock).1 = [] ∧
      (s.executesIn w clock).calls.filterMap failure? = [] := by
  obtain ⟨-, -, unfailed⟩ := (executesIn_executes goesOn).of_completed completed
  exact ⟨unfailed_of_goesOn goesOn abort, unfailed abort⟩

/-- A tick that opens ends by the verdict on what has failed in it. -/
theorem Ticks.verdict (h : s.Ticks w clock out) :
    Verdict s.driver clock.ticks (failures HookCall.steps out.calls)
      (out.calls.filter HookCall.executes)
      ((answered (s.deedsIn w clock)).filterMap Answered.failure?) out.result := by
  obtain ⟨steps, executes, -⟩ := h.calls
  rw [failures, steps, executes, failures_stepCalls]
  cases h with
  | stepFailed abort failed =>
    have aborts : s.StepsAbort w clock := ⟨abort, by rw [failed]; nofun⟩
    exact .stepFailed abort failed (if_pos aborts)
  | executeFailed goesOn aborted =>
    obtain ⟨abort, before, last, calls, fine, failed⟩ :=
      (executesIn_executes goesOn).of_aborted aborted
    rw [if_neg goesOn]
    exact .executeFailed abort (unfailed_of_goesOn goesOn abort) calls fine failed
  | actionFailed goesOn completed abort failed =>
    rw [(tick_tells goesOn).failures] at failed
    rw [if_neg goesOn]
    exact .actionFailed (unfailed_of_completed goesOn completed) abort failed
  | ended goesOn completed settled =>
    rw [(tick_tells goesOn).failures] at settled
    obtain ⟨failures, -, -⟩ := (executesIn_executes goesOn).of_completed completed
    rw [if_neg goesOn]
    refine .ended (unfailed_of_completed goesOn completed) settled ?_
    rw [← failures, List.map_append]

/-- A tick that opens leaves the run given up or going on, and the window closed. -/
lemma Ticks.status (h : s.Ticks w clock out) :
    (∀ cause, out.result = .error cause → out.simulation.status = .aborted clock.ticks) ∧
      (∀ summary, out.result = .ok summary → out.simulation.status = .running clock.ticks) ∧
      out.world.environment.window.phase = .closed := by
  cases h with
  | stepFailed | executeFailed | actionFailed => exact ⟨fun _ _ => rfl, nofun, rfl⟩
  | ended => exact ⟨nofun, fun _ _ => rfl, rfl⟩

/-- A tick executes plugins that have not failed before, in order, and all of them unless a
component ends the run. -/
lemma Ticks.executed (h : s.Ticks w clock out) :
    ∃ left, (s.plugins.filter fun slot => !slot.failed).map PluginSlot.component =
        (out.calls.filter HookCall.executes).map HookCall.component ++ left ∧
      ((s.driver.componentFailure = .abort → failures HookCall.steps out.calls = [] ∧
        failures HookCall.executes out.calls = []) → left = []) := by
  obtain ⟨steps, executes, -⟩ := h.calls
  rw [failures, failures, executes, steps, failures_stepCalls]
  by_cases aborts : s.StepsAbort w clock
  · refine ⟨_, by rw [if_pos aborts]; rfl, fun fine => ?_⟩
    exact absurd (fine aborts.1).1 aborts.2
  · rw [if_neg aborts]
    obtain ⟨left, eq, all⟩ := (executesIn_executes aborts).components
    refine ⟨left, eq, fun fine => all ?_⟩
    cases aborted : (s.executesIn w clock).abortedBy with
    | none => rfl
    | some f =>
      obtain ⟨abort, before, last, calls, -, failed⟩ :=
        (executesIn_executes aborts).of_aborted aborted
      have unfailed := (fine abort).2
      rw [calls, List.filterMap_append, List.filterMap_cons_some failed] at unfailed
      simp at unfailed

end Simulation

open Simulation

section Clumsy

/-- A participant that fails in its step. -/
def clumsy : Participant Key IntegerTime where
  id := ⟨3⟩
  name := "clumsy"
  initialise _ := .done .fine
  step _ := .done (.failed (.failed "stumbled"))

end Clumsy

end Cadence
