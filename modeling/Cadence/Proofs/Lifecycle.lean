import Cadence.Proofs.Accounting
import Cadence.Proofs.Policy

/-!
# The life of a run

A run has not started, then is underway tick after tick, and in the end is completed or given up for
good. What one call of the driver does to the status comes down to four cases (`Progress.Passes`),
from which the status tells how many ticks have succeeded (`DriverStatus.Dates`), and by which call
a run has come to its end (`Plan.aborted_iff`, `Plan.completed_iff`). A run that is over refuses
whatever would go on with it, and nothing happens (`status_follows_lifecycle`).
-/

namespace Cadence

variable {M T : Type}

open Simulation

namespace DriverStatus

/-- How the status of a run moves from one call of the driver to the next. -/
inductive Moves : DriverStatus → DriverStatus → Prop where
  | stays (s : DriverStatus) : Moves s s
  | starts : Moves .notStarted (.running 1)
  | ticks {t t' : UInt64} (next : t'.toNat = t.toNat + 1) : Moves (.running t) (.running t')
  | completes {s : DriverStatus} (underway : s.isOver = false) (t : UInt64) : Moves s (.completed t)
  | aborts {s : DriverStatus} (underway : s.isOver = false) (t : UInt64) : Moves s (.aborted t)

/-- What a status tells of the ticks on the clock, and of the number of ticks that have succeeded.
-/
inductive Dates : DriverStatus → UInt64 → Nat → Prop where
  | notStarted : Dates .notStarted 0 0
  | running (t : UInt64) : Dates (.running t) t t.toNat
  | completed (t : UInt64) : Dates (.completed t) t t.toNat
  | aborted (t : UInt64) (succeeded : Nat) : Dates (.aborted t) t succeeded

section Dates

variable {ticks t : UInt64} {n : Nat}

/-- Before the first tick no tick has been taken. -/
lemma Dates.of_notStarted (h : Dates .notStarted ticks n) : n = 0 := by
  cases h with
  | notStarted => rfl

/-- While a simulation runs its status names the last tick. -/
lemma Dates.of_running (h : Dates (.running t) ticks n) : n = t.toNat := by
  cases h with
  | running => rfl

/-- Once it is completed its status names the last tick. -/
lemma Dates.of_completed (h : Dates (.completed t) ticks n) : n = t.toNat := by
  cases h with
  | completed => rfl

end Dates

end DriverStatus

namespace Simulation

variable {s : Simulation M T} {w : World M}

/-- When the run is over no participant is added. -/
lemma addParticipant_of_over (isOver : s.status.isOver = true) (p : Participant M T) :
    s.addParticipant w p =
      { result := .error (.notRunnable s.status), simulation := s, world := w } := by
  rw [addParticipant, checkRunnable_of_over s isOver]

/-- When the run is over no plugin is added. -/
lemma addPlugin_of_over (isOver : s.status.isOver = true) (p : Plugin M T) :
    s.addPlugin w p =
      { result := .error (.notRunnable s.status), simulation := s, world := w } := by
  rw [addPlugin, checkRunnable_of_over s isOver]

end Simulation

section Calls

variable [Time T]

/-- Whether a call of the driver is a tick that fails, and not for the run being over. -/
def DriverCall.failsTick (s : Simulation M T) (w : World M) : DriverCall M T → Prop
  | tick => ∃ cause, (s.runTick w).result = .error cause ∧ ∀ status, cause ≠ .notRunnable status
  | _ => False

namespace Progress

/-- What a call of the driver does to the status: nothing, or it is a tick that succeeds or fails,
or the end of the run. -/
inductive Passes (g : Progress M T) (c : DriverCall M T) : Prop where
  | still (status : (g.next c).simulation.status = g.simulation.status)
      (ticks : (g.next c).simulation.clock.ticks = g.simulation.clock.ticks)
      (untold : c.summary? g.simulation g.world = none)
      (unfailed : ¬c.failsTick g.simulation g.world)
      (refused : c = .finish → g.simulation.status.isOver = true)
  | succeeded (underway : g.simulation.status.isOver = false) {summary : TickSummary T}
      (status : (g.next c).simulation.status = .running (g.next c).simulation.clock.ticks)
      (ticks : (g.next c).simulation.clock.ticks.toNat = g.simulation.clock.ticks.toNat + 1)
      (told : c.summary? g.simulation g.world = some summary)
      (unfailed : ¬c.failsTick g.simulation g.world)
      (ticked : c = .tick)
  | failed (underway : g.simulation.status.isOver = false)
      (status : (g.next c).simulation.status = .aborted (g.next c).simulation.clock.ticks)
      (untold : c.summary? g.simulation g.world = none)
      (fails : c.failsTick g.simulation g.world)
      (ticked : c = .tick)
  | completed (underway : g.simulation.status.isOver = false)
      (status : (g.next c).simulation.status = .completed (g.next c).simulation.clock.ticks)
      (ticks : (g.next c).simulation.clock.ticks = g.simulation.clock.ticks)
      (finishes : c = .finish)

/-- A tick passes in one of these ways. -/
lemma passes_tick (g : Progress M T) : g.Passes .tick := by
  by_cases isOver : g.simulation.status.isOver = true
  · have refused := runTick_of_over (w := g.world) isOver
    refine .still ?_ ?_ ?_ ?_ nofun
    · exact congrArg (fun out => out.simulation.status) refused
    · exact congrArg (fun out => out.simulation.clock.ticks) refused
    · exact congrArg (fun out => out.result.toOption) refused
    · rintro ⟨cause, told, other⟩
      rw [refused] at told
      exact other _ (Except.error.inj told).symm
  · have underway := Bool.eq_false_iff.2 isOver
    cases advanced : g.simulation.clock.increment with
    | error cause =>
      -- a clock that is stuck gives up the run before the window opens
      have stuck := runTick_of_stuck (w := g.world) isOver advanced
      refine .failed underway ?_ ?_ ⟨.clock cause, ?_, nofun⟩ rfl
      · rw [next, DriverCall.outcome, stuck]
        rfl
      · exact congrArg (fun out => out.result.toOption) stuck
      · exact congrArg Outcome.result stuck
    | ok clock =>
      have ticks := runTick_ticks (w := g.world) (opens?_eq_some_iff.2 ⟨isOver, advanced⟩)
      have clock_eq : (g.next .tick).simulation.clock = clock := ticks.clock_eq
      obtain ⟨given_up, goes_on, -⟩ := ticks.status
      cases result : (g.simulation.runTick g.world).result with
      | ok summary =>
        have told : DriverCall.tick.summary? g.simulation g.world = some summary := by
          rw [DriverCall.summary?, result]
          rfl
        refine .succeeded underway ?_ ?_ told ?_ rfl
        · rw [clock_eq]
          exact goes_on summary result
        · rw [clock_eq]
          exact (Clock.increment_eq advanced).2
        · rintro ⟨cause, told, -⟩
          rw [result] at told
          cases told
      | error cause =>
        refine .failed underway ?_ ?_ ⟨cause, result, ?_⟩ rfl
        · rw [clock_eq]
          exact given_up cause result
        · rw [DriverCall.summary?, result]
          rfl
        · -- no verdict on a tick that has opened is that the run is over
          rintro status rfl
          have verdict := ticks.verdict
          rw [result] at verdict
          cases verdict

/-- Every call of the driver comes to one of the four. -/
theorem passes (g : Progress M T) (c : DriverCall M T) : g.Passes c := by
  have ticks := congrArg Clock.ticks (g.clock_next c)
  cases c with
  | add p => exact .still (addParticipant_status p) ticks rfl id nofun
  | spawn create names => exact .still (spawn_steady create names).1 ticks rfl id nofun
  | addPlugin p => exact .still (addPlugin_status p) ticks rfl id nofun
  | outside p => exact .still rfl rfl rfl id nofun
  | tick => exact g.passes_tick
  | finish =>
    by_cases isOver : g.simulation.status.isOver = true
    · have same := (finish_of_over (w := g.world) isOver).1
      exact .still (congrArg Simulation.status same) ticks rfl id fun _ => isOver
    · have done := (finish_of_not_over (w := g.world) isOver).1
      refine .completed (Bool.eq_false_iff.2 isOver) ?_ ticks rfl
      rw [next, DriverCall.outcome, done]

namespace Passes

variable {g : Progress M T} {c : DriverCall M T}

/-- A status that tells of the ticks so far moves as it may, and tells of the ticks then. -/
lemma dates (h : g.Passes c) {n : Nat}
    (told : g.simulation.status.Dates g.simulation.clock.ticks n) :
    g.simulation.status.Moves (g.next c).simulation.status ∧
      (g.next c).simulation.status.Dates (g.next c).simulation.clock.ticks
        (n + (c.summary? g.simulation g.world).toList.length) := by
  cases h with
  | still status ticks untold unfailed refused =>
    rw [status, ticks, untold]
    exact ⟨.stays _, told⟩
  | @succeeded underway summary status ticks given unfailed ticked =>
    rw [status, given]
    generalize (g.next c).simulation.clock.ticks = t at ticks
    generalize g.simulation.clock.ticks = t₀ at ticks told
    generalize g.simulation.status = before at underway told
    cases told with
    | notStarted =>
      obtain rfl : t = 1 := UInt64.toNat_inj.1 ticks
      exact ⟨.starts, .running 1⟩
    | running =>
      refine ⟨.ticks ticks, ?_⟩
      rw [Option.toList_some, List.length_singleton, ← ticks]
      exact .running t
    | completed | aborted => cases underway
  | failed underway status untold fails ticked =>
    rw [status]
    exact ⟨.aborts underway _, .aborted _ _⟩
  | completed underway status ticks finishes =>
    subst finishes
    rw [status, ticks]
    refine ⟨.completes underway _, ?_⟩
    generalize g.simulation.clock.ticks = t₀ at told
    generalize g.simulation.status = before at underway told
    cases told with
    | notStarted => exact .completed 0
    | running => exact .completed t₀
    | completed | aborted => cases underway

/-- A call leaves a simulation aborted if it was so before or if a tick fails in it. -/
lemma aborted_iff (h : g.Passes c) :
    (∃ t, (g.next c).simulation.status = .aborted t) ↔
      (∃ t, g.simulation.status = .aborted t) ∨ c.failsTick g.simulation g.world := by
  cases h with
  | still status ticks untold unfailed refused => simp only [status, unfailed, or_false]
  | succeeded underway status ticks given unfailed ticked =>
    simp only [status, unfailed, or_false, reduceCtorEq, exists_false, false_iff, not_exists]
    intro t aborted
    rw [aborted] at underway
    cases underway
  | failed underway status untold fails ticked => exact ⟨fun _ => .inr fails, fun _ => ⟨_, status⟩⟩
  | completed underway status ticks finishes =>
    subst finishes
    simp only [status, reduceCtorEq, exists_false, false_iff, not_or, not_exists]
    refine ⟨fun t aborted => ?_, id⟩
    rw [aborted] at underway
    cases underway

/-- The status of a run that is over does not move. -/
lemma status_of_over (h : g.Passes c) (isOver : g.simulation.status.isOver = true) :
    (g.next c).simulation.status = g.simulation.status := by
  cases h with
  | still status ticks untold unfailed refused => exact status
  | succeeded underway | failed underway | completed underway =>
    rw [isOver] at underway
    cases underway

end Passes

/-! ## Histories -/

/-- A run that is over keeps its status. -/
lemma status_foldl_of_over {g : Progress M T} (isOver : g.simulation.status.isOver = true)
    (later : List (DriverCall M T)) :
    (later.foldl next g).simulation.status = g.simulation.status := by
  induction later generalizing g with
  | nil => rfl
  | cons c rest ih =>
    have same := (g.passes c).status_of_over isOver
    exact (ih (same ▸ isOver)).trans same

/-- The status tells how many ticks have succeeded after a history if it does so before. -/
lemma dates_foldl {g : Progress M T} {n : Nat}
    (told : g.simulation.status.Dates g.simulation.clock.ticks n)
    (history : List (DriverCall M T)) :
    (history.foldl next g).simulation.status.Dates (history.foldl next g).simulation.clock.ticks
      (n + (g.summaries history).length) := by
  induction history generalizing g n with
  | nil => exact told
  | cons c rest ih =>
    have later := ih ((g.passes c).dates told).2
    rwa [summaries, List.length_append, ← Nat.add_assoc]

/-- What every call of the driver keeps or makes so is so after a history exactly if it was so
before or some call has made it so. -/
lemma foldl_iff {P : Progress M T → Prop} {Q : Progress M T → DriverCall M T → Prop}
    (step : ∀ g c, P (g.next c) ↔ P g ∨ Q g c) (g : Progress M T)
    (history : List (DriverCall M T)) :
    P (history.foldl next g) ↔
      P g ∨ ∃ before c after, history = before ++ c :: after ∧ Q (before.foldl next g) c := by
  induction history generalizing g with
  | nil => simp
  | cons c rest ih =>
    rw [List.foldl_cons, ih, step, or_assoc]
    refine or_congr_right ⟨?_, ?_⟩
    · rintro (now | ⟨before, c', after, rfl, later⟩)
      · exact ⟨[], c, rest, rfl, now⟩
      · exact ⟨c :: before, c', after, rfl, later⟩
    · rintro ⟨_ | ⟨first, before⟩, c', after, split, made⟩
      · obtain ⟨rfl, rfl⟩ := List.cons.inj split
        exact .inl made
      · obtain ⟨rfl, rfl⟩ := List.cons.inj split
        exact .inr ⟨before, c', after, rfl, made⟩

end Progress

namespace Plan

variable (x : Plan M T) (history : List (DriverCall M T))

/-- A run has been given up exactly if some tick has failed. -/
theorem aborted_iff :
    (∃ t, (x.after history).simulation.status = .aborted t) ↔
      ∃ before after, history = before ++ .tick :: after ∧
        DriverCall.tick.failsTick (x.after before).simulation (x.after before).world := by
  refine (Progress.foldl_iff (P := fun g => ∃ t, g.simulation.status = .aborted t)
    (fun g c => (g.passes c).aborted_iff) x.start history).trans ⟨?_, ?_⟩
  · rintro (⟨t, aborted⟩ | ⟨before, c, after, rfl, fails⟩)
    · cases aborted
    · cases c with
      | tick => exact ⟨before, after, rfl, fails⟩
      | add | spawn | addPlugin | finish | outside => exact fails.elim
  · rintro ⟨before, after, rfl, fails⟩
    exact .inr ⟨before, .tick, after, rfl, fails⟩

end Plan

end Calls

/-- What becomes of a call of the driver that a run which is over refuses. -/
def Progress.refusal (g : Progress M T) (α : Type) : Outcome M T α where
  result := .error (.notRunnable g.simulation.status)
  simulation := g.simulation
  world := g.world

/-- The life of a run whose clock is fresh, whatever hooks and handlers do. Between calls of the
driver the status moves from not started through the ticks one by one, and at some point to
completed or aborted. Underway and completed it tells how many ticks have succeeded, and it is
aborted exactly if a tick has failed. A run that is over stays as it is: ticks and additions are
refused in the name of the status, no hook is called, and neither the simulation nor the world
changes. Of participants that are spawned only the first is created, which is all that happens. -/
theorem status_follows_lifecycle [Time T] (x : Plan M T) (fresh : x.clock.ticks = 0)
    (history : List (DriverCall M T)) :
    let g := x.after history
    let status := g.simulation.status
    let succeeded := (x.summaries history).length
    (∀ c, status.Moves (g.next c).simulation.status) ∧
    (status = .notStarted → succeeded = 0) ∧
    (∀ t, status = .running t ∨ status = .completed t → succeeded = t.toNat) ∧
    ((∃ t, status = .aborted t) ↔ ∃ before after cause, history = before ++ .tick :: after ∧
      ((x.after before).simulation.runTick (x.after before).world).result = .error cause ∧
      ∀ status, cause ≠ .notRunnable status) ∧
    (status.isOver = true →
      (∀ later, (x.after (history ++ later)).simulation.status = status) ∧
      g.simulation.runTick g.world = g.refusal (TickSummary T) ∧
      (∀ p, g.simulation.addParticipant g.world p = g.refusal ParticipantId) ∧
      (∀ p, g.simulation.addPlugin g.world p = g.refusal PluginId) ∧
      ∀ create name rest,
        let id := g.simulation.participantIds g.simulation.participantsMade
        g.simulation.spawn g.world create (name :: rest) =
          { g.refusal (List ParticipantId) with
            simulation :=
              { g.simulation with participantsMade := g.simulation.participantsMade + 1 }
            world := (g.world.perform (create 0 id name)).2 }) := by
  intro g status succeeded
  have dates : status.Dates g.simulation.clock.ticks succeeded := by
    have start : x.start.simulation.status.Dates x.start.simulation.clock.ticks 0 := by
      show DriverStatus.Dates .notStarted x.clock.ticks 0
      rw [fresh]
      exact .notStarted
    have after := Progress.dates_foldl start history
    rwa [Nat.zero_add] at after
  refine ⟨fun c => ((g.passes c).dates dates).1, fun untouched => ?_, fun t told => ?_, ?_,
    fun isOver => ⟨fun later => ?_, ?_, fun p => ?_, fun p => ?_, fun create name rest => ?_⟩⟩
  · exact (untouched ▸ dates).of_notStarted
  · rcases told with running | completed
    · exact (running ▸ dates).of_running
    · exact (completed ▸ dates).of_completed
  · refine (x.aborted_iff history).trans ⟨?_, ?_⟩
    · rintro ⟨before, after, split, cause, failed, other⟩
      exact ⟨before, after, cause, split, failed, other⟩
    · rintro ⟨before, after, cause, split, failed, other⟩
      exact ⟨before, after, split, cause, failed, other⟩
  · rw [Plan.after_append]
    exact Progress.status_foldl_of_over isOver later
  · exact runTick_of_over isOver
  · exact addParticipant_of_over isOver p
  · exact addPlugin_of_over isOver p
  · rw [spawn, spawnFrom]
    have refused := addParticipant_of_over
      (s := { g.simulation with participantsMade := g.simulation.participantsMade + 1 })
      (w := (g.world.perform (create 0
        (g.simulation.participantIds g.simulation.participantsMade) name)).2) isOver
      (g.world.perform (create 0
        (g.simulation.participantIds g.simulation.participantsMade) name)).1
    simp only [refused]
    rfl

/-- Two ticks succeed before the run is completed, and then the third is refused. -/
theorem status_follows_lifecycle_completed :
    let g := plain.after [.add settled, .tick, .tick, .finish, .tick]
    plain.clock.ticks = 0 ∧ g.simulation.status = .completed 2 ∧
      (plain.summaries [.add settled, .tick, .tick, .finish, .tick]).length = 2 ∧
      g.simulation.runTick g.world = g.refusal (TickSummary IntegerTime) := by
  intro g
  have completed : g.simulation.status = .completed 2 := by decide
  obtain ⟨-, -, counts, -, refuses⟩ := status_follows_lifecycle plain rfl
    [.add settled, .tick, .tick, .finish, .tick]
  refine ⟨rfl, completed, counts 2 (.inr completed), (refuses ?_).2.1⟩
  show g.simulation.status.isOver = true
  rw [completed]
  rfl

/-- Whoever creates participants in this way registers somebody else first. -/
def usher : Factory Key IntegerTime := fun _ _ _ =>
  .ask (.register ⟨9⟩ "stowaway") fun _ => .done settled

/-- To spawn participants in a run that has been completed is refused, and no hook is called, but
the first participant is created before that, and by then somebody is registered who was not. -/
theorem spawn_registers_after_end :
    let g := plain.after [.add settled, .finish]
    let out := g.simulation.spawn g.world usher ["late"]
    g.simulation.status = .completed 0 ∧ out.calls = [] ∧
      out.result = .error (.notRunnable (.completed 0)) ∧
      g.environment.isRegistered ⟨9⟩ = false ∧
      out.world.environment.isRegistered ⟨9⟩ = true ∧
      g.environment.members = [⟨⟨1⟩, "settled"⟩] ∧
      out.world.environment.members = [⟨⟨1⟩, "settled"⟩, ⟨⟨9⟩, "stowaway"⟩] := by
  intro g out
  exact ⟨by decide, rfl, by decide, by decide, by decide, by decide, by decide⟩

end Cadence
