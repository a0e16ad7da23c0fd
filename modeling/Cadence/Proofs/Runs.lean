import Cadence.Proofs.History
import Cadence.Simulation.Run

/-!
# Rounds of a run

A run shows the last of its summaries and counts them (`Simulation.run_shows_summaries`). Under
controls that bound nothing but the ticks (`Operator.Bounded`) a round in which the tick ends well
ends the run if and only if the limit is reached.
-/

namespace Cadence

namespace Operator

variable {o : Operator} {limit : UInt64}

/-- Controls under which only the limit of ticks ends a run. -/
structure Bounded (limit : UInt64) (o : Operator) : Prop where
  unpaused : o.paused = false
  unstopped : o.stopRequested = false
  maxTicks : o.maxTicks = limit
  untimed : o.maxRealTimeSeconds = 0

/-- A new operator without a limit in real time is bounded by ticks alone. -/
lemma bounded_new (interval : UInt64) {bounds : BoundsConfig}
    (untimed : bounds.maxRealTimeSeconds = 0) : (new interval bounds).Bounded bounds.maxTicks :=
  ⟨rfl, rfl, rfl, untimed⟩

namespace Bounded

variable (h : o.Bounded limit)
include h

/-- It stays so as time passes. -/
lemma pass (ms : Nat) : (o.pass ms).Bounded limit :=
  ⟨h.unpaused, h.unstopped, h.maxTicks, h.untimed⟩

/-- A bounded operator does not wait. -/
lemma waits : o.waits = false := by
  rw [Operator.waits, h.unpaused]
  rfl

/-- A bounded operator has no reason to end. -/
lemma reasonToEnd? : Simulation.reasonToEnd? o = none := by
  have untimed : o.timeLimitReached = false := by
    rw [timeLimitReached, h.untimed]
    rfl
  rw [Simulation.reasonToEnd?, h.unstopped, untimed]
  rfl

/-- The limit is reached by the ticks that have come to it. -/
lemma tickLimitReached_iff (limited : limit ≠ 0) (tick : UInt64) :
    o.tickLimitReached tick = true ↔ limit.toNat ≤ tick.toNat := by
  rw [tickLimitReached, h.maxTicks, Bool.and_eq_true, decide_eq_true_iff, decide_eq_true_iff,
    UInt64.le_iff_toNat_le]
  exact and_iff_right (UInt64.pos_iff_ne_zero.2 limited)

end Bounded

end Operator

namespace Simulation

variable {M T : Type} {s : Simulation M T} {w w' : World M}

/-! ## The end -/

/-- Plugins complete one after another. -/
lemma completeAll_cons {slot : PluginSlot M T} (unfailed : slot.failed = false)
    (performed : w.perform slot.plugin.complete = (.fine, w')) (rest : List (PluginSlot M T)) :
    completeAll (slot :: rest) w =
      ((completeAll rest w').1, (completeAll rest w').2.1,
        ⟨slot.component, none, .complete, none, .fine⟩ :: (completeAll rest w').2.2) := by
  rw [completeAll, unfailed, if_neg Bool.false_ne_true, performed]
  rfl

/-- A run that ends well is completed, for the given reason. -/
lemma endRun_of_completed {reason : EndReason} {last : Option (TickSummary T)} {total : UInt64}
    {calls calls' : List (HookCall T)} (runnable : ¬s.status.isOver = true)
    (completed : completeAll s.plugins
      { w with operator := w.operator.setEnd reason }.closeTick.2 = ([], w', calls')) :
    (endRun s w reason last total calls).result = .ok ⟨reason, last, total⟩ ∧
      (endRun s w reason last total calls).world = w' := by
  rw [endRun, finish]
  cases hs : s.status with
  | notStarted | running =>
    dsimp only
    rw [completed]
    exact ⟨rfl, rfl⟩
  | completed | aborted => rw [hs] at runnable; exact absurd rfl runnable

/-- The result of the end is made of what the end is told. -/
lemma endRun_result {reason : EndReason} {last : Option (TickSummary T)} {total : UInt64}
    {calls : List (HookCall T)} {r : RunResult T}
    (ok : (endRun s w reason last total calls).result = .ok r) : r = ⟨reason, last, total⟩ := by
  rw [endRun] at ok
  dsimp only at ok
  split at ok
  · exact (Except.ok.inj ok).symm
  · cases ok

variable [Time T] {supervisor : Supervisor M T}

/-! ## A round -/

omit [Time T] in
/-- Nobody waits for an operator that goes on. -/
lemma await_of_goesOn (goesOn : w.operator.waits = false) : await w supervisor = w := by
  rw [await, goesOn, if_neg Bool.false_ne_true]

/-- A turn in which the supervisor leaves the operator waiting has stalled. -/
lemma turn_of_waits (waits : w.operator.waits = true) (idle : supervisor.onWait = .done ()) :
    s.turn w supervisor = ⟨.failed .stalled, s, w, []⟩ := by
  have still : await w supervisor = w := by
    rw [await, waits, if_pos rfl, idle]
    rfl
  rw [turn, still, waits, if_pos rfl]

/-- A turn that finds a reason to end ends. -/
lemma turn_of_reason {reason : EndReason} (goesOn : w.operator.waits = false)
    (ended : reasonToEnd? w.operator = some reason) :
    s.turn w supervisor = ⟨.ended reason, s, w, []⟩ := by
  rw [turn, await_of_goesOn goesOn, goesOn, if_neg Bool.false_ne_true, ended]

/-- A turn whose tick fails has failed. -/
lemma turn_of_failed {e : TickError} (goesOn : w.operator.waits = false)
    (unended : reasonToEnd? w.operator = none) (failed : (s.runTick w).result = .error e) :
    s.turn w supervisor =
      ⟨.failed (.tick e), (s.runTick w).simulation, (s.runTick w).world, (s.runTick w).calls⟩ := by
  rw [turn, await_of_goesOn goesOn, goesOn, if_neg Bool.false_ne_true, unended]
  dsimp only
  rw [failed]

/-- The round of a tick that ends well, where nobody waits and nothing ends the run before it. -/
lemma turn_of_ok {summary : TickSummary T} (goesOn : w.operator.waits = false)
    (unended : reasonToEnd? w.operator = none) (ok : (s.runTick w).result = .ok summary)
    (told : (s.runTick w).world.perform (supervisor.onTick
      ((s.runTick w).simulation.report (s.runTick w).world summary)) = ((), w')) :
    s.turn w supervisor =
      if w'.operator.tickLimitReached summary.tick then
        ⟨.limited summary, (s.runTick w).simulation, w', (s.runTick w).calls⟩
      else
        ⟨.ticked summary, (s.runTick w).simulation,
          { w' with operator := w'.operator.pass w'.operator.tickIntervalMs.toNat },
          (s.runTick w).calls⟩ := by
  rw [turn, await_of_goesOn goesOn, goesOn, if_neg Bool.false_ne_true, unended]
  dsimp only
  rw [ok]
  dsimp only
  rw [told]

/-! ## The summaries of a run -/

/-- The summaries of the ticks in at most the given number of rounds. -/
def summaries (supervisor : Supervisor M T) :
    Nat → Simulation M T → World M → List (TickSummary T)
  | 0, _, _ => []
  | n + 1, s, w =>
    let round := s.turn w supervisor
    match round.turn with
    | .ended _ | .failed _ => []
    | .limited summary => [summary]
    | .ticked summary => summary :: summaries supervisor n round.simulation round.world

/-- Rounds that end show the last of their summaries, and count them. -/
theorem rounds_show_summaries {n : Nat} {last : Option (TickSummary T)} {total : UInt64}
    {calls : List (HookCall T)} {r : RunResult T}
    (ok : (rounds supervisor n s w last total calls).result = .ok r) :
    r.finalSummary = (summaries supervisor n s w).getLast?.or last ∧
      r.totalTicks.toNat = min (total.toNat + (summaries supervisor n s w).length) maxUInt64 := by
  have bounded : total.toNat ≤ maxUInt64 := Nat.le_of_lt_succ total.toNat_lt
  induction n generalizing s w last total calls with
  | zero => cases ok
  | succ n ih =>
    rw [rounds] at ok
    rw [summaries]
    cases turned : (s.turn w supervisor).turn with
    | ended reason =>
      rw [turned] at ok
      rw [endRun_result ok]
      exact ⟨rfl, (Nat.min_eq_left bounded).symm⟩
    | limited summary =>
      rw [turned] at ok
      rw [endRun_result ok]
      exact ⟨rfl, Word.toNat_bump total⟩
    | failed e =>
      rw [turned] at ok
      cases ok
    | ticked summary =>
      rw [turned] at ok
      obtain ⟨final, count⟩ := ih ok (Nat.le_of_lt_succ (Word.bump total).toNat_lt)
      refine ⟨?_, ?_⟩
      -- this summary is the last one only if no other round gives one
      · rw [final, List.getLast?_cons]
        cases (summaries supervisor n (s.turn w supervisor).simulation
          (s.turn w supervisor).world).getLast? <;> rfl
      · rw [count, Word.toNat_bump, List.length_cons, maxUInt64]
        omega

/-- A run that ends shows the last of its summaries, and counts them. -/
theorem run_shows_summaries {r : RunResult T} (ok : (s.run w supervisor).result = .ok r) :
    r.finalSummary = (summaries supervisor s.roundsLeft s w).getLast? ∧
      r.totalTicks.toNat = min (summaries supervisor s.roundsLeft s w).length maxUInt64 := by
  obtain ⟨final, count⟩ := rounds_show_summaries ok
  rw [Option.or_none] at final
  rw [UInt64.toNat_zero, Nat.zero_add] at count
  exact ⟨final, count⟩

end Simulation

end Cadence
