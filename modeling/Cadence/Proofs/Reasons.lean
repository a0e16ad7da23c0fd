import Cadence.Proofs.Ending
import Cadence.Proofs.Lifecycle

/-!
# What is kept of the end of a run

A run keeps the reason for which it ends before it completes the simulation. `Round.Comes` tells the
ways in which a round comes out, and `Simulation.recorded?` is the reason that the rounds of a run
lead to, if they do. A simulation that is underway is completed then, also when a plugin fails, and
one that was completed before stays so. One that was given up before cannot be completed, and a
reason is kept for it all the same if there is one before the first tick (`Simulation.Belated`);
apart from this a reason is kept only of a run that is completed
(`Simulation.reason_kept_of_completed_run`).
-/

namespace Cadence

variable {M T : Type} [Time T]

/-! ## Rounds -/

/-- How a round comes out that begins, once nobody waits any more, in the given world. -/
inductive Round.Comes (s : Simulation M T) (w : World M) : Round M T → Prop where
  | stalled (waits : w.operator.waits = true) : Comes s w ⟨.failed .stalled, s, w, []⟩
  | ended (goesOn : w.operator.waits = false) {reason : EndReason}
      (ended : Simulation.reasonToEnd? w.operator = some reason) :
      Comes s w ⟨.ended reason, s, w, []⟩
  | failed (goesOn : w.operator.waits = false) (unended : Simulation.reasonToEnd? w.operator = none)
      {e : TickError} (failed : (s.runTick w).result = .error e) :
      Comes s w
        ⟨.failed (.tick e), (s.runTick w).simulation, (s.runTick w).world, (s.runTick w).calls⟩
  | limited (unended : Simulation.reasonToEnd? w.operator = none) {summary : TickSummary T}
      (ok : (s.runTick w).result = .ok summary) {w' : World M}
      (told : (s.runTick w).world.operator.Fixed w'.operator) :
      Comes s w ⟨.limited summary, (s.runTick w).simulation, w', (s.runTick w).calls⟩
  | ticked (unended : Simulation.reasonToEnd? w.operator = none) {summary : TickSummary T}
      (ok : (s.runTick w).result = .ok summary) {w' : World M}
      (told : (s.runTick w).world.operator.Fixed w'.operator) :
      Comes s w ⟨.ticked summary, (s.runTick w).simulation, w', (s.runTick w).calls⟩

namespace Simulation

variable {s s' : Simulation M T} {w w' : World M} {supervisor : Supervisor M T} {e : TickError}

/-- A turn comes in one of the ways of a round. -/
theorem turn_comes (s : Simulation M T) (w : World M) (supervisor : Supervisor M T) :
    Round.Comes s (await w supervisor) (s.turn w supervisor) := by
  rw [turn]
  dsimp only
  split
  · next waits => exact .stalled waits
  · next awake =>
    have goesOn := Bool.eq_false_iff.2 awake
    split
    · next ended => exact .ended goesOn ended
    · next unended =>
      split
      · next failed => exact .failed goesOn unended failed
      · next summary ok =>
        have told := (World.perform_reaches (s.runTick (await w supervisor)).world
          (supervisor.onTick ((s.runTick (await w supervisor)).simulation.report
            (s.runTick (await w supervisor)).world summary))).fixed
        split
        · exact .limited unended ok told
        · exact .ticked unended ok (told.trans ⟨rfl, rfl, rfl⟩)

omit [Time T] in
/-- Waiting leaves what is fixed of an operator. -/
lemma await_fixed (w : World M) (supervisor : Supervisor M T) :
    w.operator.Fixed (await w supervisor).operator := by
  rw [await]
  split
  · exact (World.perform_reaches w supervisor.onWait).fixed
  · exact .refl _

/-- A round leaves alone what no component changes. -/
lemma turn_fixed (s : Simulation M T) (w : World M) (supervisor : Supervisor M T) :
    w.operator.Fixed (s.turn w supervisor).world.operator := by
  refine (await_fixed w supervisor).trans ?_
  have comes := s.turn_comes w supervisor
  generalize s.turn w supervisor = round at comes
  generalize await w supervisor = w₁ at comes
  cases comes with
  | stalled | ended => exact .refl _
  | failed => exact (s.runTick_keeps w₁).1
  | limited unended ok told | ticked unended ok told => exact (s.runTick_keeps w₁).1.trans told

/-! ## Ticks -/

/-- After a tick that ends well the simulation is underway. -/
lemma underway_of_ok {summary : TickSummary T} (ok : (s.runTick w).result = .ok summary) :
    (s.runTick w).simulation.status.isOver = false := by
  by_cases isOver : s.status.isOver = true
  · rw [runTick_of_over isOver] at ok
    cases ok
  · cases advanced : s.clock.increment with
    | error cause =>
      rw [runTick_of_stuck isOver advanced] at ok
      cases ok
    | ok clock =>
      have ticks := runTick_ticks (w := w) (opens?_eq_some_iff.2 ⟨isOver, advanced⟩)
      rw [ticks.status.2.1 summary ok]
      rfl

/-- No tick fails for a plugin that fails at the end of a run. -/
lemma not_completion_of_failed (failed : (s.runTick w).result = .error e)
    (failures : List ComponentFailure) : e ≠ .completion failures := by
  rintro rfl
  by_cases isOver : s.status.isOver = true
  · rw [runTick_of_over isOver] at failed
    cases failed
  · cases advanced : s.clock.increment with
    | error cause =>
      rw [runTick_of_stuck isOver advanced] at failed
      cases failed
    | ok clock =>
      have verdict := (runTick_ticks (w := w) (opens?_eq_some_iff.2 ⟨isOver, advanced⟩)).verdict
      rw [failed] at verdict
      cases verdict

/-! ## The end -/

section End

variable {reason : EndReason} {last : Option (TickSummary T)} {total : UInt64}
  {calls : List (HookCall T)}

omit [Time T] in
/-- A simulation that has been given up is not completed for any reason. -/
lemma endRun_of_aborted {t : UInt64} (aborted : s.status = .aborted t) :
    (endRun s w reason last total calls).result = .error (.tick (.notRunnable s.status)) ∧
      (endRun s w reason last total calls).simulation = s := by
  rw [endRun, finish_of_aborted aborted]
  exact ⟨rfl, rfl⟩

omit [Time T] in
/-- Any other one is completed then, although plugins may fail. -/
lemma endRun_completes (going : ∀ t, s.status ≠ .aborted t) (w : World M) (reason : EndReason)
    (last : Option (TickSummary T)) (total : UInt64) (calls : List (HookCall T)) :
    (∃ ticks, (endRun s w reason last total calls).simulation.status = .completed ticks) ∧
      ((endRun s w reason last total calls).result = .ok ⟨reason, last, total⟩ ∨
        ∃ failures, (endRun s w reason last total calls).result =
          .error (.tick (.completion failures))) := by
  rw [endRun]
  generalize { w with operator := w.operator.setEnd reason } = w₁
  by_cases isOver : s.status.isOver = true
  · cases status : s.status with
    | notStarted | running =>
      rw [status] at isOver
      cases isOver
    | aborted t => exact absurd status (going t)
    | completed t =>
      rw [finish_of_completed status]
      exact ⟨⟨t, status⟩, .inl rfl⟩
  · have result := (finish_serves (w := w₁) isOver).2.2
    refine ⟨⟨s.clock.ticks, by rw [(finish_of_not_over isOver).1]⟩, ?_⟩
    dsimp only at result ⊢
    split at result
    · rw [result]
      exact .inl rfl
    · rw [result]
      exact .inr ⟨_, rfl⟩

end End

/-! ## The reason that a run keeps -/

/-- The reason that at most the given number of rounds keep, if they come to one. -/
def recordedIn (supervisor : Supervisor M T) : Nat → Simulation M T → World M → Option EndReason
  | 0, _, _ => none
  | n + 1, s, w =>
    let round := s.turn w supervisor
    match round.turn with
    | .ended reason => some reason
    | .limited _ => some .maxTicksReached
    | .failed _ => none
    | .ticked _ => recordedIn supervisor n round.simulation round.world

/-- The reason that a run keeps, if it comes to one. -/
def recorded? (s : Simulation M T) (w : World M) (supervisor : Supervisor M T) :
    Option EndReason :=
  recordedIn supervisor s.roundsLeft s w

/-- The simulation was given up before the run, and the run has a reason to end at once. -/
structure Belated (s : Simulation M T) (w : World M) (supervisor : Supervisor M T)
    (reason : EndReason) : Prop where
  aborted : ∃ t, s.status = .aborted t
  goesOn : (await w supervisor).operator.waits = false
  ended : reasonToEnd? (await w supervisor).operator = some reason

section Rounds

variable {n : Nat} {last : Option (TickSummary T)} {total : UInt64} {calls : List (HookCall T)}

/-- What rounds leave with the operator is the reason that they keep, or else the one from before.
-/
theorem rounds_endReason :
    (rounds supervisor n s w last total calls).world.operator.endReason =
      (recordedIn supervisor n s w).or w.operator.endReason := by
  induction n generalizing s w last total calls with
  | zero => rfl
  | succ n ih =>
    have kept := (s.turn_fixed w supervisor).endReason
    rw [rounds, recordedIn]
    cases turned : (s.turn w supervisor).turn with
    | ended reason => exact endRun_endReason
    | limited summary => exact endRun_endReason
    | failed e => exact kept
    | ticked summary =>
      dsimp only
      rw [ih, kept]

/-- Rounds keep no reason and fail in a tick or wait for good; or they keep one and end the run of a
simulation that is underway, unless there is a reason before the first tick. -/
theorem rounds_cases (supervisor : Supervisor M T) (n : Nat) (s : Simulation M T) (w : World M)
    (last : Option (TickSummary T)) (total : UInt64) (calls : List (HookCall T)) :
    (recordedIn supervisor n s w = none ∧
      ∃ e, (rounds supervisor n s w last total calls).result = .error e ∧
        ∀ failures, e ≠ .tick (.completion failures)) ∨
    ∃ reason s' w' last' total' calls', recordedIn supervisor n s w = some reason ∧
      rounds supervisor n s w last total calls = endRun s' w' reason last' total' calls' ∧
      (s'.status.isOver = false ∨ s' = s ∧ (await w supervisor).operator.waits = false ∧
        reasonToEnd? (await w supervisor).operator = some reason) := by
  induction n generalizing s w last total calls with
  | zero => exact .inl ⟨rfl, _, rfl, nofun⟩
  | succ n ih =>
    have comes := s.turn_comes w supervisor
    rw [recordedIn, rounds]
    generalize s.turn w supervisor = round at comes
    cases comes with
    | stalled waits => exact .inl ⟨rfl, _, rfl, nofun⟩
    | ended goesOn ended =>
      exact .inr ⟨_, _, _, _, _, _, rfl, rfl, .inr ⟨rfl, goesOn, ended⟩⟩
    | failed goesOn unended failed =>
      refine .inl ⟨rfl, _, rfl, fun failures same => ?_⟩
      exact not_completion_of_failed failed failures (RunError.tick.inj same)
    | limited unended ok told =>
      exact .inr ⟨_, _, _, _, _, _, rfl, rfl, .inl (underway_of_ok ok)⟩
    | ticked unended ok told =>
      -- what comes after a tick that has ended well does not begin with a run that is over
      have underway := underway_of_ok ok
      dsimp only
      obtain none | ⟨reason, s', w', last', total', calls', kept, run, began⟩ := ih _ _ _ _ _
      · exact .inl none
      · refine .inr ⟨reason, s', w', last', total', calls', kept, run, .inl ?_⟩
        obtain going | ⟨rfl, -⟩ := began
        · exact going
        · exact underway

end Rounds

/-! ## Runs -/

omit [Time T] in
/-- There is a round at least in every run. -/
lemma exists_roundsLeft (s : Simulation M T) : ∃ n, s.roundsLeft = n + 1 := by
  have word := s.clock.ticks.toNat_lt
  exact ⟨18446744073709551615 - s.clock.ticks.toNat, by rw [roundsLeft]; omega⟩

/-- A belated run records its reason, is refused and changes nothing. -/
lemma Belated.run {reason : EndReason} (h : s.Belated w supervisor reason) :
    s.recorded? w supervisor = some reason ∧
      (s.run w supervisor).result = .error (.tick (.notRunnable s.status)) ∧
      (s.run w supervisor).simulation = s := by
  obtain ⟨n, left⟩ := s.exists_roundsLeft
  obtain ⟨t, aborted⟩ := h.aborted
  have turned : s.turn w supervisor = ⟨.ended reason, s, await w supervisor, []⟩ := by
    rw [turn]
    dsimp only
    rw [h.goesOn, if_neg Bool.false_ne_true, h.ended]
  rw [recorded?, Simulation.run, left, recordedIn, rounds, turned]
  exact ⟨rfl, endRun_of_aborted aborted⟩

/-- What a run leaves with the operator is the reason that it keeps, or the one from before. Unless
the simulation was given up before and the run has a reason to end at once, a reason is kept only if
the simulation is completed after the run, and none if the run fails for anything but the completion
of plugins. Otherwise that reason is kept, the run fails, and the simulation stays given up. A run
that does not fail keeps the reason that it tells. -/
theorem reason_kept_of_completed_run (s : Simulation M T) (w : World M)
    (supervisor : Supervisor M T) :
    let run := s.run w supervisor
    let recorded := s.recorded? w supervisor
    run.world.operator.endReason = recorded.or w.operator.endReason ∧
    ((∀ reason, ¬s.Belated w supervisor reason) →
      (∀ reason, recorded = some reason → ∃ ticks, run.simulation.status = .completed ticks) ∧
      (∀ e, run.result = .error e → (∀ failures, e ≠ .tick (.completion failures)) →
        recorded = none)) ∧
    (∀ reason, s.Belated w supervisor reason → recorded = some reason ∧
      run.result = .error (.tick (.notRunnable s.status)) ∧ run.simulation = s) ∧
    (∀ r, run.result = .ok r → recorded = some r.endReason) := by
  intro run recorded
  refine ⟨rounds_endReason, ?_, fun _ belated => belated.run, ?_⟩
  · intro timely
    obtain ⟨none, e, failed, -⟩ | ⟨reason, s', w', last, total, calls, kept, ends, began⟩ :=
      rounds_cases supervisor s.roundsLeft s w none 0 []
    · refine ⟨fun reason kept => ?_, fun _ _ _ => none⟩
      cases none.symm.trans kept
    · have going : ∀ t, s'.status ≠ .aborted t := by
        intro t aborted
        obtain going | ⟨rfl, goesOn, ended⟩ := began
        · rw [aborted] at going
          cases going
        · exact timely reason ⟨⟨t, aborted⟩, goesOn, ended⟩
      obtain ⟨completed, result⟩ := endRun_completes going w' reason last total calls
      rw [← ends] at completed result
      refine ⟨fun _ _ => completed, fun e failed other => ?_⟩
      obtain ok | ⟨failures, failed'⟩ := result
      · cases failed.symm.trans ok
      · exact absurd (Except.error.inj (failed.symm.trans failed')) (other failures)
  · intro r ok
    obtain ⟨-, e, failed, -⟩ | ⟨reason, s', w', last, total, calls, kept, ends, -⟩ :=
      rounds_cases supervisor s.roundsLeft s w none 0 []
    · cases failed.symm.trans ok
    · have told : (rounds supervisor s.roundsLeft s w none 0 []).result = .ok r := ok
      rw [ends] at told
      rw [endRun_result told]
      exact kept

section Given

/-- A supervisor that does nothing. -/
def onlooker : Supervisor Key IntegerTime := {}

/-- A simulation that a failed step has given up, and an operator of whom a stop is requested: the
run that follows fails, the simulation stays given up, and a reason is kept although there was none
before. -/
theorem reason_kept_of_aborted_run :
    let g := { plain with driver := { componentFailure := .abort } }.after [.add clumsy, .tick]
    let w : World Key := { g.world with operator := { stopRequested := true } }
    let run := g.simulation.run w onlooker
    w.operator.endReason = none ∧ run.world.operator.endReason = some .operatorStop ∧
      (∀ ticks, run.simulation.status ≠ .completed ticks) ∧
      run.result = .error (.tick (.notRunnable (.aborted 1))) := by
  intro g w run
  have aborted : g.simulation.status = .aborted 1 := by decide
  have belated : g.simulation.Belated w onlooker .operatorStop := ⟨⟨1, aborted⟩, rfl, rfl⟩
  obtain ⟨kept, failed, same⟩ := belated.run
  have left : run.world.operator.endReason = _ := rounds_endReason
  have kept : recordedIn onlooker g.simulation.roundsLeft g.simulation w = _ := kept
  rw [kept] at left
  rw [aborted] at failed
  refine ⟨rfl, left, fun ticks completed => ?_, failed⟩
  rw [show run.simulation = g.simulation from same, aborted] at completed
  cases completed

end Given

end Simulation

end Cadence
