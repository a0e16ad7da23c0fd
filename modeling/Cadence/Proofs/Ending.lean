import Cadence.Proofs.Completion
import Cadence.Proofs.Pace
import Cadence.Proofs.Rounds
import Cadence.Proofs.Runs

/-!
# Where a run ends

A run is told here without its rounds. `Standing` is what there is between two ticks, and
`Standing.Leads` relates two of them if ticks lead from one to the other that all end well, none of
them after a stop was requested or the limit of ticks was reached. A run that is not bound in real
time and never waits goes on to the first standing at which one of these holds, or at which the next
tick fails (`Simulation.run_ends_at_first_reason`). It needs no bound on its length: the clock is a
word, so there is such a standing.
-/

namespace Cadence

/-! ## Controls -/

namespace Operator

/-- Controls that agree in what no component changes: the limits, and why the run has ended. -/
structure Fixed (o o' : Operator) : Prop where
  maxTicks : o'.maxTicks = o.maxTicks
  maxRealTimeSeconds : o'.maxRealTimeSeconds = o.maxRealTimeSeconds
  endReason : o'.endReason = o.endReason

/-- Controls agree with themselves. -/
lemma Fixed.refl (o : Operator) : o.Fixed o := ⟨rfl, rfl, rfl⟩

/-- To agree in what no component changes is transitive. -/
lemma Fixed.trans {o₁ o₂ o₃ : Operator} (h : o₁.Fixed o₂) (h' : o₂.Fixed o₃) : o₁.Fixed o₃ :=
  ⟨h'.maxTicks.trans h.maxTicks, h'.maxRealTimeSeconds.trans h.maxRealTimeSeconds,
    h'.endReason.trans h.endReason⟩

/-- No command changes the limits or the reason. -/
lemma fixed_obey (o : Operator) (c : OperatorCommand) : o.Fixed (o.obey c) := by
  cases c with
  | pause | resume | stop => exact ⟨rfl, rfl, rfl⟩
  | setInterval ms =>
    rw [obey, setInterval]
    split
    · exact .refl o
    · exact ⟨rfl, rfl, rfl⟩

/-- Nothing ends a run before its next tick unless a stop is requested, if real time is not bound.
-/
lemma reasonToEnd?_eq {o : Operator} (untimed : o.maxRealTimeSeconds = 0) :
    Simulation.reasonToEnd? o = if o.stopRequested then some .operatorStop else none := by
  have never : o.timeLimitReached = false := by
    rw [timeLimitReached, untimed]
    rfl
  rw [Simulation.reasonToEnd?, never, if_neg Bool.false_ne_true]

/-- The limit of ticks counts only if there is one. -/
lemma tickLimitReached_iff {o : Operator} {tick : UInt64} :
    o.tickLimitReached tick = true ↔ 0 < o.maxTicks.toNat ∧ o.maxTicks.toNat ≤ tick.toNat := by
  rw [tickLimitReached, Bool.and_eq_true, decide_eq_true_iff, decide_eq_true_iff,
    UInt64.le_iff_toNat_le, UInt64.lt_iff_toNat_lt]
  rfl

end Operator

variable {M T : Type}

/-- Whatever components do, the limits and the reason stay. -/
lemma World.Reaches.fixed {w w' : World M} (h : Reaches w w') : w.operator.Fixed w'.operator :=
  h.lift (R := fun w w' => w.operator.Fixed w'.operator) (fun w => .refl w.operator) .trans
    fun a w => by
      cases a with
      | control c => exact w.operator.fixed_obey c
      | _ => exact .refl _

namespace Simulation

/-- So they do when the run is completed. -/
lemma finish_fixed (s : Simulation M T) (w : World M) :
    w.operator.Fixed (s.finish w).world.operator := by
  by_cases isOver : s.status.isOver = true
  · rw [(finish_of_over isOver).2]
    exact .refl _
  · rw [(finish_of_not_over isOver).2]
    exact (completeAll_respects w.closeTick.2 World.respected_reaches s.plugins).fixed

/-- The reason for which a run ends is kept in the controls. -/
lemma endRun_endReason {s : Simulation M T} {w : World M} {reason : EndReason}
    {last : Option (TickSummary T)} {total : UInt64} {calls : List (HookCall T)} :
    (endRun s w reason last total calls).world.operator.endReason = some reason :=
  (finish_fixed s { w with operator := w.operator.setEnd reason }).endReason

variable [Time T]

/-- A tick leaves alone what no component changes, and completes no plugin. One that ends well tells
of the next tick of the clock. -/
lemma runTick_keeps (s : Simulation M T) (w : World M) :
    w.operator.Fixed (s.runTick w).world.operator ∧
      (∀ c ∈ (s.runTick w).calls, c.completes = false) ∧
      ∀ summary, (s.runTick w).result = .ok summary →
        summary.tick = (s.runTick w).simulation.clock.ticks ∧
          summary.tick.toNat = s.clock.ticks.toNat + 1 := by
  have none : ∀ c ∈ ([] : List (HookCall T)), c.completes = false :=
    fun c mem => absurd mem List.not_mem_nil
  by_cases isOver : s.status.isOver = true
  · rw [runTick_of_over isOver]
    exact ⟨.refl _, none, nofun⟩
  · cases advanced : s.clock.increment with
    | error cause =>
      rw [runTick_of_stuck isOver advanced]
      exact ⟨.refl _, none, nofun⟩
    | ok clock =>
      have ticks : s.Ticks w clock (s.runTick w) :=
        runTick_ticks (opens?_eq_some_iff.2 ⟨isOver, advanced⟩)
      refine ⟨?_, ?_, fun summary ok => ?_⟩
      · obtain ⟨w', along, closed⟩ := ticks.along
        rw [closed]
        exact along.reaches.fixed
      · intro c mem
        rw [ticks.calls_split] at mem
        rcases List.mem_append.1 mem with step | execute
        · rw [HookCall.completes, beq_iff_eq.1 (List.mem_filter.1 step).2]
          rfl
        · rw [HookCall.completes, beq_iff_eq.1 (List.mem_filter.1 execute).2]
          rfl
      · have tick := (ticks.summary ok).1
        rw [ticks.clock_eq, tick]
        exact ⟨rfl, (Clock.increment_eq advanced).2⟩

end Simulation

/-! ## Between two ticks -/

/-- Where a run stands between two ticks: the simulation, the world as the supervisor has left it,
the summaries so far, and the hooks that were called. -/
structure Standing (M T : Type) where
  simulation : Simulation M T
  world : World M
  summaries : List (TickSummary T) := []
  calls : List (HookCall T) := []

namespace Standing

/-- The world when the next tick begins; after every tick the interval passes. -/
def rested (p : Standing M T) : World M :=
  if p.summaries = [] then p.world
  else
    { p.world with operator := p.world.operator.pass p.world.operator.tickIntervalMs.toNat }

/-- Whether the last tick was at or beyond the limit, if there is one. -/
def AtLimit (limit : Nat) (p : Standing M T) : Prop :=
  0 < limit ∧ ∃ last, p.summaries.getLast? = some last ∧ limit ≤ last.tick.toNat

/-- What makes a run end before its next tick. -/
def Ended (limit : Nat) (p : Standing M T) : Prop :=
  p.AtLimit limit ∨ p.world.operator.stopRequested = true

variable {limit : Nat} {s : Simulation M T} {w : World M} {q : Standing M T}

/-- A rest changes nothing about a stop that was asked for. -/
lemma rested_stopRequested (p : Standing M T) :
    p.rested.operator.stopRequested = p.world.operator.stopRequested := by
  rw [rested]
  split <;> rfl

/-- It changes nothing about whether the run waits. -/
lemma rested_waits (p : Standing M T) : p.rested.operator.waits = p.world.operator.waits := by
  rw [rested]
  split <;> rfl

/-- A run that does not wait goes on at once. -/
lemma await_rested {supervisor : Supervisor M T} (awake : q.world.operator.waits = false) :
    Simulation.await q.rested supervisor = q.rested := by
  rw [Simulation.await, rested_waits, awake, if_neg Bool.false_ne_true]

/-- A rest changes neither the limits nor the reason. -/
lemma rested_fixed (p : Standing M T) : p.world.operator.Fixed p.rested.operator := by
  rw [rested]
  split
  · exact .refl _
  · exact ⟨rfl, rfl, rfl⟩

/-- Without a limit of time, and without a stop being asked for, a rested run has no reason to
end. -/
lemma reasonToEnd?_rested (untimed : q.world.operator.maxRealTimeSeconds = 0)
    (unrequested : q.world.operator.stopRequested = false) :
    Simulation.reasonToEnd? q.rested.operator = none := by
  rw [Operator.reasonToEnd?_eq (q.rested_fixed.maxRealTimeSeconds.trans untimed),
    rested_stopRequested, unrequested, if_neg Bool.false_ne_true]

/-- What holds of every standing of a run that has begun with some simulation in some world. -/
structure Reached (s : Simulation M T) (w : World M) (limit : Nat) (q : Standing M T) : Prop where
  clock : q.simulation.clock.ticks.toNat = s.clock.ticks.toNat + q.summaries.length
  ticks : q.summaries.map (fun summary => summary.tick.toNat) =
    List.range' (s.clock.ticks.toNat + 1) q.summaries.length
  fixed : w.operator.Fixed q.world.operator
  calls : ∀ c ∈ q.calls, c.completes = false
  /-- No tick but the first is beyond the limit. -/
  early : 0 < limit → q.summaries.length ≤ 1 ∨
    s.clock.ticks.toNat + q.summaries.length ≤ limit

/-- The last of the ticks so far is that of the clock. -/
lemma Reached.getLast? (h : Reached s w limit q) {last : TickSummary T}
    (isLast : q.summaries.getLast? = some last) :
    0 < q.summaries.length ∧
      last.tick.toNat = s.clock.ticks.toNat + q.summaries.length := by
  obtain ⟨before, eq⟩ := List.getLast?_eq_some_iff.1 isLast
  have ticks := congrArg List.getLast? h.ticks
  rw [List.getLast?_map, isLast, eq, List.length_append, List.length_singleton,
    List.range'_concat, List.getLast?_concat] at ticks
  have tick : last.tick.toNat = s.clock.ticks.toNat + 1 + 1 * before.length := Option.some.inj ticks
  rw [eq, List.length_append, List.length_singleton]
  omega

variable [Time T]

/-- The next tick. -/
def next (p : Standing M T) : Outcome M T (TickSummary T) := p.simulation.runTick p.rested

/-- The standing after the next tick, which has ended well: the supervisor was told of it once. -/
def advanced (supervisor : Supervisor M T) (p : Standing M T) (summary : TickSummary T) :
    Standing M T where
  simulation := p.next.simulation
  world := (p.next.world.perform
    (supervisor.onTick (p.next.simulation.report p.next.world summary))).2
  summaries := p.summaries ++ [summary]
  calls := p.calls ++ p.next.calls

/-- Ticks that end well lead from one standing to another, none of them where the run ends. -/
inductive Leads (supervisor : Supervisor M T) (limit : Nat) (p : Standing M T) :
    Standing M T → Prop where
  | refl : Leads supervisor limit p p
  | tick {q : Standing M T} {summary : TickSummary T} (before : Leads supervisor limit p q)
      (goesOn : ¬q.Ended limit) (ok : q.next.result = .ok summary) :
      Leads supervisor limit p (q.advanced supervisor summary)

variable {supervisor : Supervisor M T}

/-- After a tick the run rests for the interval. -/
lemma rested_advanced (p : Standing M T) (summary : TickSummary T) :
    (p.advanced supervisor summary).rested =
      { (p.advanced supervisor summary).world with
        operator := (p.advanced supervisor summary).world.operator.pass
          (p.advanced supervisor summary).world.operator.tickIntervalMs.toNat } :=
  if_neg (List.append_ne_nil_of_right_ne_nil _ (List.cons_ne_nil _ _))

/-- After a tick the run is at its limit if that tick is. -/
lemma atLimit_advanced_iff {p : Standing M T} {summary : TickSummary T} :
    (p.advanced supervisor summary).AtLimit limit ↔ 0 < limit ∧ limit ≤ summary.tick.toNat := by
  have last : (p.advanced supervisor summary).summaries.getLast? = some summary :=
    List.getLast?_concat
  rw [AtLimit, last]
  refine and_congr_right fun _ => ⟨?_, fun reached => ⟨summary, rfl, reached⟩⟩
  rintro ⟨last, same, reached⟩
  obtain rfl := Option.some.inj same
  exact reached

/-- Wherever ticks lead that end well, the run has reached. -/
lemma Leads.reached (h : Leads supervisor limit ⟨s, w, [], []⟩ q) : Reached s w limit q := by
  -- on the ticks that lead there
  induction h with
  | refl =>
    exact ⟨rfl, rfl, .refl _, fun c mem => absurd mem List.not_mem_nil,
      fun _ => .inl (Nat.zero_le 1)⟩
  | @tick q summary before goesOn ok ih =>
    obtain ⟨fixed, calls, tells⟩ := q.simulation.runTick_keeps q.rested
    obtain ⟨clock, tick⟩ := tells summary ok
    rw [ih.clock] at tick
    have length : (q.advanced supervisor summary).summaries.length = q.summaries.length + 1 :=
      List.length_append
    refine ⟨?_, ?_, ?_, ?_, fun limited => ?_⟩
    · show q.next.simulation.clock.ticks.toNat = _
      rw [length, ← Nat.add_assoc, ← tick, clock]
      rfl
    · show (q.summaries ++ [summary]).map _ = List.range' _ (q.summaries ++ [summary]).length
      rw [List.map_append, ih.ticks, List.length_append, List.length_singleton, List.range'_concat,
        List.map_singleton, tick, Nat.one_mul, Nat.add_right_comm]
    · exact ((ih.fixed.trans q.rested_fixed).trans fixed).trans (World.perform_reaches _ _).fixed
    · intro c mem
      rcases List.mem_append.1 mem with earlier | new
      · exact ih.calls c earlier
      · exact calls c new
    · -- a run goes on after a tick only if that is not at the limit
      rw [length]
      by_cases first : q.summaries = []
      · rw [first]
        exact .inl (Nat.le_refl 1)
      · obtain ⟨last, isLast⟩ := Option.ne_none_iff_exists'.1
          (mt List.getLast?_eq_none_iff.1 first)
        have below : ¬limit ≤ last.tick.toNat := fun reached =>
          goesOn (.inl ⟨limited, last, isLast, reached⟩)
        rw [(ih.getLast? isLast).2] at below
        exact .inr (by omega)

/-- Once a stop is asked for, no tick leads on. -/
lemma Leads.eq_of_stopRequested {p : Standing M T} (h : Leads supervisor limit p q)
    (requested : p.world.operator.stopRequested = true) : q = p := by
  induction h with
  | refl => rfl
  | tick before goesOn ok ih =>
    subst ih
    exact absurd (.inr requested) goesOn

/-- How a run ends that has come to a standing. -/
inductive Ends (limit : Nat) (q : Standing M T) : Run M T → Prop where
  | limited {last : TickSummary T} {total : UInt64} (limited : 0 < limit)
      (isLast : q.summaries.getLast? = some last) (reached : limit ≤ last.tick.toNat)
      (count : total.toNat = q.summaries.length) :
      Ends limit q
        (Simulation.endRun q.simulation q.world .maxTicksReached (some last) total q.calls)
  | stopped {total : UInt64} (below : ¬q.AtLimit limit)
      (requested : q.world.operator.stopRequested = true)
      (count : total.toNat = q.summaries.length) :
      Ends limit q (Simulation.endRun q.simulation q.rested .operatorStop q.summaries.getLast? total
        q.calls)
  | failed {e : TickError} (goesOn : ¬q.Ended limit) (failed : q.next.result = .error e) :
      Ends limit q
        ⟨.error (.tick e), q.next.simulation, q.next.world, q.calls ++ q.next.calls⟩

end Standing

/-! ## Rounds -/

namespace Simulation

open Standing

variable [Time T] {supervisor : Supervisor M T} {s : Simulation M T} {w : World M}
  {q : Standing M T} {n : Nat} {total : UInt64}

section Round

variable (awake : q.world.operator.waits = false)
include awake

/-- A round ends the run if a stop is asked for. -/
lemma turn_of_stopRequested (requested : q.world.operator.stopRequested = true) :
    q.simulation.turn q.rested supervisor =
      { turn := .ended .operatorStop, simulation := q.simulation, world := q.rested } := by
  rw [turn, await_rested awake, rested_waits, awake, if_neg Bool.false_ne_true, reasonToEnd?,
    rested_stopRequested, requested, if_pos rfl]

variable (untimed : q.world.operator.maxRealTimeSeconds = 0)
  (unrequested : q.world.operator.stopRequested = false)
include untimed unrequested

/-- A round in which the tick fails ends with that failure. -/
lemma turn_of_error {e : TickError} (failed : q.next.result = .error e) :
    q.simulation.turn q.rested supervisor =
      { turn := .failed (.tick e), simulation := q.next.simulation, world := q.next.world,
        calls := q.next.calls } := by
  rw [Standing.next] at failed
  rw [turn, await_rested awake, rested_waits, awake, if_neg Bool.false_ne_true,
    reasonToEnd?_rested untimed unrequested]
  dsimp only
  rw [failed]
  rfl

/-- A round in which the tick ends well leads to the next standing, which is the last if the tick
has reached the limit. -/
lemma turn_of_advanced {summary : TickSummary T} (ok : q.next.result = .ok summary) :
    q.simulation.turn q.rested supervisor =
      if (q.advanced supervisor summary).world.operator.tickLimitReached summary.tick then
        ⟨.limited summary, q.next.simulation, (q.advanced supervisor summary).world, q.next.calls⟩
      else
        ⟨.ticked summary, q.next.simulation, (q.advanced supervisor summary).rested,
          q.next.calls⟩ := by
  rw [rested_advanced]
  exact turn_of_ok ((rested_waits q).trans awake) (reasonToEnd?_rested untimed unrequested) ok
    rfl

end Round

/-- Rounds that are as many as the clock has ticks left end where the run ends. -/
theorem rounds_end (untimed : w.operator.maxRealTimeSeconds = 0)
    (awake : ∀ q, Leads supervisor w.operator.maxTicks.toNat ⟨s, w, [], []⟩ q →
      q.world.operator.waits = false)
    (leads : Leads supervisor w.operator.maxTicks.toNat ⟨s, w, [], []⟩ q)
    (below : ¬q.AtLimit w.operator.maxTicks.toNat)
    (left : 18446744073709551616 ≤ n + q.simulation.clock.ticks.toNat)
    (count : total.toNat = q.summaries.length) :
    ∃ q', Leads supervisor w.operator.maxTicks.toNat ⟨s, w, [], []⟩ q' ∧
      Ends w.operator.maxTicks.toNat q'
        (rounds supervisor n q.simulation q.rested q.summaries.getLast? total q.calls) := by
  -- on the rounds that are left, of which a tick takes one as it takes a word of the clock
  induction n generalizing q total with
  | zero =>
    rw [Nat.zero_add] at left
    exact absurd q.simulation.clock.ticks.toNat_lt (Nat.not_lt.2 left)
  | succ n ih =>
    have reached := leads.reached
    rw [rounds]
    cases requested : q.world.operator.stopRequested with
    | true =>
      rw [turn_of_stopRequested (awake q leads) requested]
      dsimp only
      rw [List.append_nil]
      exact ⟨q, leads, .stopped below requested count⟩
    | false =>
      have goesOn : ¬q.Ended w.operator.maxTicks.toNat := by
        rintro (limited | stop)
        · exact below limited
        · cases requested.symm.trans stop
      have untimed : q.world.operator.maxRealTimeSeconds = 0 :=
        reached.fixed.maxRealTimeSeconds.trans untimed
      cases ended : q.next.result with
      | error e =>
        rw [turn_of_error (awake q leads) untimed requested ended]
        exact ⟨q, leads, .failed goesOn ended⟩
      | ok summary =>
        have leads' := leads.tick goesOn ended
        have reached' := leads'.reached
        have length : (q.advanced supervisor summary).summaries.length = q.summaries.length + 1 :=
          List.length_append
        have last : (q.advanced supervisor summary).summaries.getLast? = some summary :=
          List.getLast?_concat
        have clock := reached'.clock
        have word := (q.advanced supervisor summary).simulation.clock.ticks.toNat_lt
        have count' : (Word.bump total).toNat =
            (q.advanced supervisor summary).summaries.length := by
          rw [Word.toNat_bump, count, length]
          omega
        rw [turn_of_advanced (awake q leads) untimed requested ended]
        by_cases limited :
            (q.advanced supervisor summary).world.operator.tickLimitReached summary.tick = true
        · rw [if_pos limited]
          rw [Operator.tickLimitReached_iff, reached'.fixed.maxTicks] at limited
          exact ⟨_, leads', .limited limited.1 last limited.2 count'⟩
        · rw [if_neg limited]
          rw [Operator.tickLimitReached_iff, reached'.fixed.maxTicks] at limited
          dsimp only
          rw [← last]
          refine ih leads' (mt atLimit_advanced_iff.1 limited) ?_ count'
          rw [clock, length]
          rw [reached.clock] at left
          omega

/-! ## The end of a run -/

/-- A run that is not bound in real time, and that nobody leaves paused without a stop requested,
ends. It executes tick after tick and tells the supervisor once of each, up to the first that is at
or beyond the limit or after which a stop is requested, or up to the one before the first that
fails; it executes none if a stop is requested at the beginning. At the limit and at a stop the run
is completed for that reason. After a tick that fails nothing more is done. -/
theorem run_ends_at_first_reason (s : Simulation M T) (w : World M) (supervisor : Supervisor M T)
    (untimed : w.operator.maxRealTimeSeconds = 0)
    (awake : ∀ q, Leads supervisor w.operator.maxTicks.toNat ⟨s, w, [], []⟩ q →
      q.world.operator.waits = false) :
    let tick := s.clock.ticks.toNat
    let limit := w.operator.maxTicks.toNat
    let run := s.run w supervisor
    ∃ q total, Leads supervisor limit ⟨s, w, [], []⟩ q ∧
      q.summaries.map (fun summary => summary.tick.toNat) =
        List.range' (tick + 1) q.summaries.length ∧
      q.simulation.clock.ticks.toNat = tick + q.summaries.length ∧
      (w.operator.stopRequested = true → q = ⟨s, w, [], []⟩) ∧
      total.toNat = q.summaries.length ∧
      (∀ r, run.result = .ok r →
        r.totalTicks = total ∧ r.finalSummary = q.summaries.getLast?) ∧
      ((0 < limit ∧ (∃ last, q.summaries.getLast? = some last ∧
            last.tick.toNat = max limit (tick + 1)) ∧
          run = endRun q.simulation q.world .maxTicksReached q.summaries.getLast? total q.calls ∧
          run.world.operator.endReason = some .maxTicksReached) ∨
        (¬q.AtLimit limit ∧ q.world.operator.stopRequested = true ∧
          run = endRun q.simulation q.rested .operatorStop q.summaries.getLast? total q.calls ∧
          run.world.operator.endReason = some .operatorStop) ∨
        ¬q.AtLimit limit ∧ q.world.operator.stopRequested = false ∧
          ∃ e, q.next.result = .error e ∧
            run = ⟨.error (.tick e), q.next.simulation, q.next.world, q.calls ++ q.next.calls⟩ ∧
            run.world.operator.endReason = w.operator.endReason ∧
            ∀ c ∈ run.calls, c.completes = false) := by
  intro tick limit run
  have start : ¬(⟨s, w, [], []⟩ : Standing M T).AtLimit limit := by
    rintro ⟨-, last, none, -⟩
    cases none
  have enough : 18446744073709551616 ≤ s.roundsLeft + s.clock.ticks.toNat := by
    rw [roundsLeft]
    omega
  obtain ⟨q, leads, ends⟩ : ∃ q, Leads supervisor limit ⟨s, w, [], []⟩ q ∧ Ends limit q run :=
    rounds_end untimed awake .refl start enough rfl
  have reached := leads.reached
  have none := leads.eq_of_stopRequested
  generalize run = run at ends ⊢
  cases ends with
  | @limited last total limited isLast atLimit count =>
    obtain ⟨some, number⟩ := reached.getLast? isLast
    have early := reached.early limited
    refine ⟨q, total, leads, reached.ticks, reached.clock, none, count, ?_,
      .inl ⟨limited, ⟨last, isLast, ?_⟩, ?_, endRun_endReason⟩⟩
    · intro r ok
      rw [endRun_result ok]
      exact ⟨rfl, isLast.symm⟩
    · rw [number] at atLimit ⊢
      show _ = max limit (s.clock.ticks.toNat + 1)
      omega
    · rw [isLast]
  | @stopped total below requested count =>
    refine ⟨q, total, leads, reached.ticks, reached.clock, none, count, ?_,
      .inr (.inl ⟨below, requested, rfl, endRun_endReason⟩)⟩
    intro r ok
    rw [endRun_result ok]
    exact ⟨rfl, rfl⟩
  | @failed e goesOn failed =>
    obtain ⟨fixed, calls, -⟩ := q.simulation.runTick_keeps q.rested
    have word := q.simulation.clock.ticks.toNat_lt
    rw [reached.clock] at word
    refine ⟨q, .ofNat q.summaries.length, leads, reached.ticks, reached.clock, none, ?_, nofun,
      .inr (.inr ⟨fun limited => goesOn (.inl limited),
        Bool.eq_false_iff.2 fun stop => goesOn (.inr stop), e, failed, rfl, ?_, ?_⟩)⟩
    · exact UInt64.toNat_ofNat_of_lt' (Nat.lt_of_le_of_lt (Nat.le_add_left _ _) word)
    · exact ((reached.fixed.trans q.rested_fixed).trans fixed).endReason
    · intro c mem
      rcases List.mem_append.1 mem with earlier | new
      · exact reached.calls c earlier
      · exact calls c new

section Impatient

/-- A simulation in which nobody does anything. -/
structure Idle (s : Simulation M T) : Prop where
  sequential : s.driver.execution = .sequential
  still : ∀ slot ∈ s.participants,
    slot.failed = false ∧ ∀ ctx, slot.participant.step ctx = .done .fine
  bare : s.plugins = []

/-- A tick of an idle simulation leaves it idle, and the controls alone. -/
lemma Idle.runTick (h : s.Idle) (w : World M) :
    (s.runTick w).simulation.Idle ∧ (s.runTick w).world.operator = w.operator := by
  by_cases isOver : s.status.isOver = true
  · rw [runTick_of_over isOver]
    exact ⟨h, rfl⟩
  cases advanced : s.clock.increment with
  | error cause =>
    rw [runTick_of_stuck isOver advanced]
    exact ⟨⟨h.sequential, h.still, h.bare⟩, rfl⟩
  | ok clock =>
    have ticks : s.Ticks w clock (s.runTick w) :=
      runTick_ticks (opens?_eq_some_iff.2 ⟨isOver, advanced⟩)
    have still := fun slot mem => h.still slot
      (List.mem_of_mem_filter (p := fun slot => slot.isLive w.environment) mem)
    obtain ⟨w', stepped, rfl⟩ : ∃ w', s.stepsIn w clock = (allFine _, w') ∧
        w' = w.openTick clock.ticks := by
      rw [stepsIn, h.sequential]
      exact stepAll_of_fine (P := fun _ w' => w' = w.openTick clock.ticks) _
        (fun k slot at_k => ⟨(still slot (List.mem_of_getElem? at_k)).1, fun w' same =>
          ⟨w', by rw [(still slot (List.mem_of_getElem? at_k)).2]; rfl, same⟩⟩) rfl
    obtain ⟨-, simulation, world⟩ := ticks.of_fine stepped (by rw [h.bare]; rfl) rfl
    rw [simulation, world]
    exact ⟨⟨h.sequential, still, h.bare⟩, rfl⟩

/-- A supervisor that requests a stop after the third tick. -/
def impatient : Supervisor Key IntegerTime where
  onTick report := if report.summary.tick = 3 then .request (.control .stop) else .done ()

/-- However far an impatient run is led that is not paused, it is not paused. -/
lemma impatient_unpaused {limit : Nat} {p q : Standing Key IntegerTime}
    (h : Leads impatient limit p q) (idle : p.simulation.Idle)
    (unpaused : p.world.operator.paused = false) :
    q.simulation.Idle ∧ q.world.operator.paused = false := by
  induction h with
  | refl => exact ⟨idle, unpaused⟩
  | @tick q summary before goesOn ok ih =>
    obtain ⟨idle', operator⟩ := ih.1.runTick q.rested
    refine ⟨idle', ?_⟩
    have same : (q.advanced impatient summary).world.operator.paused =
        q.next.world.operator.paused := by
      show (q.next.world.perform (if summary.tick = 3 then _ else _)).2.operator.paused = _
      split <;> rfl
    rw [same, Standing.next, operator, rested]
    split <;> exact ih.2

/-- A run that begins after one tick, with the limit at the fifth, executes two ticks. -/
theorem run_ends_at_first_reason_impatient :
    let g := plain.after [.add settled, .tick]
    let w : World Key := { g.world with operator := { maxTicks := 5 } }
    let p : Standing Key IntegerTime := ⟨g.simulation, w, [], []⟩
    w.operator.maxRealTimeSeconds = 0 ∧
      (∀ q, Leads impatient 5 p q → q.world.operator.waits = false) ∧
      ∃ q, Leads impatient 5 p q ∧
        q.summaries.map (fun summary => summary.tick.toNat) = [2, 3] ∧
        (g.simulation.run w impatient).result = .ok ⟨.operatorStop, q.summaries.getLast?, 2⟩ := by
  intro g w p
  have idle : g.simulation.Idle := ⟨rfl, List.forall_mem_singleton.2 ⟨rfl, fun _ => rfl⟩, rfl⟩
  have awake : ∀ q, Leads impatient 5 p q → q.world.operator.waits = false := by
    intro q leads
    rw [Operator.waits, (impatient_unpaused leads idle rfl).2]
    rfl
  obtain ⟨q, total, leads, ticks, -, -, count, tells, -⟩ :=
    run_ends_at_first_reason g.simulation w impatient rfl awake
  have ended : (g.simulation.run w impatient).result.toOption.map
      (fun r => (r.endReason, r.totalTicks)) = some (.operatorStop, 2) := by decide
  cases result : (g.simulation.run w impatient).result with
  | error e =>
    rw [result] at ended
    cases ended
  | ok r =>
    rw [result] at ended
    obtain ⟨endReason, totalTicks⟩ := Prod.mk.inj (Option.some.inj ended)
    obtain ⟨rfl, final⟩ := tells r result
    rw [totalTicks] at count
    rw [← count] at ticks
    obtain ⟨_, _, _⟩ := r
    cases endReason
    cases totalTicks
    cases final
    exact ⟨rfl, awake, q, leads, ticks, rfl⟩

end Impatient

end Simulation

end Cadence
