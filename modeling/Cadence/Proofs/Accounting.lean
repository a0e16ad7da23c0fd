import Cadence.Proofs.Driven
import Cadence.Proofs.Pace
import Cadence.Proofs.Trail

/-!
# Accounting for actions

Which answers the summary of a tick counts. The window is open for a tick exactly while the tick
does its deeds (`Progress.isIn_of_mem`), and no two ticks of a history have one number
(`Progress.filter_deeds_of_le`), so what is done while the window is open for a tick is what that
tick does (`Progress.summary_tells`).
-/

namespace Cadence

variable {M T : Type}

open World Simulation

/-- Whether the window is open for a tick. -/
def World.isIn (w : World M) (tick : UInt64) : Bool :=
  w.environment.window.phase == .opened && w.environment.window.tick == tick

/-- Between two calls of the driver the window is open for no tick. -/
lemma Progress.Gated.isIn_eq {g : Progress M T} (h : g.Gated) (tick : UInt64) :
    g.world.isIn tick = false := by
  have phase : g.environment.window.phase ≠ .opened := by
    by_cases fresh : g.simulation.status = .notStarted
    · rw [h.setup fresh]
      nofun
    · rw [h.closed fresh]
      nofun
  rw [World.isIn, Bool.and_eq_false_iff]
  exact .inl (beq_eq_false_iff_ne.2 phase)

variable [Time T]

/-- The summary of a call of the driver, if it is a tick that gives one. -/
def DriverCall.summary? (s : Simulation M T) (w : World M) :
    DriverCall M T → Option (TickSummary T)
  | tick => (s.runTick w).result.toOption
  | _ => none

namespace Progress

/-- The summaries of the ticks of a history. -/
def summaries (g : Progress M T) : List (DriverCall M T) → List (TickSummary T)
  | [] => []
  | c :: rest => (c.summary? g.simulation g.world).toList ++ (g.next c).summaries rest

/-- A call of the driver opens the window for the tick that it opens, and for no other. -/
lemma isIn_entered {g : Progress M T} (h : g.Gated) (c : DriverCall M T) (tick : UInt64) :
    (c.entered g.simulation g.world).isIn tick = (c.opens? g.simulation == some tick) := by
  cases c with
  | add | spawn | addPlugin | outside => exact h.isIn_eq tick
  | tick =>
    rw [DriverCall.entered, DriverCall.opens?]
    cases g.simulation.opens? with
    | none => exact h.isIn_eq tick
    | some clock => rfl
  | finish =>
    rw [DriverCall.entered]
    split
    · exact h.isIn_eq tick
    · rfl

/-- The window is open for a tick exactly while the tick does its deeds. -/
lemma isIn_of_mem {g : Progress M T} (h : g.Gated) (c : DriverCall M T) {d : Deed M}
    (mem : d ∈ c.deeds g.simulation g.world) (tick : UInt64) :
    d.world.isIn tick = (c.opens? g.simulation == some tick) := by
  obtain ⟨w', along, -⟩ := c.deeds_along g.simulation g.world
  have still := (along.reaches_of_mem mem).frame
  rw [← isIn_entered h c, World.isIn, World.isIn, still.phase, still.tick]

/-- What is done from some point of a history on while the window is open for a tick. -/
lemma filter_deeds_next {g : Progress M T} (h : g.Gated) (c : DriverCall M T)
    (rest : List (DriverCall M T)) (tick : UInt64) :
    (g.deeds (c :: rest)).filter (fun d => d.world.isIn tick) =
      (if c.opens? g.simulation = some tick then c.deeds g.simulation g.world else []) ++
        ((g.next c).deeds rest).filter fun d => d.world.isIn tick := by
  rw [deeds, List.filter_append]
  congr 1
  split
  · next opens =>
    refine List.filter_eq_self.2 fun d mem => ?_
    rw [isIn_of_mem h c mem, opens, beq_self_eq_true]
  · next other =>
    refine List.filter_eq_nil_iff.2 fun d mem => ?_
    rw [isIn_of_mem h c mem, beq_iff_eq]
    exact other

/-! ## Ticks of a history have different numbers -/

/-- A call that opens a tick counts it. -/
lemma ticks_of_opens {g : Progress M T} {c : DriverCall M T} {tick : UInt64}
    (opens : c.opens? g.simulation = some tick) :
    (g.next c).simulation.clock.ticks = tick ∧
      tick.toNat = g.simulation.clock.ticks.toNat + 1 := by
  rw [DriverCall.opens?_eq, Option.map_eq_some_iff] at opens
  obtain ⟨clock, moves, rfl⟩ := opens
  cases c with
  | add | spawn | addPlugin | finish | outside => cases moves
  | tick =>
    obtain ⟨-, advanced⟩ := opens?_eq_some_iff.1 moves
    rw [clock_next, moves]
    exact ⟨rfl, (Clock.increment_eq advanced).2⟩

/-- No call takes ticks back. -/
lemma ticks_le_next (g : Progress M T) (c : DriverCall M T) :
    g.simulation.clock.ticks.toNat ≤ (g.next c).simulation.clock.ticks.toNat := by
  cases opens : c.opens? g.simulation with
  | none =>
    rw [DriverCall.opens?_eq, Option.map_eq_none_iff] at opens
    rw [clock_next, opens]
    exact Nat.le_refl _
  | some tick =>
    obtain ⟨same, next⟩ := ticks_of_opens opens
    rw [same, next]
    exact Nat.le_succ _

/-- What has been ticked before is not ticked again. -/
lemma filter_deeds_of_le {g : Progress M T} (h : g.Gated) (history : List (DriverCall M T))
    {tick : UInt64} (past : tick.toNat ≤ g.simulation.clock.ticks.toNat) :
    (g.deeds history).filter (fun d => d.world.isIn tick) = [] := by
  induction history generalizing g with
  | nil => rfl
  | cons c rest ih =>
    have later := ticks_le_next g c
    rw [filter_deeds_next h, ih (h.next c) (Nat.le_trans past later), List.append_nil, if_neg]
    intro opens
    obtain ⟨-, next⟩ := ticks_of_opens opens
    omega

/-- A summary is given by a tick that opens, and it tells of that tick. -/
lemma of_summary? {g : Progress M T} {c : DriverCall M T} {summary : TickSummary T}
    (given : c.summary? g.simulation g.world = some summary) :
    c.opens? g.simulation = some summary.tick ∧
      summary.actions.Tells (answered (c.deeds g.simulation g.world)) := by
  cases c with
  | add | spawn | addPlugin | finish | outside => cases given
  | tick =>
    rw [DriverCall.summary?] at given
    rw [DriverCall.opens?, DriverCall.deeds, tickDeeds]
    cases opens : g.simulation.opens? with
    | none =>
      rw [(runTick_of_closed opens).2.2] at given
      cases given
    | some clock =>
      have ok : (g.simulation.runTick g.world).result = .ok summary := by
        cases result : (g.simulation.runTick g.world).result with
        | error e =>
          rw [result] at given
          cases given
        | ok told =>
          rw [result] at given
          exact congrArg _ (Option.some.inj given)
      obtain ⟨tick, -, tells⟩ := (runTick_ticks opens).summary ok
      exact ⟨congrArg some tick.symm, tells⟩

/-- Summaries are of ticks that the clock counts later. -/
lemma ticks_lt_of_mem {g : Progress M T} {history : List (DriverCall M T)}
    {summary : TickSummary T} (mem : summary ∈ g.summaries history) :
    g.simulation.clock.ticks.toNat < summary.tick.toNat := by
  induction history generalizing g with
  | nil => cases mem
  | cons c rest ih =>
    rcases List.mem_append.1 mem with now | later
    · obtain ⟨-, next⟩ := ticks_of_opens (of_summary? (Option.mem_toList.1 now)).1
      omega
    · have before := ticks_le_next g c
      have after := ih later
      omega

/-- Summaries come in the order of their ticks. -/
lemma pairwise_summaries (g : Progress M T) (history : List (DriverCall M T)) :
    (g.summaries history).Pairwise fun a b => a.tick < b.tick := by
  induction history generalizing g with
  | nil => exact .nil
  | cons c rest ih =>
    rw [summaries, List.pairwise_append]
    refine ⟨?_, ih _, fun a now b later => ?_⟩
    · cases c.summary? g.simulation g.world with
      | none => exact .nil
      | some summary => exact List.pairwise_singleton _ _
    · obtain ⟨same, -⟩ := ticks_of_opens (of_summary? (Option.mem_toList.1 now)).1
      have after := ticks_lt_of_mem later
      rw [same] at after
      exact UInt64.lt_iff_toNat_lt.2 after

/-- A summary tells how the actions were answered that were submitted while the window was open for
its tick. -/
theorem summary_tells {g : Progress M T} (h : g.Gated) {history : List (DriverCall M T)}
    {summary : TickSummary T} (mem : summary ∈ g.summaries history) :
    summary.actions.Tells
      (answered ((g.deeds history).filter fun d => d.world.isIn summary.tick)) := by
  induction history generalizing g with
  | nil => cases mem
  | cons c rest ih =>
    rw [filter_deeds_next h]
    rcases List.mem_append.1 mem with now | later
    · obtain ⟨opens, tells⟩ := of_summary? (Option.mem_toList.1 now)
      obtain ⟨same, -⟩ := ticks_of_opens opens
      have past := Nat.le_of_eq (congrArg UInt64.toNat same.symm)
      rw [if_pos opens, filter_deeds_of_le (h.next c) rest past, List.append_nil]
      exact tells
    · rw [if_neg, List.nil_append]
      · exact ih (h.next c) later
      · -- a later summary is of a later tick
        intro opens
        have after := ticks_lt_of_mem later
        rw [(ticks_of_opens opens).1] at after
        exact Nat.lt_irrefl _ after

end Progress

/-- The summaries of the ticks of a history. -/
def Plan.summaries (x : Plan M T) (history : List (DriverCall M T)) : List (TickSummary T) :=
  x.start.summaries history

/-- Every summary counts each answer once that is given while the window is open for its tick, as
what it is, and lists the failures among them in their order. An answer is what the submitter of an
action is told, and nothing else is one. Answers given at other times, during setup or between ticks
or in other ticks, are in no such count, and no two summaries are of one tick. -/
theorem summaries_account_for_actions (x : Plan M T) (history : List (DriverCall M T)) :
    (∀ action actor key (ds : List (Deed M)) r, (Thread.act action actor key).Follows ds r →
      answered ds = [⟨actor, action, r⟩]) ∧
    (∀ d : Deed M, d.access.isPartOfAction = false → answered [d] = []) ∧
    ((x.summaries history).Pairwise fun a b => a.tick < b.tick) ∧
    ∀ summary ∈ x.summaries history,
      let answers := answered ((x.deeds history).filter fun d => d.world.isIn summary.tick)
      answers.length < 18446744073709551616 →
        summary.actions.applied.toNat = answers.countP Answered.isApplied ∧
        summary.actions.rejected.toNat = answers.countP Answered.isRejected ∧
        summary.actions.failed.toNat = answers.countP Answered.isFailed ∧
        summary.actions.refused.toNat = answers.countP Answered.isRefused ∧
        summary.actions.applied.toNat + summary.actions.rejected.toNat +
          summary.actions.failed.toNat + summary.actions.refused.toNat = answers.length ∧
        summary.actions.failures = answers.filterMap Answered.failure? := by
  refine ⟨fun _ _ _ _ _ follows => (Thread.answered_act follows).1, ?_,
    Progress.pairwise_summaries x.start history, ?_⟩
  · rintro ⟨a, w⟩ other
    cases a with
    | route | settle => cases other
    | _ => rfl
  · intro summary mem answers few
    have tells : summary.actions.Tells answers :=
      Progress.summary_tells (Progress.gated_after x []) mem
    -- the counters stop at the greatest word, which so few answers do not go beyond
    have within := fun p => Nat.lt_of_le_of_lt (answers.countP_le_length (p := p)) few
    have counts : ∀ p, min (answers.countP p) 18446744073709551615 = answers.countP p :=
      fun p => Nat.min_eq_left (Nat.le_of_lt_succ (within p))
    have applied := tells.applied.trans (counts _)
    have rejected := tells.rejected.trans (counts _)
    have failed := tells.failed.trans (counts _)
    have refused := tells.refused.trans (counts _)
    refine ⟨applied, rejected, failed, refused, ?_, tells.failures⟩
    rw [applied, rejected, failed, refused]
    exact Answered.countP_add answers

section Busy

/-- A handler that applies, rejects or fails as it is asked to. -/
def moody : Handler where
  name := "moody"
  tags := [⟨"ask"⟩]
  handle _ action _ :=
    match action.payload with
    | .bool true => .stop (.finished (.applied .null))
    | .bool false => .stop (.finished (.rejected "not now"))
    | _ => .stop (.failed (.failed "never"))

/-- A participant that is answered in every way in each step, and acts while it joins. -/
def busy : Participant Key IntegerTime where
  id := ⟨1⟩
  name := "busy"
  initialise handle := .ask (.keep fun _ => handle.key) fun _ =>
    .ask (.act ⟨⟨"ask"⟩, .bool true⟩ ⟨1⟩ handle.key) fun _ => .done .fine
  step _ := .ask .remembered fun key =>
    .ask (.act ⟨⟨"ask"⟩, .bool true⟩ ⟨1⟩ key) fun _ =>
    .ask (.act ⟨⟨"ask"⟩, .bool false⟩ ⟨1⟩ key) fun _ =>
    .ask (.act ⟨⟨"ask"⟩, .null⟩ ⟨1⟩ key) fun _ =>
    .ask (.act ⟨⟨"tell"⟩, .null⟩ ⟨1⟩ key) fun _ => .done .fine

/-- What is done while participants are driven, before it, and between two ticks. -/
def busyHistory : List (DriverCall Key IntegerTime) :=
  [.add busy, .tick, .outside (.ask .remembered fun key =>
    .ask (.act ⟨⟨"ask"⟩, .bool true⟩ ⟨1⟩ key) fun _ => .done ()), .tick]

/-- A world in which that handler takes actions. -/
def busyPlan : Plan Key IntegerTime :=
  { plain with registry := Registry.add {} moody }

/-- Of ten actions the second tick counts its own four, each of which was answered differently. -/
theorem summaries_account_for_actions_busy :
    let last : TickSummary IntegerTime :=
      { tick := 2, time := ⟨2⟩, participantsStepped := 1, pluginsExecuted := 0,
        participantsRegistered := 1,
        actions := ⟨1, 1, 1, 1, [⟨⟨1⟩, ⟨"ask"⟩, "moody", "never"⟩]⟩, failures := [] }
    let answers := answered ((busyPlan.deeds busyHistory).filter fun d => d.world.isIn 2)
    last ∈ busyPlan.summaries busyHistory ∧ answers.length = 4 ∧
      (answered (busyPlan.deeds busyHistory)).length = 10 ∧
      answers.countP Answered.isRefused = 1 ∧
      answers.filterMap Answered.failure? = [⟨⟨1⟩, ⟨"ask"⟩, "moody", "never"⟩] := by
  intro last answers
  have mem : last ∈ busyPlan.summaries busyHistory := by decide
  have four : answers.length = 4 := by decide
  obtain ⟨-, -, -, counted⟩ := summaries_account_for_actions busyPlan busyHistory
  obtain ⟨-, -, -, refused, -, failures⟩ := counted last mem (by rw [four]; decide)
  exact ⟨mem, four, by decide, refused.symm, failures.symm⟩

end Busy

end Cadence
