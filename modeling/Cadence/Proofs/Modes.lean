import Cadence.Proofs.Walks

/-!
# Demonstrations in turn and side by side

A demonstration comes to the same whether its walkers step in turn or side by side, and in whatever
order they do then: it ends in the same tick for the same reason, with the same positions, the same
tally and as many rows (`runUnder_agree`). How often walkers have collided may differ. Two runs of
one demonstration are followed round by round (`Afoot.rounds_agree`).
-/

namespace Cadence

/-- The configuration under which participants are stepped in the given mode. -/
def Config.stepped (config : Config) (mode : ExecutionMode) : Config :=
  { config with driver := { config.driver with execution := mode } }

namespace Scenario

variable {c : ScenarioConfig} {driver driver₁ driver₂ : DriverConfig}
  {slots slots₁ slots₂ : List Slot} {ticks : Nat}
  {plugins plugins₁ plugins₂ : List (PluginSlot Memory IntegerTime)}
  {s s₁ s₂ : Simulation Memory IntegerTime} {w w₁ w₂ : World Memory}

/-- What a demonstration ends with whose run is over. -/
def concluded (recordState : Bool) (finished : Run Memory IntegerTime) : Ended :=
  match finished.result with
  | .error e => ended (.error (.runner e)) finished.world
  | .ok result => ended (collect recordState result finished.world) finished.world

/-- Run the demonstration that a configuration describes; when walkers step side by side, their
accesses in each tick come in the order of a schedule. -/
def runUnder (schedule : UInt64 → List Nat) (config : Config) (operator : Operator)
    (ids : Identifiers) : Ended :=
  match setUp config operator ids with
  | .error e => e
  | .ok (s, w) =>
    concluded config.scenario.recordState ({ s with schedule := schedule }.run w supervisor)

/-- A result without the number of collisions. -/
def Result.uncounted (r : Result) : Result := { r with ring := { r.ring with collisions := 0 } }

/-- The schedule does not matter to a demonstration between two ticks. -/
lemma Afoot.scheduled (h : Afoot c driver slots plugins ticks s w) (schedule : UInt64 → List Nat) :
    Afoot c driver slots plugins ticks { s with schedule := schedule } w :=
  ⟨h.ring, h.few, h.runnable, h.clock, h.driven, h.joined, h.added, h.stage, h.courses, h.equipped⟩

/-- There is one plugin, and a second one if state is recorded. -/
lemma Equipped.length_slots {recordState : Bool} {rows : Nat}
    (h : Equipped recordState plugins rows w) :
    plugins.length = if recordState then 2 else 1 := by
  obtain ⟨id₁, id₂, rfl⟩ := h.slots
  cases recordState <;> rfl

/-- What two runs of a demonstration come to. -/
inductive Agree (c : ScenarioConfig) (slots₁ slots₂ : List Slot) :
    Run Memory IntegerTime → Run Memory IntegerTime → Prop where
  | failed {ran₁ ran₂} (e : RunError) (failed₁ : ran₁.result = .error e)
    (failed₂ : ran₂.result = .error e) : Agree c slots₁ slots₂ ran₁ ran₂
  | ended {ran₁ ran₂} (result : RunResult IntegerTime) (ticks : Nat)
    (ok₁ : ran₁.result = .ok result) (ok₂ : ran₂.result = .ok result)
    (settled₁ : Settled c slots₁ ticks ran₁.world) (settled₂ : Settled c slots₂ ticks ran₂.world) :
    Agree c slots₁ slots₂ ran₁ ran₂

/-- Two runs of a demonstration under the same controls come to the same. -/
theorem Afoot.rounds_agree (h₁ : Afoot c driver₁ slots₁ plugins₁ ticks s₁ w₁)
    (h₂ : Afoot c driver₂ slots₂ plugins₂ ticks s₂ w₂) (walkers : slots₁.length = slots₂.length)
    (plugins : plugins₁.length = plugins₂.length) (controls : w₁.operator = w₂.operator) (n : Nat)
    (last : Option (TickSummary IntegerTime)) (total : UInt64)
    (calls₁ calls₂ : List (HookCall IntegerTime)) :
    Agree c slots₁ slots₂ (Simulation.rounds supervisor n s₁ w₁ last total calls₁)
      (Simulation.rounds supervisor n s₂ w₂ last total calls₂) := by
  induction n generalizing ticks s₁ s₂ w₁ w₂ last total calls₁ calls₂ with
  | zero => exact .failed .stalled rfl rfl
  | succ n ih =>
    have turns₁ := h₁.turns
    have turns₂ := h₂.turns
    have turn₂ := turns₂.turn
    -- both rounds come to what the same controls and the same number of ticks tell
    rw [← walkers, ← plugins, ← controls, ← turns₁.turn] at turn₂
    rw [Simulation.rounds, Simulation.rounds]
    cases turned : (s₁.turn w₁ supervisor).turn with
    | failed e =>
      rw [turned] at turn₂
      rw [turn₂]
      exact .failed e rfl rfl
    | ended reason =>
      rw [turned] at turn₂
      rw [turn₂]
      obtain ⟨simulation₁, world₁⟩ := turns₁.ended reason turned
      obtain ⟨simulation₂, world₂⟩ := turns₂.ended reason turn₂
      dsimp only
      rw [simulation₁, world₁, simulation₂, world₂]
      obtain ⟨ok₁, settled₁⟩ :=
        h₁.endRun reason last total (calls₁ ++ (s₁.turn w₁ supervisor).calls)
      obtain ⟨ok₂, settled₂⟩ :=
        h₂.endRun reason last total (calls₂ ++ (s₂.turn w₂ supervisor).calls)
      exact .ended _ ticks ok₁ ok₂ settled₁ settled₂
    | limited summary =>
      rw [turned] at turn₂
      rw [turn₂]
      obtain ⟨ok₁, settled₁⟩ := (turns₁.limited summary turned).endRun .maxTicksReached
        (some summary) (Word.bump total) (calls₁ ++ (s₁.turn w₁ supervisor).calls)
      obtain ⟨ok₂, settled₂⟩ := (turns₂.limited summary turn₂).endRun .maxTicksReached
        (some summary) (Word.bump total) (calls₂ ++ (s₂.turn w₂ supervisor).calls)
      exact .ended _ (ticks + 1) ok₁ ok₂ settled₁ settled₂
    | ticked summary =>
      rw [turned] at turn₂
      rw [turn₂]
      obtain ⟨afoot₁, operator₁⟩ := turns₁.ticked summary turned
      obtain ⟨afoot₂, operator₂⟩ := turns₂.ticked summary turn₂
      have controls' : (s₁.turn w₁ supervisor).world.operator =
          (s₂.turn w₂ supervisor).world.operator := by
        rw [operator₁, operator₂, controls]
      exact ih afoot₁ afoot₂ controls' (some summary) (Word.bump total) _ _

/-- What is read after two runs is the same but for the collisions. -/
lemma Settled.agree (h₁ : Settled c slots₁ ticks w₁) (h₂ : Settled c slots₂ ticks w₂)
    (same : (slots₁.map fun slot => slot.participant.id) =
      slots₂.map fun slot => slot.participant.id) (run : RunResult IntegerTime) :
    (Scenario.collect c.recordState run w₁).map Result.uncounted =
      (Scenario.collect c.recordState run w₂).map Result.uncounted := by
  obtain ⟨ring₁, collected₁, follows₁⟩ := h₁.collect run
  obtain ⟨ring₂, collected₂, follows₂⟩ := h₂.collect run
  have length : slots₁.length = slots₂.length := by
    have lengths := congrArg List.length same
    rwa [List.length_map, List.length_map] at lengths
  rw [same] at follows₁
  rw [collected₁, collected₂, length]
  simp only [Except.map, Result.uncounted, follows₁.positions_eq follows₂]

/-- Runs that agree come to results that agree. -/
lemma Agree.concluded {ran₁ ran₂ : Run Memory IntegerTime} (h : Agree c slots₁ slots₂ ran₁ ran₂)
    (same : (slots₁.map fun slot => slot.participant.id) =
      slots₂.map fun slot => slot.participant.id) :
    (concluded c.recordState ran₁).result.map Result.uncounted =
      (concluded c.recordState ran₂).result.map Result.uncounted := by
  rw [Scenario.concluded, Scenario.concluded]
  cases h with
  | failed e failed₁ failed₂ =>
    rw [failed₁, failed₂]
    rfl
  | ended result ticks ok₁ ok₂ settled₁ settled₂ =>
    rw [ok₁, ok₂]
    exact settled₁.agree settled₂ same result

variable {config : Config} {ids : Identifiers}

/-- A demonstration is run under the schedule that lets walkers step one after another. -/
lemma run_eq_runUnder (config : Config) (ring : config.scenario.ringSize ≠ 0)
    (distinct : ids.Distinct config.scenario.walkers.toNat) (operator : Operator) :
    run config operator ids = runUnder (fun _ => []) config operator ids := by
  obtain ⟨slots, plugins, w, start, -⟩ := setUp_afoot config ring distinct operator
  rw [run, runUnder, start]
  rfl

/-- A demonstration comes to the same in whatever mode and order its walkers are stepped. -/
theorem runUnder_agree (ring : config.scenario.ringSize ≠ 0)
    (distinct : ids.Distinct config.scenario.walkers.toNat) (operator : Operator)
    (mode₁ mode₂ : ExecutionMode) (schedule₁ schedule₂ : UInt64 → List Nat) :
    (runUnder schedule₁ (config.stepped mode₁) operator ids).result.map Result.uncounted =
      (runUnder schedule₂ (config.stepped mode₂) operator ids).result.map Result.uncounted := by
  obtain ⟨slots₁, plugins₁, w₁, start₁, length₁, numbered₁, afoot₁, controls₁⟩ :=
    setUp_afoot (config.stepped mode₁) ring distinct operator
  obtain ⟨slots₂, plugins₂, w₂, start₂, length₂, numbered₂, afoot₂, controls₂⟩ :=
    setUp_afoot (config.stepped mode₂) ring distinct operator
  have length : slots₁.length = slots₂.length := length₁.trans length₂.symm
  have same : (slots₁.map fun slot => slot.participant.id) =
      slots₂.map fun slot => slot.participant.id := by
    rw [numbered₁, numbered₂, length]
  have plugins : plugins₁.length = plugins₂.length :=
    afoot₁.equipped.length_slots.trans afoot₂.equipped.length_slots.symm
  rw [runUnder, runUnder, start₁, start₂]
  -- both clocks are new, so there are as many rounds left
  exact ((afoot₁.scheduled schedule₁).rounds_agree (afoot₂.scheduled schedule₂) length plugins
    (controls₁.trans controls₂.symm) _ none 0 [] []).concluded same

/-! ## No step is lost -/

/-- Walkers that act side by side lose no step: in whatever order the accesses of their actions
come, all actions are applied, every walker ends where its own steps lead it, and every tally
counts. So a demonstration whose walkers step side by side has the result of the one whose walkers
step in turn, but for the number of collisions. -/
theorem walkers_lose_no_step :
    (∀ {M : Type} (x : Gathering M) (errands : ParticipantId → List Errand) (schedule : List Nat),
      x.Carried errands (World.interleave schedule (x.submissions errands) x.world).1
        (World.interleave schedule (x.submissions errands) x.world).2) ∧
    ∀ (config : Config) (operator : Operator) (ids : Identifiers) (schedule : UInt64 → List Nat),
      config.scenario.ringSize ≠ 0 → ids.Distinct config.scenario.walkers.toNat →
      (runUnder schedule (config.stepped .concurrent) operator ids).result.map Result.uncounted =
        (run (config.stepped .sequential) operator ids).result.map Result.uncounted := by
  refine ⟨fun x => x.errands_carried, fun config operator ids schedule ring distinct => ?_⟩
  rw [run_eq_runUnder (config.stepped .sequential) ring distinct operator]
  exact runUnder_agree ring distinct operator .concurrent .sequential schedule fun _ => []

/-- Two walkers on a ring of five cells, seven steps having been tallied. -/
def couple : Gathering Unit :=
  let board : Board := ⟨some ⟨⟨[(⟨1⟩, 1), (⟨2⟩, 4)]⟩, 0⟩, some 7⟩
  { size := 5
    ring := by decide
    world :=
      { environment :=
          { Environment.build (handlers 5) {} .counting with
            store := ⟨(handlers 5).keyOwners, board.entries⟩
            registrations := [⟨⟨1⟩, "walker-0", ⟨0⟩, {}⟩, ⟨⟨2⟩, "walker-1", ⟨1⟩, {}⟩] }
        memory := () }
    board := board
    hosts := ⟨rfl, rfl⟩
    opened := nofun
    sorted := List.pairwise_pair.2 (by decide)
    inside := List.forall_mem_cons.2 ⟨by decide, List.forall_mem_singleton.2 (by decide)⟩
    bounded := by decide
    walkers := [⟨⟨1⟩, ⟨0⟩, 1⟩, ⟨⟨2⟩, ⟨1⟩, 4⟩]
    distinct := by decide
    registered := by decide
    stands := by decide }

/-- Each of the two takes a step and tallies it, and the second gets ahead of the first. -/
theorem walkers_lose_no_step_couple :
    let ran := World.interleave [1, 0, 0, 1, 1, 0, 1]
      (couple.submissions fun _ => [.move 1 (by decide), .tally]) couple.world
    (∃ r, Ring.ofStore ran.2.environment.store = .ok r ∧
      r.positions.get? ⟨1⟩ = some 2 ∧ r.positions.get? ⟨2⟩ = some 0) ∧
    Tally.ofStore ran.2.environment.store = 9 ∧
    (runUnder (fun tick => [3, tick.toNat % 4, 1, 0]) (Config.stepped {} .concurrent) (.new 0 {})
        countedIdentifiers).result.map Result.uncounted =
      (run (Config.stepped {} .sequential) (.new 0 {}) countedIdentifiers).result.map
        Result.uncounted := by
  intro ran
  have carried := walkers_lose_no_step.1 couple (fun _ => [.move 1 (by decide), .tally])
    [1, 0, 0, 1, 1, 0, 1]
  obtain ⟨r, stored, walked, -⟩ := carried.ring
  refine ⟨⟨r, stored, ?_, ?_⟩, carried.tally, walkers_lose_no_step.2 {} (.new 0 {})
    countedIdentifiers _ (by decide) (distinct_counted (by decide))⟩
  · obtain ⟨cell, there, value⟩ := walked ⟨⟨1⟩, ⟨0⟩, 1⟩ (.head _)
    obtain rfl : cell = 2 := UInt32.toNat_inj.1 (Int.ofNat_inj.1 value)
    exact there
  · obtain ⟨cell, there, value⟩ := walked ⟨⟨2⟩, ⟨1⟩, 4⟩ (.tail _ (.head _))
    obtain rfl : cell = 0 := UInt32.toNat_inj.1 (Int.ofNat_inj.1 value)
    exact there

end Scenario

end Cadence
