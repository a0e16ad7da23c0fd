import Cadence.Proofs.Rounds
import Cadence.Proofs.Runs

/-!
# Demonstrations

Under controls that bound nothing but the ticks, a round of a demonstration ends it exactly at the
limit of ticks (`Afoot.turn_bounded`), so the rounds reach that limit and the completion
(`Afoot.rounds`). The whole of it, from the handlers to the final ring, is
`Scenario.run_reaches_limit`.
-/

namespace Cadence.Scenario

variable {c : ScenarioConfig} {driver : DriverConfig} {slots : List Slot} {rows tallied ticks : Nat}
  {plugins : List (PluginSlot Memory IntegerTime)} {s : Simulation Memory IntegerTime}
  {w : World Memory} {limit : UInt64}

/-! ## Rounds -/

/-- What the supervisor does on a tick adds events alone. -/
lemma perform_onTick (w : World Memory) (report : TickReport IntegerTime) :
    ∃ events, w.perform (supervisor.onTick report) = ((), { w with events := events }) := by
  rw [supervisor]
  dsimp only
  split
  · exact ⟨_, rfl⟩
  · exact ⟨_, rfl⟩

/-- Neither events nor the controls matter to a demonstration between two ticks. -/
lemma Afoot.unseen (h : Afoot c driver slots plugins ticks s w) (events : List Event)
    (operator : Operator) :
    Afoot c driver slots plugins ticks s { w with events := events, operator := operator } where
  ring := h.ring
  few := h.few
  runnable := h.runnable
  clock := h.clock
  driven := h.driven
  joined := h.joined
  added := h.added
  stage := h.stage.of_plugins rfl rfl rfl
  courses := by
    obtain ⟨r, courses, collided⟩ := h.courses
    exact ⟨r, courses.of_eq rfl rfl, collided⟩
  equipped := h.equipped.of_eq rfl rfl rfl

/-- A round that nothing ends before its tick runs it, and is the last one if and only if the tick
reaches the limit. -/
theorem Afoot.turn (h : Afoot c driver slots plugins ticks s w)
    (goesOn : w.operator.waits = false) (unended : Simulation.reasonToEnd? w.operator = none)
    (bound : ticks + 1 < 18446744073709551616) :
    ∃ tick s' w' calls, tick.toNat = ticks + 1 ∧
      Afoot c driver slots plugins (ticks + 1) s' w' ∧ w'.operator = w.operator ∧
      s.turn w supervisor =
        if w.operator.tickLimitReached tick then
          ⟨.limited (tickSummary slots.length plugins.length tick), s', w', calls⟩
        else
          ⟨.ticked (tickSummary slots.length plugins.length tick), s',
            { w' with operator := w.operator.pass w.operator.tickIntervalMs.toNat }, calls⟩ := by
  obtain ⟨tick, count, ok, afoot, operator⟩ := h.tick bound
  -- the supervisor reports events at most, which neither the next tick nor the controls depend on
  obtain ⟨events, told⟩ := perform_onTick (s.runTick w).world ((s.runTick w).simulation.report
    (s.runTick w).world (tickSummary slots.length plugins.length tick))
  have turned := Simulation.turn_of_ok goesOn unended ok told
  dsimp only at turned
  rw [operator] at turned
  exact ⟨tick, _, _, _, count, afoot.unseen events _, rfl, turned⟩

/-- A round runs a tick, and it is the last one if and only if the limit is reached. -/
theorem Afoot.turn_bounded (h : Afoot c driver slots plugins ticks s w)
    (bounded : w.operator.Bounded limit) (left : ticks < limit.toNat) :
    ∃ summary s' w' calls, s.turn w supervisor =
        ⟨if limit.toNat = ticks + 1 then .limited summary else .ticked summary, s', w', calls⟩ ∧
      Regular slots.length summary ∧ Afoot c driver slots plugins (ticks + 1) s' w' ∧
      w'.operator.Bounded limit := by
  have bound : ticks + 1 < 18446744073709551616 := Nat.lt_of_le_of_lt left limit.toNat_lt
  have limited : limit ≠ 0 := fun zero => by
    rw [zero] at left
    exact Nat.not_lt_zero _ left
  obtain ⟨tick, s', w', calls, count, afoot, operator, turned⟩ :=
    h.turn bounded.waits bounded.reasonToEnd? bound
  have regular := regular_tickSummary h.few plugins.length tick
  have reached := bounded.tickLimitReached_iff limited tick
  rw [count] at reached
  by_cases last : limit.toNat = ticks + 1
  · rw [if_pos (reached.2 (Nat.le_of_eq last))] at turned
    refine ⟨_, s', w', calls, ?_, regular, afoot, by rw [operator]; exact bounded⟩
    rw [if_pos last]
    exact turned
  · rw [if_neg (fun done => last (Nat.le_antisymm (reached.1 done) left))] at turned
    refine ⟨_, s', _, calls, ?_, regular, afoot.unseen w'.events _,
      bounded.pass w.operator.tickIntervalMs.toNat⟩
    rw [if_neg last]
    exact turned

/-! ## The end -/

/-- The rows that are recorded are still there when the database has stopped. -/
lemma recordedRows_stop (committed : List StoredRow) :
    recordedRows true (Recorder.database true Recorder.defaultTable [] committed).stop =
      .ok committed.length := rfl

/-- The plugins complete, and what has been recorded is kept. -/
theorem Equipped.complete {recordState : Bool} (h : Equipped recordState plugins rows w)
    (stage : Stage c slots tallied w) :
    ∃ w' calls, Simulation.completeAll plugins w = ([], w', calls) ∧
      w'.environment = w.environment ∧
      recordedRows recordState w'.database = .ok (if recordState then rows else 0) := by
  obtain ⟨id₁, id₂, rfl⟩ := h.slots
  obtain ⟨roster, remembers⟩ := h.reporter
  obtain ⟨ring, readable⟩ := stage.exists_ring
  obtain ⟨events, reports⟩ := Reporter.perform_complete Memory.reporterPlace remembers readable
  rw [Simulation.completeAll_cons rfl reports]
  cases recordState with
  | false => exact ⟨_, _, rfl, rfl, rfl⟩
  | true =>
    obtain ⟨committed, length, kept⟩ := h.database rfl
    rw [if_pos rfl, Simulation.completeAll_cons rfl (Recorder.perform_complete _)]
    refine ⟨_, _, rfl, rfl, ?_⟩
    show recordedRows true w.database.stop = .ok rows
    rw [kept, recordedRows_stop, length]

/-- What the world of a demonstration holds after some ticks, when it has been completed. -/
structure Settled (c : ScenarioConfig) (slots : List Slot) (ticks : Nat) (w : World Memory) :
    Prop where
  board : ∃ b, w.environment.Hosts c.ringSize b ∧
    b.Shows c.ringSize (slots.map fun slot => slot.participant.id) (slots.length * ticks) ∧
    b.ring.Follows c.ringSize c.seed (slots.map fun slot => slot.participant.id) fun _ => ticks
  rows : recordedRows c.recordState w.database =
    .ok (if c.recordState then rowsPerTick slots * ticks else 0)

/-- A run that ends here completes. -/
theorem Afoot.endRun (h : Afoot c driver slots plugins ticks s w) (reason : EndReason)
    (last : Option (TickSummary IntegerTime)) (total : UInt64)
    (calls : List (HookCall IntegerTime)) :
    (Simulation.endRun s w reason last total calls).result = .ok ⟨reason, last, total⟩ ∧
      Settled c slots ticks (Simulation.endRun s w reason last total calls).world := by
  have ended := h.unseen w.events (w.operator.setEnd reason)
  have stage := ended.stage.of_window w.environment.window.close
  have equipped : Equipped c.recordState plugins (rowsPerTick slots * ticks)
      { w with operator := w.operator.setEnd reason }.closeTick.2 :=
    ended.equipped.of_eq rfl rfl rfl
  obtain ⟨w', calls', completed, environment, rows⟩ := equipped.complete stage
  rw [← h.added] at completed
  obtain ⟨ok, world⟩ := Simulation.endRun_of_completed h.runnable completed
  rw [world]
  refine ⟨ok, ?_, rows⟩
  obtain ⟨r, courses, -⟩ := h.courses
  obtain ⟨b, hosts, shows⟩ := stage.board
  have courses : Courses c slots (fun _ => ticks) r
      { w with operator := w.operator.setEnd reason }.closeTick.2 := courses.of_eq rfl rfl
  obtain rfl := courses.ring_eq hosts shows.peopled.sorted
  rw [environment]
  exact ⟨b, hosts, shows, courses.follows⟩

/-! ## The whole run -/

/-- The rounds reach the limit of ticks, and the demonstration is completed there. -/
theorem Afoot.rounds (h : Afoot c driver slots plugins ticks s w)
    (bounded : w.operator.Bounded limit) (left : ticks < limit.toNat) {n : Nat}
    (enough : limit.toNat ≤ ticks + n) (last : Option (TickSummary IntegerTime)) {total : UInt64}
    (count : total.toNat = ticks) (calls : List (HookCall IntegerTime)) :
    let ran := Simulation.rounds supervisor n s w last total calls
    (∃ final, ran.result = .ok ⟨.maxTicksReached, final, limit⟩) ∧
      Settled c slots limit.toNat ran.world ∧
      (Simulation.summaries supervisor n s w).length = limit.toNat - ticks ∧
      ∀ summary ∈ Simulation.summaries supervisor n s w, Regular slots.length summary := by
  -- there are at least as many rounds as ticks that are left, and a round uses up one of each
  induction n generalizing ticks s w last total calls with
  | zero => omega
  | succ n ih =>
    obtain ⟨summary, s', w', calls', turned, regular, afoot, bounded'⟩ :=
      h.turn_bounded bounded left
    have count' : (Word.bump total).toNat = ticks + 1 := by
      rw [Word.toNat_bump, count]
      have := limit.toNat_lt
      omega
    rw [Simulation.rounds, Simulation.summaries, turned]
    dsimp only
    by_cases final : limit.toNat = ticks + 1
    · have all : Word.bump total = limit := UInt64.toNat_inj.1 (count'.trans final.symm)
      rw [if_pos final, all]
      obtain ⟨ok, settled⟩ := afoot.endRun .maxTicksReached (some summary) limit (calls ++ calls')
      rw [← final] at settled
      refine ⟨⟨some summary, ok⟩, settled, ?_, ?_⟩
      · rw [final, Nat.add_sub_cancel_left]
        rfl
      · intro other mem
        obtain rfl := List.mem_singleton.1 mem
        exact regular
    · rw [if_neg final]
      dsimp only
      obtain ⟨ran, settled, length, others⟩ := ih afoot bounded' (by omega) (by omega)
        (some summary) count' (calls ++ calls')
      refine ⟨ran, settled, ?_, ?_⟩
      · rw [List.length_cons, length]
        omega
      · exact List.forall_mem_cons.2 ⟨regular, others⟩

/-- Two rows for each tick, once somebody walks. -/
lemma rows_of_ticks (recordState : Bool) (slots : List Slot) (ticks : Nat) :
    (if recordState then rowsPerTick slots * ticks else 0) =
      if recordState = true ∧ 0 < slots.length then 2 * ticks else 0 := by
  cases recordState with
  | false => rfl
  | true =>
    rw [if_pos rfl, rowsPerTick]
    cases slots with
    | nil => exact Nat.zero_mul ticks
    | cons slot rest => exact (if_pos ⟨rfl, Nat.succ_pos _⟩).symm

/-- The result of a run that has settled is collected. -/
lemma Settled.collect (h : Settled c slots ticks w) (run : RunResult IntegerTime) :
    ∃ ring, Scenario.collect c.recordState run w = .ok
        { run := run
          ring := ring
          tally := min (slots.length * ticks) maxUInt64
          recordedRows :=
            if c.recordState = true ∧ 0 < slots.length then 2 * ticks else 0 } ∧
      ring.Follows c.ringSize c.seed (slots.map fun slot => slot.participant.id)
        fun _ => ticks := by
  obtain ⟨b, hosts, shows, follows⟩ := h.board
  have ring : Ring.ofStore w.environment.store = .ok b.ring := by
    rw [hosts.store]
    exact shows.load_ring
  have tally : Tally.ofStore w.environment.store = min (slots.length * ticks) maxUInt64 := by
    rw [hosts.store]
    exact shows.load_tally
  refine ⟨b.ring, ?_, follows⟩
  rw [Scenario.collect, ring, h.rows, tally, rows_of_ticks]

/-! ## From the start -/

variable {config : Config} {ids : Identifiers} {operator : Operator}

/-- The walkers and the plugins join, and the demonstration is ready for its first tick. -/
theorem setUp_afoot (config : Config) (ring : config.scenario.ringSize ≠ 0)
    (distinct : ids.Distinct config.scenario.walkers.toNat) (operator : Operator) :
    ∃ slots plugins w, setUp config operator ids =
        .ok (equipped config.driver ids slots config.scenario.walkers.toNat plugins, w) ∧
      slots.length = config.scenario.walkers.toNat ∧ Numbered ids slots ∧
      Afoot config.scenario config.driver slots plugins 0
        (equipped config.driver ids slots config.scenario.walkers.toNat plugins) w ∧
      w.operator = operator := by
  have start := stage_world config.scenario config.scenario.recordState operator
  have courses := courses_world config.scenario config.scenario.recordState operator
  have count : 0 + ((List.range config.scenario.walkers.toNat).map walkerName).length =
      config.scenario.walkers.toNat := by
    rw [List.length_map, List.length_range, Nat.zero_add]
  obtain ⟨slots, spawned, r, ok, joins, length, stage, courses', collided, numbered, untouched⟩ :=
    spawnFrom_stage ring distinct _ List.length_nil count start courses rfl rfl nofun
      fun _ _ _ => rfl
  obtain ⟨plugins, added, equips, stage', equipped', environment, walkers, controls⟩ :=
    addPlugins_equipped stage untouched
  have nobody : simulation config.driver ids = joined config.driver ids [] 0 := rfl
  refine ⟨slots, plugins, _, ?_, length, numbered, ?_, controls⟩
  · rw [setUp]
    dsimp only
    rw [registry_eq ring]
    dsimp only
    rw [Simulation.spawn, nobody, ok]
    dsimp only
    rw [joins, added, equips]
  · have few : slots.length < 4294967296 := by
      rw [length]
      exact config.scenario.walkers.toNat_lt
    have courses₀ := courses'.of_eq (congrArg Environment.store environment) walkers
    rw [← length] at collided
    exact ⟨ring, few, nofun, ⟨0, rfl, rfl⟩, rfl, rfl, rfl, stage', ⟨r, courses₀, fun _ => collided⟩,
      equipped'⟩

/-- A demonstration whose walkers step in turn is ready for its first tick. -/
theorem setUp_between (ring : config.scenario.ringSize ≠ 0)
    (sequential : config.driver.execution = .sequential)
    (distinct : ids.Distinct config.scenario.walkers.toNat) (operator : Operator) :
    ∃ slots plugins w, setUp config operator ids =
        .ok (equipped config.driver ids slots config.scenario.walkers.toNat plugins, w) ∧
      slots.length = config.scenario.walkers.toNat ∧ Numbered ids slots ∧
      Between config.scenario config.driver slots plugins 0
        (equipped config.driver ids slots config.scenario.walkers.toNat plugins) w ∧
      w.operator = operator := by
  obtain ⟨slots, plugins, w, start, length, numbered, afoot, controls⟩ :=
    setUp_afoot config ring distinct operator
  exact ⟨slots, plugins, w, start, length, numbered, ⟨afoot, sequential⟩, controls⟩

/-- The summaries of the ticks of a demonstration, of which there are none when it cannot be set
up. -/
def summaries (config : Config) (operator : Operator) (ids : Identifiers) :
    List (TickSummary IntegerTime) :=
  match setUp config operator ids with
  | .error _ => []
  | .ok (s, w) => Simulation.summaries supervisor s.roundsLeft s w

/-- A result is about the run it was collected for. -/
lemma collect_run {recordState : Bool} {run : RunResult IntegerTime} {result : Result}
    (ok : Scenario.collect recordState run w = .ok result) : result.run = run := by
  rw [Scenario.collect] at ok
  split at ok
  · cases ok
  · cases ok
  · obtain rfl := Except.ok.inj ok
    rfl

/-- A set-up that fails gives no result. -/
lemma result_of_setUp_error {e : Ended} (failed : setUp config operator ids = .error e)
    (result : Result) : e.result ≠ .ok result := by
  rw [setUp] at failed
  dsimp only at failed
  split at failed
  · obtain rfl := Except.error.inj failed
    exact nofun
  · split at failed
    · obtain rfl := Except.error.inj failed
      exact nofun
    · split at failed
      · obtain rfl := Except.error.inj failed
        exact nofun
      · cases failed

/-- A demonstration that has a result shows the last of its summaries, and counts them. -/
theorem result_shows_summaries {result : Result}
    (ok : (run config operator ids).result = .ok result) :
    result.run.finalSummary = (summaries config operator ids).getLast? ∧
      result.run.totalTicks.toNat = min (summaries config operator ids).length maxUInt64 := by
  rw [run] at ok
  rw [summaries]
  cases start : setUp config operator ids with
  | error e =>
    rw [start] at ok
    exact absurd ok (result_of_setUp_error start result)
  | ok begun =>
    obtain ⟨s, w⟩ := begun
    rw [start] at ok
    dsimp only at ok ⊢
    cases ran : (s.run w supervisor).result with
    | error e =>
      rw [ran] at ok
      cases ok
    | ok last =>
      rw [ran] at ok
      rw [collect_run ok]
      exact Simulation.run_shows_summaries ran

/-- A demonstration under controls that bound nothing but the ticks ends at their limit. Everybody
has walked in every tick, and nothing has failed. -/
theorem run_reaches_limit (config : Config) (ids : Identifiers) (interval : UInt64)
    (ring : config.scenario.ringSize ≠ 0) (limited : config.simulation.maxTicks ≠ 0)
    (untimed : config.simulation.maxRealTimeSeconds = 0)
    (sequential : config.driver.execution = .sequential)
    (distinct : ids.Distinct config.scenario.walkers.toNat) :
    let operator := Operator.new interval config.simulation
    let walkers := config.scenario.walkers.toNat
    let ticks := config.simulation.maxTicks.toNat
    ∃ result, (run config operator ids).result = .ok result ∧
      result.run.endReason = .maxTicksReached ∧
      result.run.totalTicks = config.simulation.maxTicks ∧
      (summaries config operator ids).length = ticks ∧
      (∀ summary ∈ summaries config operator ids, Regular walkers summary) ∧
      result.ring.positions.size = walkers ∧
      result.ring.positions.keys.Perm ((List.range walkers).map ids.participants) ∧
      (∀ cell ∈ result.ring.cells, cell < config.scenario.ringSize) ∧
      result.tally = min (walkers * ticks) maxUInt64 ∧
      result.recordedRows =
        if config.scenario.recordState = true ∧ 0 < walkers then 2 * ticks else 0 := by
  intro operator walkers ticks
  obtain ⟨slots, plugins, w, start, length, numbered, between, controls⟩ :=
    setUp_between ring sequential distinct operator
  have bounded : w.operator.Bounded config.simulation.maxTicks := by
    rw [controls]
    exact Operator.bounded_new interval untimed
  have left : 0 < config.simulation.maxTicks.toNat :=
    Nat.pos_of_ne_zero fun zero => limited (UInt64.toNat_inj.1 zero)
  -- there are as many rounds as there are words, so the limit of ticks is among them
  have enough : config.simulation.maxTicks.toNat ≤
      0 + (equipped config.driver ids slots walkers plugins).roundsLeft := by
    show _ ≤ 0 + (18446744073709551616 - 0)
    exact Nat.le_of_lt (Nat.lt_of_lt_of_eq config.simulation.maxTicks.toNat_lt rfl)
  obtain ⟨⟨final, ok⟩, settled, count, regular⟩ :=
    between.rounds bounded left enough none UInt64.toNat_zero []
  obtain ⟨ring, collected, peopled⟩ :=
    settled.collect ⟨.maxTicksReached, final, config.simulation.maxTicks⟩
  rw [Numbered, length] at numbered
  rw [length] at collected regular
  have keys : ring.positions.keys.Perm ((List.range walkers).map ids.participants) := by
    rw [← numbered]
    exact peopled.keys
  have size : ring.positions.size = walkers := by
    have size := keys.length_eq
    rwa [OrderedMap.keys, List.length_map, List.length_map, List.length_range] at size
  rw [summaries, run, start]
  dsimp only
  rw [Simulation.run, ok]
  exact ⟨_, collected, rfl, rfl, count, regular, size, keys, peopled.inside, rfl, rfl⟩

/-- Identifiers that are counted. -/
def countedIdentifiers : Identifiers :=
  ⟨fun n => ⟨BitVec.ofNat 128 n⟩, fun n => ⟨BitVec.ofNat 128 n⟩⟩

/-- The default configuration is run for a hundred ticks. -/
theorem run_reaches_limit_by_default :
    ∃ result, (run {} (.new 0 {}) countedIdentifiers).result = .ok result ∧
      result.run.endReason = .maxTicksReached ∧ result.run.totalTicks = 100 ∧
      (summaries {} (.new 0 {}) countedIdentifiers).length = 100 ∧
      result.ring.positions.size = 4 ∧ result.tally = 400 ∧ result.recordedRows = 200 := by
  have distinct : countedIdentifiers.Distinct 4 := by
    intro i j below_i below_j same
    have same := congrArg (fun id => id.value.toNat) same
    simp only [countedIdentifiers, BitVec.toNat_ofNat] at same
    omega
  obtain ⟨result, ok, reason, total, count, -, size, -, -, tally, rows⟩ :=
    run_reaches_limit {} countedIdentifiers 0 (by decide) (by decide) rfl rfl distinct
  exact ⟨result, ok, reason, total, count, size, tally, rows⟩

end Cadence.Scenario
