import Cadence.Proofs.Demonstration

/-!
# The walks of demonstrations

What a round of a demonstration comes to is told by its controls and by the ticks before it
(`Afoot.turns`): it neither depends on who walks nor on how the walkers are stepped. After every
tick that a run reaches, each walker stands where its own course has led it (`Afoot.worlds`).
-/

namespace Cadence

namespace Simulation

variable {M T : Type} [Time T]

/-- The worlds after the ticks in at most the given number of rounds. -/
def worlds (supervisor : Supervisor M T) : Nat → Simulation M T → World M → List (World M)
  | 0, _, _ => []
  | n + 1, s, w =>
    let round := s.turn w supervisor
    match round.turn with
    | .ended _ | .failed _ => []
    | .limited _ => [round.world]
    | .ticked _ => round.world :: worlds supervisor n round.simulation round.world

/-- There is a world for each summary. -/
lemma length_worlds (supervisor : Supervisor M T) (n : Nat) (s : Simulation M T) (w : World M) :
    (worlds supervisor n s w).length = (summaries supervisor n s w).length := by
  induction n generalizing s w with
  | zero => rfl
  | succ n ih =>
    rw [worlds, summaries]
    cases (s.turn w supervisor).turn with
    | ended reason | failed cause | limited summary => rfl
    | ticked summary => exact congrArg (· + 1) (ih _ _)

end Simulation

namespace Scenario

variable {c : ScenarioConfig} {driver : DriverConfig} {slots : List Slot} {ticks : Nat}
  {plugins : List (PluginSlot Memory IntegerTime)} {s : Simulation Memory IntegerTime}
  {w : World Memory}

/-! ## What a round comes to -/

/-- What the next tick of a demonstration comes to after some ticks. -/
def nextTick (walkers plugins ticks : Nat) (o : Operator) : Turn IntegerTime :=
  let tick := UInt64.ofNat (ticks + 1)
  if 18446744073709551616 ≤ ticks + 1 then
    .failed (.tick (.clock (.overflow (Time.text (⟨UInt64.ofNat ticks⟩ : IntegerTime)))))
  else if o.tickLimitReached tick then .limited (tickSummary walkers plugins tick)
  else .ticked (tickSummary walkers plugins tick)

/-- What the next round of a demonstration comes to after some ticks. -/
def nextTurn (walkers plugins ticks : Nat) (o : Operator) : Turn IntegerTime :=
  if o.waits then .failed .stalled
  else
    match Simulation.reasonToEnd? o with
    | some reason => .ended reason
    | none => nextTick walkers plugins ticks o

/-- A round that comes to what the controls and the ticks before it tell; the demonstration goes on
as long as it has not ended. -/
structure Turns (c : ScenarioConfig) (driver : DriverConfig) (slots : List Slot)
    (plugins : List (PluginSlot Memory IntegerTime)) (ticks : Nat)
    (s : Simulation Memory IntegerTime) (w : World Memory) (round : Round Memory IntegerTime) :
    Prop where
  turn : round.turn = nextTurn slots.length plugins.length ticks w.operator
  ended : ∀ reason, round.turn = .ended reason → round.simulation = s ∧ round.world = w
  limited : ∀ summary, round.turn = .limited summary →
    Afoot c driver slots plugins (ticks + 1) round.simulation round.world
  ticked : ∀ summary, round.turn = .ticked summary →
    Afoot c driver slots plugins (ticks + 1) round.simulation round.world ∧
      round.world.operator = w.operator.pass w.operator.tickIntervalMs.toNat

/-- A clock that has no word for the next tick is stuck. -/
lemma Afoot.stuck (h : Afoot c driver slots plugins ticks s w)
    (full : 18446744073709551616 ≤ ticks + 1) :
    s.clock.increment = .error (.overflow (Time.text (⟨UInt64.ofNat ticks⟩ : IntegerTime))) := by
  obtain ⟨word, clock, count⟩ := h.clock
  have none : Word.succ? word = none := if_neg (by omega)
  have never : Time.next? (⟨word⟩ : IntegerTime) = .none := by
    show (Word.succ? word).map IntegerTime.mk = _
    rw [none]
    rfl
  rw [clock, Clock.increment]
  dsimp only
  rw [never, ← count, UInt64.ofNat_toNat]

/-- Walkers that are afoot take turns. -/
theorem Afoot.turns (h : Afoot c driver slots plugins ticks s w) :
    Turns c driver slots plugins ticks s w (s.turn w supervisor) := by
  cases waits : w.operator.waits with
  | true =>
    rw [Simulation.turn_of_waits waits rfl]
    exact ⟨by rw [nextTurn, waits, if_pos rfl], nofun, nofun, nofun⟩
  | false =>
    cases unended : Simulation.reasonToEnd? w.operator with
    | some reason =>
      rw [Simulation.turn_of_reason waits unended]
      refine ⟨?_, fun _ _ => ⟨rfl, rfl⟩, nofun, nofun⟩
      rw [nextTurn, waits, if_neg Bool.false_ne_true, unended]
    | none =>
      have next : nextTurn slots.length plugins.length ticks w.operator =
          nextTick slots.length plugins.length ticks w.operator := by
        rw [nextTurn, waits, if_neg Bool.false_ne_true, unended]
      rcases Nat.lt_or_ge (ticks + 1) 18446744073709551616 with bound | full
      · obtain ⟨tick, s', w', calls, count, afoot, operator, turned⟩ := h.turn waits unended bound
        obtain rfl : tick = UInt64.ofNat (ticks + 1) := by rw [← count, UInt64.ofNat_toNat]
        rw [nextTick, if_neg (Nat.not_le.2 bound)] at next
        rw [turned]
        by_cases reached : w.operator.tickLimitReached (UInt64.ofNat (ticks + 1)) = true
        · rw [if_pos reached] at next ⊢
          exact ⟨next.symm, nofun, fun _ _ => afoot, nofun⟩
        · rw [if_neg reached] at next ⊢
          exact ⟨next.symm, nofun, nofun, fun _ _ => ⟨afoot.unseen w'.events _, rfl⟩⟩
      · -- the clock is at the last word, so the tick fails before its window opens
        have failed := congrArg Outcome.result
          (Simulation.runTick_of_stuck (w := w) h.runnable (h.stuck full))
        rw [nextTick, if_pos full] at next
        rw [Simulation.turn_of_failed waits unended failed]
        exact ⟨next.symm, nofun, nofun, nofun⟩

/-! ## The worlds of a run -/

/-- After every tick that the rounds of a demonstration reach, it is between two ticks. -/
theorem Afoot.worlds (h : Afoot c driver slots plugins ticks s w) {n t : Nat} {w' : World Memory}
    (after : (Simulation.worlds supervisor n s w)[t]? = some w') :
    ∃ s', Afoot c driver slots plugins (ticks + (t + 1)) s' w' := by
  induction n generalizing ticks s w t with
  | zero => cases after
  | succ n ih =>
    have turns := h.turns
    rw [Simulation.worlds] at after
    cases turned : (s.turn w supervisor).turn with
    | ended reason =>
      rw [turned] at after
      cases after
    | failed cause =>
      rw [turned] at after
      cases after
    | limited summary =>
      rw [turned] at after
      cases t with
      | zero =>
        obtain rfl := Option.some.inj after
        exact ⟨_, turns.limited summary turned⟩
      | succ t => cases after
    | ticked summary =>
      rw [turned] at after
      obtain ⟨afoot, -⟩ := turns.ticked summary turned
      cases t with
      | zero =>
        obtain rfl := Option.some.inj after
        exact ⟨_, afoot⟩
      | succ t =>
        obtain ⟨s', later⟩ := ih afoot after
        rw [Nat.add_assoc, Nat.add_comm 1] at later
        exact ⟨s', later⟩

/-- The worlds of a demonstration: the one in which it has been set up, and those after its
ticks. -/
def worlds (config : Config) (operator : Operator) (ids : Identifiers) : List (World Memory) :=
  match setUp config operator ids with
  | .error _ => []
  | .ok (s, w) => w :: Simulation.worlds supervisor s.roundsLeft s w

variable {config : Config} {operator : Operator} {ids : Identifiers}

/-- After every tick that a demonstration reaches, each walker stands where its own course has led
it; how often they have collided is told by their courses, if they step in turn. -/
theorem courses_of_worlds (ring : config.scenario.ringSize ≠ 0)
    (distinct : ids.Distinct config.scenario.walkers.toNat) {t : Nat}
    (after : (worlds config operator ids)[t]? = some w) :
    ∃ r, Ring.ofStore w.environment.store = .ok r ∧
      (∀ i < config.scenario.walkers.toNat, r.positions.get? (ids.participants i) =
        some (Walker.cellOf config.scenario.ringSize config.scenario.seed i t)) ∧
      (config.driver.execution = .sequential → r.collisions =
        Walker.collisions config.scenario.ringSize config.scenario.seed
          config.scenario.walkers.toNat t) := by
  obtain ⟨slots, plugins, start, begun, length, numbered, afoot, -⟩ :=
    setUp_afoot config ring distinct operator
  rw [worlds, begun] at after
  obtain ⟨s, here⟩ : ∃ s, Afoot config.scenario config.driver slots plugins t s w := by
    cases t with
    | zero =>
      obtain rfl := Option.some.inj after
      exact ⟨_, afoot⟩
    | succ t =>
      obtain ⟨s, later⟩ := afoot.worlds after
      rw [Nat.zero_add] at later
      exact ⟨s, later⟩
  obtain ⟨r, courses, collided⟩ := here.courses
  rw [length] at collided
  refine ⟨r, courses.stored, fun i below => courses.follows.stands i _ ?_, collided⟩
  rw [numbered, length, List.getElem?_map, List.getElem?_range below, Option.map_some]

/-- A demonstration under controls that bound nothing but the ticks reaches all up to their
limit. -/
theorem exists_world (config : Config) (ids : Identifiers) (interval : UInt64)
    (ring : config.scenario.ringSize ≠ 0) (limited : config.simulation.maxTicks ≠ 0)
    (untimed : config.simulation.maxRealTimeSeconds = 0)
    (distinct : ids.Distinct config.scenario.walkers.toNat) {t : Nat}
    (within : t ≤ config.simulation.maxTicks.toNat) :
    ∃ w, (worlds config (.new interval config.simulation) ids)[t]? = some w := by
  obtain ⟨slots, plugins, w, begun, -, -, afoot, controls⟩ :=
    setUp_afoot config ring distinct (.new interval config.simulation)
  have bounded : w.operator.Bounded config.simulation.maxTicks := by
    rw [controls]
    exact Operator.bounded_new interval untimed
  have left : 0 < config.simulation.maxTicks.toNat :=
    Nat.pos_of_ne_zero fun zero => limited (UInt64.toNat_inj.1 zero)
  have enough : config.simulation.maxTicks.toNat ≤ 0 + (equipped config.driver ids slots
      config.scenario.walkers.toNat plugins).roundsLeft := by
    show _ ≤ 0 + (18446744073709551616 - 0)
    exact Nat.le_of_lt (Nat.lt_of_lt_of_eq config.simulation.maxTicks.toNat_lt rfl)
  obtain ⟨-, -, count, -⟩ := afoot.rounds bounded left enough none UInt64.toNat_zero []
  rw [worlds, begun]
  refine ⟨_, List.getElem?_eq_getElem ?_⟩
  rw [List.length_cons, Simulation.length_worlds, count]
  omega

/-! ## Two runs -/

/-- Where a walker stands after a tick is told by its seed, the size of the ring and the tick alone,
whatever else two demonstrations differ in: the identifiers, the number of walkers, the policies,
the plugins and the controls. With as many walkers they have collided as often. -/
theorem walks_reproducible (config₁ config₂ : Config) (operator₁ operator₂ : Operator)
    (ids₁ ids₂ : Identifiers) (sequential₁ : config₁.driver.execution = .sequential)
    (sequential₂ : config₂.driver.execution = .sequential)
    (seed : config₁.scenario.seed = config₂.scenario.seed)
    (size : config₁.scenario.ringSize = config₂.scenario.ringSize)
    (ring : config₁.scenario.ringSize ≠ 0)
    (distinct₁ : ids₁.Distinct config₁.scenario.walkers.toNat)
    (distinct₂ : ids₂.Distinct config₂.scenario.walkers.toNat) {t : Nat} {w₁ w₂ : World Memory}
    (after₁ : (worlds config₁ operator₁ ids₁)[t]? = some w₁)
    (after₂ : (worlds config₂ operator₂ ids₂)[t]? = some w₂) :
    ∃ r₁ r₂, Ring.ofStore w₁.environment.store = .ok r₁ ∧
      Ring.ofStore w₂.environment.store = .ok r₂ ∧
      (∀ i < min config₁.scenario.walkers.toNat config₂.scenario.walkers.toNat,
        let cell := (Walker.course config₁.scenario.ringSize
          (.seeded (config₁.scenario.seed + UInt64.ofNat i)) t).1
        r₁.positions.get? (ids₁.participants i) = some cell ∧
          r₂.positions.get? (ids₂.participants i) = some cell) ∧
      (config₁.scenario.walkers = config₂.scenario.walkers → r₁.collisions = r₂.collisions) := by
  -- the runs are not compared with each other but with the courses, which know no identifiers
  obtain ⟨r₁, stored₁, stands₁, collided₁⟩ := courses_of_worlds ring distinct₁ after₁
  rw [size] at ring
  obtain ⟨r₂, stored₂, stands₂, collided₂⟩ := courses_of_worlds ring distinct₂ after₂
  refine ⟨r₁, r₂, stored₁, stored₂, fun i below => ⟨stands₁ i (by omega), ?_⟩, fun walkers => ?_⟩
  · rw [stands₂ i (by omega), ← size, ← seed]
    rfl
  · rw [collided₁ sequential₁, collided₂ sequential₂, size, seed, walkers]

/-- Identifiers that count differ up to the number of words. -/
lemma distinct_counted {n : Nat} (few : n ≤ 4294967296) : countedIdentifiers.Distinct n := by
  intro i j below_i below_j same
  have same := congrArg (fun id => id.value.toNat) same
  simp only [countedIdentifiers, BitVec.toNat_ofNat] at same
  omega

/-- Identifiers that are counted down. -/
def countedDown : Identifiers :=
  ⟨fun n => ⟨BitVec.ofNat 128 (1000 - n)⟩, fun n => ⟨BitVec.ofNat 128 n⟩⟩

/-- The default configuration leads its walkers to the same cells under identifiers in the opposite
order. -/
theorem walks_reproducible_reordered :
    ∃ w₁ w₂ r₁ r₂, (worlds {} (.new 0 {}) countedIdentifiers)[100]? = some w₁ ∧
      (worlds {} (.new 7 {}) countedDown)[100]? = some w₂ ∧
      Ring.ofStore w₁.environment.store = .ok r₁ ∧
      Ring.ofStore w₂.environment.store = .ok r₂ ∧
      (∀ i < 4, r₁.positions.get? (countedIdentifiers.participants i) =
        r₂.positions.get? (countedDown.participants i)) ∧
      r₁.collisions = r₂.collisions := by
  have up : countedIdentifiers.Distinct 4 := distinct_counted (by decide)
  have down : countedDown.Distinct 4 := by
    intro i j below_i below_j same
    have same := congrArg (fun id => id.value.toNat) same
    simp only [countedDown, BitVec.toNat_ofNat] at same
    omega
  obtain ⟨w₁, after₁⟩ := exists_world {} countedIdentifiers 0 (by decide) (by decide) rfl up
    (Nat.le_refl 100)
  obtain ⟨w₂, after₂⟩ := exists_world {} countedDown 7 (by decide) (by decide) rfl down
    (Nat.le_refl 100)
  obtain ⟨r₁, r₂, stored₁, stored₂, stands, collisions⟩ := walks_reproducible {} {} (.new 0 {})
    (.new 7 {}) countedIdentifiers countedDown rfl rfl rfl rfl (by decide) up down after₁ after₂
  refine ⟨w₁, w₂, r₁, r₂, after₁, after₂, stored₁, stored₂, fun i below => ?_, collisions rfl⟩
  obtain ⟨here, there⟩ := stands i below
  exact here.trans there.symm

end Scenario

end Cadence
