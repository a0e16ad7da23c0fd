import Cadence.Config.Basic
import Cadence.Proofs.Decoding

/-!
# Partial configurations

A configuration may be given in part: some sections, and some fields of each. What is given counts,
everything else has its default (`Config.decode_of_gives`), and names that mean nothing do not
matter. A value that is null, or a number that no field of that name has, is refused whatever stands
beside it (`Config.refuses`).
-/

namespace Cadence

variable {α : Type}

/-! ## Choices -/

/-- The fields of a section that are chosen, if the section is. -/
abbrev Chosen := Option (String → Bool)

namespace Chosen

/-- Whether a field is chosen. -/
def has (chosen : Chosen) (field : String) : Bool := chosen.any fun pick => pick field

/-- The value of a field that is chosen, else the default. -/
def pick (chosen : Chosen) (field : String) (value default : α) : α :=
  if chosen.has field then value else default

end Chosen

namespace BoundsConfig

/-- The names of the fields. -/
def names : List String := ["max_ticks", "max_real_time_seconds"]

/-- The chosen fields of some bounds, and the defaults of the others. -/
def only (c : BoundsConfig) (chosen : Chosen) : BoundsConfig where
  maxTicks := chosen.pick "max_ticks" c.maxTicks 100
  maxRealTimeSeconds := chosen.pick "max_real_time_seconds" c.maxRealTimeSeconds 0

end BoundsConfig

namespace DriverConfig

/-- The names of the fields. -/
def names : List String := ["tick_interval_ms", "execution", "component_failure", "action_failure"]

/-- The chosen fields of some driver settings, and the defaults of the others. -/
def only (c : DriverConfig) (chosen : Chosen) : DriverConfig where
  tickIntervalMs := chosen.pick "tick_interval_ms" c.tickIntervalMs 0
  execution := chosen.pick "execution" c.execution .sequential
  componentFailure := chosen.pick "component_failure" c.componentFailure .abort
  actionFailure := chosen.pick "action_failure" c.actionFailure .carryOn

end DriverConfig

namespace LoggingConfig

/-- The names of the fields. -/
def names : List String := ["level", "format"]

/-- The chosen fields of some logging settings, and the defaults of the others. -/
def only (c : LoggingConfig) (chosen : Chosen) : LoggingConfig where
  level := chosen.pick "level" c.level "info"
  format := chosen.pick "format" c.format .text

end LoggingConfig

namespace ScenarioConfig

/-- The names of the fields. -/
def names : List String := ["walkers", "ring_size", "seed", "record_state"]

/-- The chosen fields of some scenario settings, and the defaults of the others. -/
def only (c : ScenarioConfig) (chosen : Chosen) : ScenarioConfig where
  walkers := chosen.pick "walkers" c.walkers 4
  ringSize := chosen.pick "ring_size" c.ringSize 12
  seed := chosen.pick "seed" c.seed 42
  recordState := chosen.pick "record_state" c.recordState true

end ScenarioConfig

namespace Config

/-- The names of the sections, each with those of its fields. -/
def names : List (String × List String) :=
  [("simulation", BoundsConfig.names), ("driver", DriverConfig.names),
    ("logging", LoggingConfig.names), ("scenario", ScenarioConfig.names)]

/-- The chosen fields of a configuration, and the defaults of all others. -/
def only (c : Config) (chosen : String → Chosen) : Config where
  simulation := c.simulation.only (chosen "simulation")
  driver := c.driver.only (chosen "driver")
  logging := c.logging.only (chosen "logging")
  scenario := c.scenario.only (chosen "scenario")

end Config

/-! ## Objects that give a part -/

/-- Of the fields with the given names an object gives exactly those that are picked, with the
values that they have in another one. -/
def Value.Gives (names : List String) (pick : String → Bool) (whole part : Value) : Prop :=
  ∃ fields, part = .object fields ∧
    ∀ f ∈ names, OrderedMap.find? f fields = if pick f then whole.field? f else none

/-- An object gives exactly the chosen sections, and of each exactly the chosen fields, with the
values that they have in a configuration. What else it gives has names that mean nothing. -/
def Config.Gives (c : Config) (chosen : String → Chosen) (fields : List (String × Value)) : Prop :=
  ∀ s ∈ names, match chosen s.1 with
    | none => OrderedMap.find? s.1 fields = none
    | some pick => ∃ whole part, c.encode.field? s.1 = some whole ∧
        OrderedMap.find? s.1 fields = some part ∧ whole.Gives s.2 pick part

namespace Value

variable {names : List String} {pick : String → Bool} {whole : Value}
  {fields : List (String × Value)} {name : String} {v : Value}
  {decode : Value → Except DecodeError α}

/-- Of fields with one name the last is found. -/
lemma field?_ofFields (l : List (String × Value)) :
    (ofFields l).field? name = OrderedMap.find? name l.reverse :=
  OrderedMap.find?_ofList l name

end Value

/-- A field that is given if it is picked reads back, else it has its default. -/
lemma Record.orElse_of_pick {fields : List (String × Value)} {name : String} {v : Value}
    {decode : Value → Except DecodeError α} {picked : Bool} {a : α} (default : α)
    (given : OrderedMap.find? name fields = if picked then some v else none)
    (reads : decode v = .ok a) :
    (ofObject fields).orElse name decode default = .ok (if picked then a else default) := by
  cases picked with
  | true => exact orElse_of_reads given reads
  | false => exact orElse_of_missing given default

/-! ## Reading a part -/

section Parts

variable {pick : String → Bool} {part : Value}

/-- What is given of the bounds is read, and the rest is as by default. -/
lemma BoundsConfig.decode_of_gives {c : BoundsConfig}
    (gives : c.encode.Gives names pick part) : decode part = .ok (c.only (some pick)) := by
  obtain ⟨fields, rfl, given⟩ := gives
  simp only [encode, Value.field?_ofFields] at given
  have maxTicks := Record.orElse_of_pick (100 : UInt64)
    (given "max_ticks" (by decide)) (Decode.uint64_nat c.maxTicks)
  have maxRealTimeSeconds := Record.orElse_of_pick (0 : UInt64)
    (given "max_real_time_seconds" (by decide)) (Decode.uint64_nat c.maxRealTimeSeconds)
  simp only [decode, Record.ofValue_object, DecodeError.ok_bind, maxTicks, maxRealTimeSeconds,
    Record.done_ofObject]
  rfl

/-- A mode is read back. -/
lemma ExecutionMode.reads (m : ExecutionMode) : Decode.choice choices m.encode = .ok m := by
  cases m <;> rfl

/-- A policy is read back. -/
lemma FailurePolicy.reads (p : FailurePolicy) : Decode.choice choices p.encode = .ok p := by
  cases p <;> rfl

/-- A format is read back. -/
lemma LogFormat.reads (f : LogFormat) : Decode.choice choices f.encode = .ok f := by
  cases f <;> rfl

/-- What is given of the driver's settings is read, and the rest is as by default. -/
lemma DriverConfig.decode_of_gives {c : DriverConfig}
    (gives : c.encode.Gives names pick part) : decode part = .ok (c.only (some pick)) := by
  obtain ⟨fields, rfl, given⟩ := gives
  simp only [encode, Value.field?_ofFields] at given
  have tickIntervalMs := Record.orElse_of_pick (0 : UInt64)
    (given "tick_interval_ms" (by decide)) (Decode.uint64_nat c.tickIntervalMs)
  have execution := Record.orElse_of_pick .sequential
    (given "execution" (by decide)) c.execution.reads
  have componentFailure := Record.orElse_of_pick .abort
    (given "component_failure" (by decide)) c.componentFailure.reads
  have actionFailure := Record.orElse_of_pick .carryOn
    (given "action_failure" (by decide)) c.actionFailure.reads
  simp only [decode, Record.ofValue_object, DecodeError.ok_bind, tickIntervalMs, execution,
    componentFailure, actionFailure, Record.done_ofObject]
  rfl

/-- What is given of the settings for the log is read, and the rest is as by default. -/
lemma LoggingConfig.decode_of_gives {c : LoggingConfig}
    (gives : c.encode.Gives names pick part) : decode part = .ok (c.only (some pick)) := by
  obtain ⟨fields, rfl, given⟩ := gives
  simp only [encode, Value.field?_ofFields] at given
  have level := Record.orElse_of_pick "info" (given "level" (by decide))
    (Decode.text_string c.level)
  have format := Record.orElse_of_pick .text (given "format" (by decide)) c.format.reads
  simp only [decode, Record.ofValue_object, DecodeError.ok_bind, level, format,
    Record.done_ofObject]
  rfl

/-- What is given of the settings of the scenario is read, and the rest is as by default. -/
lemma ScenarioConfig.decode_of_gives {c : ScenarioConfig}
    (gives : c.encode.Gives names pick part) : decode part = .ok (c.only (some pick)) := by
  obtain ⟨fields, rfl, given⟩ := gives
  simp only [encode, Value.field?_ofFields] at given
  have walkers := Record.orElse_of_pick (4 : UInt32) (given "walkers" (by decide))
    (Decode.uint32_nat c.walkers)
  have ringSize := Record.orElse_of_pick (12 : UInt32) (given "ring_size" (by decide))
    (Decode.uint32_nat c.ringSize)
  have seed := Record.orElse_of_pick (42 : UInt64) (given "seed" (by decide))
    (Decode.uint64_nat c.seed)
  have recordState := Record.orElse_of_pick true (given "record_state" (by decide))
    (Decode.bool_bool c.recordState)
  simp only [decode, Record.ofValue_object, DecodeError.ok_bind, walkers, ringSize, seed,
    recordState, Record.done_ofObject]
  rfl

end Parts

/-- A section that is chosen gives its chosen fields, one that is not gives the defaults. -/
lemma Record.orElse_of_section {fields : List (String × Value)} {name : String}
    {names : List String} {chosen : Chosen} {whole : Value}
    {decode : Value → Except DecodeError α} {default : α} {result : Chosen → α}
    (given : match chosen with
      | none => OrderedMap.find? name fields = none
      | some pick => ∃ whole' part, some whole = some whole' ∧
          OrderedMap.find? name fields = some part ∧ whole'.Gives names pick part)
    (missing : result none = default)
    (reads : ∀ {pick part}, whole.Gives names pick part → decode part = .ok (result (some pick))) :
    (ofObject fields).orElse name decode default = .ok (result chosen) := by
  cases chosen with
  | none => rw [orElse_of_missing given, missing]
  | some pick =>
    obtain ⟨whole', part, same, found, gives⟩ := given
    cases same
    rw [orElse_of_given found, reads gives]

namespace Config

variable {c : Config} {chosen : String → Chosen} {fields : List (String × Value)}

/-- A configuration that is given in part has the defaults elsewhere. -/
theorem decode_of_gives (gives : c.Gives chosen fields) :
    decode (.object fields) = .ok (c.only chosen) := by
  simp only [Gives, encode, Value.field?_ofFields] at gives
  have simulation : (Record.ofObject fields).orElse "simulation" BoundsConfig.decode {} =
      .ok (c.simulation.only (chosen "simulation")) :=
    Record.orElse_of_section (gives ("simulation", BoundsConfig.names) (by decide)) rfl
      BoundsConfig.decode_of_gives
  have driver : (Record.ofObject fields).orElse "driver" DriverConfig.decode {} =
      .ok (c.driver.only (chosen "driver")) :=
    Record.orElse_of_section (gives ("driver", DriverConfig.names) (by decide)) rfl
      DriverConfig.decode_of_gives
  have logging : (Record.ofObject fields).orElse "logging" LoggingConfig.decode {} =
      .ok (c.logging.only (chosen "logging")) :=
    Record.orElse_of_section (gives ("logging", LoggingConfig.names) (by decide)) rfl
      LoggingConfig.decode_of_gives
  have scenario : (Record.ofObject fields).orElse "scenario" ScenarioConfig.decode {} =
      .ok (c.scenario.only (chosen "scenario")) :=
    Record.orElse_of_section (gives ("scenario", ScenarioConfig.names) (by decide)) rfl
      ScenarioConfig.decode_of_gives
  simp only [decode, Record.ofValue_object, DecodeError.ok_bind, simulation, driver, logging,
    scenario, Record.done_ofObject]
  rfl

end Config

/-! ## Refusals -/

/-- Null, or a number that a field with the given greatest value does not take: a fraction, a
negative one, or one above. A field without a greatest value takes no number. -/
def Value.Unfit (greatest? : Option Nat) : Value → Prop
  | .null => True
  | .number (.float _) => True
  | .number (.int n) => n < 0 ∨ ∀ greatest, greatest? = some greatest → greatest < n
  | _ => False

/-- The greatest value of a field that takes unsigned numbers. -/
def Config.greatest? (field : String) : Option Nat :=
  if field ∈ ["max_ticks", "max_real_time_seconds", "tick_interval_ms", "seed"] then some maxUInt64
  else if field ∈ ["walkers", "ring_size"] then some 4294967295
  else none

/-- A value that is not decoded. -/
def Refused (x : Except DecodeError α) : Prop := ∃ e, x = .error e

namespace Refused

variable {β : Type} {x : Except DecodeError α} {f : α → Except DecodeError β}

/-- What goes on from something refused is refused. -/
lemma bind (h : Refused x) : Refused (x >>= f) := by
  obtain ⟨e, rfl⟩ := h
  exact ⟨e, rfl⟩

/-- What always ends in something refused is refused. -/
lemma after (h : ∀ a, Refused (f a)) : Refused (x >>= f) := by
  cases x with
  | error e => exact ⟨e, rfl⟩
  | ok a => exact h a

/-- Applying a function accepts nothing. -/
lemma map {f : α → β} (h : Refused x) : Refused (x.map f) := by
  obtain ⟨e, rfl⟩ := h
  exact ⟨e, rfl⟩

/-- A field whose value is refused is refused, whatever it would be without a value. -/
lemma orElse {fields : List (String × Value)} {name : String} {v : Value}
    {decode : Value → Except DecodeError α} {default : α}
    (given : OrderedMap.find? name fields = some v) (h : Refused (decode v)) :
    Refused ((Record.ofObject fields).orElse name decode default) := by
  rwa [Record.orElse_of_given given]

end Refused

namespace Value.Unfit

variable {v : Value}

/-- What fits no integer up to the bound is refused where one is expected. -/
lemma integer {hi : Nat} (unfit : v.Unfit (some hi)) (expected : String) :
    Refused (Decode.integer 0 hi expected v) := by
  cases v with
  | null => exact ⟨_, rfl⟩
  | number n =>
    cases n with
    | float x => exact ⟨_, rfl⟩
    | int n =>
      have outside : ¬(0 ≤ n ∧ n ≤ hi) := by
        rcases unfit with negative | above
        · omega
        · have := above hi rfl
          omega
      rw [Decode.integer, if_neg outside]
      exact ⟨_, rfl⟩
  | _ => cases unfit

/-- Likewise a word. -/
lemma uint64 (unfit : v.Unfit (some maxUInt64)) : Refused (Decode.uint64 v) :=
  (unfit.integer "u64").map

/-- Likewise half a word. -/
lemma uint32 (unfit : v.Unfit (some 4294967295)) : Refused (Decode.uint32 v) :=
  (unfit.integer "u32").map

/-- What is no text is no choice. -/
lemma choice (unfit : v.Unfit none) (choices : List (String × α)) :
    Refused (Decode.choice choices v) := by
  cases v with
  | null | number => exact ⟨_, rfl⟩
  | _ => cases unfit

/-- What is no text is refused as one. -/
lemma text (unfit : v.Unfit none) : Refused (Decode.text v) := by
  cases v with
  | null | number => exact ⟨_, rfl⟩
  | _ => cases unfit

/-- What is no truth value is refused as one. -/
lemma bool (unfit : v.Unfit none) : Refused (Decode.bool v) := by
  cases v with
  | null | number => exact ⟨_, rfl⟩
  | _ => cases unfit

end Value.Unfit

/-- A section that is null, or that gives a field a value which does not fit it. -/
def Value.Spoils (names : List String) (part : Value) : Prop :=
  part = .null ∨ ∃ fields f v, part = .object fields ∧ f ∈ names ∧
    OrderedMap.find? f fields = some v ∧ v.Unfit (Config.greatest? f)

section Sections

variable {part : Value}

/-- Bounds are refused if one of them has an unfit value. -/
lemma BoundsConfig.refuses (spoils : part.Spoils names) : Refused (decode part) := by
  obtain rfl | ⟨fields, f, v, rfl, known, given, unfit⟩ := spoils
  · exact ⟨_, rfl⟩
  rw [decode, Record.ofValue_object, DecodeError.ok_bind]
  simp only [names, List.mem_cons, List.not_mem_nil, or_false] at known
  rcases known with rfl | rfl
  · exact .bind (.orElse given unfit.uint64)
  · exact .after fun _ => .bind (.orElse given unfit.uint64)

/-- So are the driver's settings. -/
lemma DriverConfig.refuses (spoils : part.Spoils names) : Refused (decode part) := by
  obtain rfl | ⟨fields, f, v, rfl, known, given, unfit⟩ := spoils
  · exact ⟨_, rfl⟩
  rw [decode, Record.ofValue_object, DecodeError.ok_bind]
  simp only [names, List.mem_cons, List.not_mem_nil, or_false] at known
  rcases known with rfl | rfl | rfl | rfl
  · exact .bind (.orElse given unfit.uint64)
  · exact .after fun _ => .bind (.orElse given (unfit.choice _))
  · exact .after fun _ => .after fun _ => .bind (.orElse given (unfit.choice _))
  · exact .after fun _ => .after fun _ => .after fun _ => .bind (.orElse given (unfit.choice _))

/-- So are the settings for the log. -/
lemma LoggingConfig.refuses (spoils : part.Spoils names) : Refused (decode part) := by
  obtain rfl | ⟨fields, f, v, rfl, known, given, unfit⟩ := spoils
  · exact ⟨_, rfl⟩
  rw [decode, Record.ofValue_object, DecodeError.ok_bind]
  simp only [names, List.mem_cons, List.not_mem_nil, or_false] at known
  rcases known with rfl | rfl
  · exact .bind (.orElse given unfit.text)
  · exact .after fun _ => .bind (.orElse given (unfit.choice _))

/-- So are those of the scenario. -/
lemma ScenarioConfig.refuses (spoils : part.Spoils names) : Refused (decode part) := by
  obtain rfl | ⟨fields, f, v, rfl, known, given, unfit⟩ := spoils
  · exact ⟨_, rfl⟩
  rw [decode, Record.ofValue_object, DecodeError.ok_bind]
  simp only [names, List.mem_cons, List.not_mem_nil, or_false] at known
  rcases known with rfl | rfl | rfl | rfl
  · exact .bind (.orElse given unfit.uint32)
  · exact .after fun _ => .bind (.orElse given unfit.uint32)
  · exact .after fun _ => .after fun _ => .bind (.orElse given unfit.uint64)
  · exact .after fun _ => .after fun _ => .after fun _ => .bind (.orElse given unfit.bool)

end Sections

/-- A configuration with a section that is null, or with a value that does not fit its field, is
refused whatever else it gives. -/
theorem Config.refuses {fields : List (String × Value)} {s : String × List String} {part : Value}
    (known : s ∈ names) (given : OrderedMap.find? s.1 fields = some part)
    (spoils : part.Spoils s.2) : Refused (decode (.object fields)) := by
  rw [decode, Record.ofValue_object, DecodeError.ok_bind]
  simp only [names, List.mem_cons, List.not_mem_nil, or_false] at known
  rcases known with rfl | rfl | rfl | rfl
  · exact .bind (.orElse given (BoundsConfig.refuses spoils))
  · exact .after fun _ => .bind (.orElse given (DriverConfig.refuses spoils))
  · exact .after fun _ => .after fun _ => .bind (.orElse given (LoggingConfig.refuses spoils))
  · exact .after fun _ => .after fun _ => .after fun _ =>
      .bind (.orElse given (ScenarioConfig.refuses spoils))

end Cadence
