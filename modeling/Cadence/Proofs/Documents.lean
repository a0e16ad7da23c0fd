import Cadence.Config.Document
import Cadence.Proofs.Settings
import Mathlib.Data.List.Forall2

/-!
# Documents that write a configuration

A configuration may come as an object or as a document. A document writes an object when its mapping
has the same entries in any order (`Fields.Lists`), and then it holds the configuration to which the
object is decoded (`Config.ofDocument?_of_writes`). So what is true of partial objects is true of
partial documents (`partial_configurations`).
-/

namespace Cadence

variable {α : Type}

namespace Yaml

/-! ## Writing -/

/-- The entries of a mapping are those of an object, in any order and each name once. The nodes are
related to the values as their names demand. -/
def Fields.Lists (writes : String → Node → Value → Prop) (entries : Fields)
    (fields : List (String × Value)) : Prop :=
  (fields.map Prod.fst).Nodup ∧ ∃ ordered, entries.Perm ordered ∧
    List.Forall₂ (fun e f => e.1 = f.1 ∧ writes e.1 e.2 f.2) ordered fields

namespace Document

/-- The spellings of truth values. -/
def truths : List (String × Bool) :=
  [("true", true), ("True", true), ("TRUE", true), ("false", false), ("False", false),
    ("FALSE", false)]

/-- A scalar writes a value: a plain one a number or a truth value, any one without a tag of the
document's own a text. -/
inductive Writes (d : Document) (n : Node) : Value → Prop where
  | number {tag text m} (scalar : d.resolve? n = some (.scalar .plain tag text))
      (reads : unsigned? text.toList = some m) : Writes d n (.nat m)
  | bool {tag text b} (scalar : d.resolve? n = some (.scalar .plain tag text))
      (spelled : (text, b) ∈ truths) : Writes d n (.bool b)
  | string {style tag text} (scalar : d.resolve? n = some (.scalar style tag text))
      (untagged : ownTag? tag = none) : Writes d n (.string text)

/-- A mapping writes an object whose entries it has; a value need only be written as its name
demands. -/
def WritesObject (d : Document) (writes : String → Node → Value → Prop) (n : Node) (v : Value) :
    Prop :=
  ∃ entries fields, v = .object fields ∧ d.fields? n = some entries ∧ entries.Lists writes fields

/-- A mapping writes a section; only values of the section's fields matter. -/
def WritesSection (d : Document) (names : List String) : Node → Value → Prop :=
  d.WritesObject fun name n v => name ∈ names → d.Writes n v

/-- A document writes a configuration; only its sections matter. -/
def WritesConfig (d : Document) : Value → Prop :=
  d.WritesObject (fun name n v => ∀ s ∈ Config.names, s.1 = name → d.WritesSection s.2 n v) d.root

end Document

/-! ## Fields -/

section Fields

variable {writes : String → Node → Value → Prop} {entries : Fields}
  {fields : List (String × Value)} {name : String}

/-- A name stands in a mapping as it stands in an object with the same entries in order. -/
lemma filter_of_forall₂ {ordered : Fields} (nodup : (fields.map Prod.fst).Nodup)
    (same : List.Forall₂ (fun e f => e.1 = f.1 ∧ writes e.1 e.2 f.2) ordered fields)
    (name : String) :
    match OrderedMap.find? name fields with
    | none => ordered.filter (fun e => e.1 = name) = []
    | some v => ∃ n, ordered.filter (fun e => e.1 = name) = [(name, n)] ∧ writes name n v := by
  induction same with
  | nil => rfl
  | @cons e f ordered fields first rest ih =>
    obtain ⟨new, nodup⟩ := List.nodup_cons.1 nodup
    have ih := ih nodup
    obtain ⟨key, node⟩ := e
    obtain ⟨key', value⟩ := f
    obtain ⟨rfl, written⟩ := first
    rw [OrderedMap.find?]
    by_cases here : name = key
    · subst here
      rw [OrderedMap.find?_eq_none_iff.2 new] at ih
      rw [if_pos rfl, List.filter_cons_of_pos (by simp), ih]
      exact ⟨node, rfl, written⟩
    · rw [if_neg here, List.filter_cons_of_neg (by simpa using Ne.symm here)]
      exact ih

/-- A field that an object gives or leaves out, and the field of a mapping that writes the object,
are read alike. -/
lemma Fields.Lists.orElse (lists : entries.Lists writes fields) {read : Node → Option α}
    {decode : Value → Except DecodeError α} {default a : α}
    (agree : ∀ {n v}, writes name n v → decode v = .ok a → read n = some a)
    (decoded : (Record.ofObject fields).orElse name decode default = .ok a) :
    entries.orElse name read default = some a := by
  obtain ⟨nodup, ordered, perm, same⟩ := lists
  have entry := filter_of_forall₂ nodup same name
  -- at most one entry has the name, so the order does not matter
  have perm := perm.filter fun e => e.1 = name
  rw [Fields.orElse]
  cases found : OrderedMap.find? name fields with
  | none =>
    rw [found] at entry
    rw [Record.orElse_of_missing found] at decoded
    rw [entry, List.perm_nil] at perm
    rw [perm]
    exact congrArg some (Except.ok.inj decoded)
  | some v =>
    rw [found] at entry
    obtain ⟨n, only, written⟩ := entry
    rw [Record.orElse_of_given found] at decoded
    rw [only, List.perm_singleton] at perm
    rw [perm]
    exact agree written decoded

end Fields

/-! ## Scalars -/

namespace Document.Writes

variable {d : Document} {n : Node} {v : Value}

/-- A word is read where an integer in bounds is written. -/
lemma word? {bits hi : Nat} {expected : String} {i : Int} (writes : d.Writes n v)
    (bound : hi < 1 <<< bits) (decoded : Decode.integer 0 hi expected v = .ok i) :
    d.word? bits n = some i.toNat := by
  cases writes with
  | @number tag text m scalar reads =>
    rw [Value.nat, Decode.integer] at decoded
    split at decoded
    case isTrue range =>
      cases decoded
      have plain : d.plainText? "tag:yaml.org,2002:int" n = some text := by
        rw [plainText?, scalar]
      rw [Document.word?, plain, Option.bind_eq_bind, Option.bind_some, reads,
        Option.bind_eq_bind, Option.bind_some, if_pos (by omega)]
      rfl
    case isFalse => cases decoded
  | bool => cases decoded
  | string => cases decoded

/-- A word of full length is read as it is decoded. -/
lemma uint64 {a : UInt64} (writes : d.Writes n v) (decoded : Decode.uint64 v = .ok a) :
    (d.word? 64 n).map UInt64.ofNat = some a := by
  obtain ⟨i, read, rfl⟩ := DecodeError.map_eq_ok.1 decoded
  rw [writes.word? (by decide) read, Option.map_some]

/-- A word of half the length is read as it is decoded. -/
lemma uint32 {a : UInt32} (writes : d.Writes n v) (decoded : Decode.uint32 v = .ok a) :
    (d.word? 32 n).map UInt32.ofNat = some a := by
  obtain ⟨i, read, rfl⟩ := DecodeError.map_eq_ok.1 decoded
  rw [writes.word? (show 4294967295 < 1 <<< 32 by decide) read, Option.map_some]

/-- A choice is read as it is decoded. -/
lemma choice? {choices : List (String × α)} {a : α} (writes : d.Writes n v)
    (decoded : Decode.choice choices v = .ok a) : d.choice? choices n = some a := by
  cases writes with
  | number => cases decoded
  | bool => cases decoded
  | @string style tag text scalar untagged =>
    rw [Decode.choice_string, Decode.choice.find] at decoded
    rw [Document.choice?, scalar]
    simp only [untagged]
    cases found : OrderedMap.find? text choices with
    | none => rw [found] at decoded; cases decoded
    | some b =>
      rw [found] at decoded
      exact congrArg some (Except.ok.inj decoded)

/-- A text is read as it is decoded. -/
lemma text? {s : String} (writes : d.Writes n v) (decoded : Decode.text v = .ok s) :
    d.text? n = some s := by
  cases writes with
  | number => cases decoded
  | bool => cases decoded
  | string scalar =>
    cases decoded
    rw [Document.text?, scalar]

/-- A truth value is read as it is decoded. -/
lemma truth? {b : Bool} (writes : d.Writes n v) (decoded : Decode.bool v = .ok b) :
    d.truth? n = some b := by
  cases writes with
  | number => cases decoded
  | @bool tag text b scalar spelled =>
    cases decoded
    have plain : d.plainText? "tag:yaml.org,2002:bool" n = some text := by rw [plainText?, scalar]
    rw [Document.truth?, plain]
    simp only [truths, List.mem_cons, Prod.mk.injEq, List.not_mem_nil, or_false] at spelled
    rcases spelled with ⟨rfl, rfl⟩ | ⟨rfl, rfl⟩ | ⟨rfl, rfl⟩ | ⟨rfl, rfl⟩ | ⟨rfl, rfl⟩ |
      ⟨rfl, rfl⟩ <;> rfl
  | string => cases decoded

end Document.Writes

end Yaml

/-! ## Sections -/

open Yaml (Document Node)

section Sections

variable {d : Document} {n : Node} {v : Value}

/-- The section for bounds is read as it is decoded. -/
lemma BoundsConfig.ofNode?_of_writes {c : BoundsConfig} (writes : d.WritesSection names n v)
    (decoded : decode v = .ok c) : ofNode? d n = some c := by
  obtain ⟨entries, fields, rfl, given, lists⟩ := writes
  rw [decode, Record.ofValue_object, DecodeError.ok_bind] at decoded
  obtain ⟨maxTicks, maxTicksRead, decoded⟩ := DecodeError.bind_eq_ok.1 decoded
  obtain ⟨maxRealTimeSeconds, maxRealTimeSecondsRead, decoded⟩ := DecodeError.bind_eq_ok.1 decoded
  cases decoded
  rw [ofNode?, given]
  simp only [Option.bind_eq_bind, Option.bind_some,
    lists.orElse (fun w => (w (by decide)).uint64) maxTicksRead,
    lists.orElse (fun w => (w (by decide)).uint64) maxRealTimeSecondsRead]
  rfl

/-- The section for the driver is read as it is decoded. -/
lemma DriverConfig.ofNode?_of_writes {c : DriverConfig} (writes : d.WritesSection names n v)
    (decoded : decode v = .ok c) : ofNode? d n = some c := by
  obtain ⟨entries, fields, rfl, given, lists⟩ := writes
  rw [decode, Record.ofValue_object, DecodeError.ok_bind] at decoded
  obtain ⟨tickIntervalMs, tickIntervalMsRead, decoded⟩ := DecodeError.bind_eq_ok.1 decoded
  obtain ⟨execution, executionRead, decoded⟩ := DecodeError.bind_eq_ok.1 decoded
  obtain ⟨componentFailure, componentFailureRead, decoded⟩ := DecodeError.bind_eq_ok.1 decoded
  obtain ⟨actionFailure, actionFailureRead, decoded⟩ := DecodeError.bind_eq_ok.1 decoded
  cases decoded
  rw [ofNode?, given]
  simp only [Option.bind_eq_bind, Option.bind_some,
    lists.orElse (fun w => (w (by decide)).uint64) tickIntervalMsRead,
    lists.orElse (fun w => (w (by decide)).choice?) executionRead,
    lists.orElse (fun w => (w (by decide)).choice?) componentFailureRead,
    lists.orElse (fun w => (w (by decide)).choice?) actionFailureRead]
  rfl

/-- The section for logging is read as it is decoded. -/
lemma LoggingConfig.ofNode?_of_writes {c : LoggingConfig} (writes : d.WritesSection names n v)
    (decoded : decode v = .ok c) : ofNode? d n = some c := by
  obtain ⟨entries, fields, rfl, given, lists⟩ := writes
  rw [decode, Record.ofValue_object, DecodeError.ok_bind] at decoded
  obtain ⟨level, levelRead, decoded⟩ := DecodeError.bind_eq_ok.1 decoded
  obtain ⟨format, formatRead, decoded⟩ := DecodeError.bind_eq_ok.1 decoded
  cases decoded
  rw [ofNode?, given]
  simp only [Option.bind_eq_bind, Option.bind_some,
    lists.orElse (fun w => (w (by decide)).text?) levelRead,
    lists.orElse (fun w => (w (by decide)).choice?) formatRead]
  rfl

/-- The section for the scenario is read as it is decoded. -/
lemma ScenarioConfig.ofNode?_of_writes {c : ScenarioConfig} (writes : d.WritesSection names n v)
    (decoded : decode v = .ok c) : ofNode? d n = some c := by
  obtain ⟨entries, fields, rfl, given, lists⟩ := writes
  rw [decode, Record.ofValue_object, DecodeError.ok_bind] at decoded
  obtain ⟨walkers, walkersRead, decoded⟩ := DecodeError.bind_eq_ok.1 decoded
  obtain ⟨ringSize, ringSizeRead, decoded⟩ := DecodeError.bind_eq_ok.1 decoded
  obtain ⟨seed, seedRead, decoded⟩ := DecodeError.bind_eq_ok.1 decoded
  obtain ⟨recordState, recordStateRead, decoded⟩ := DecodeError.bind_eq_ok.1 decoded
  cases decoded
  rw [ofNode?, given]
  simp only [Option.bind_eq_bind, Option.bind_some,
    lists.orElse (fun w => (w (by decide)).uint32) walkersRead,
    lists.orElse (fun w => (w (by decide)).uint32) ringSizeRead,
    lists.orElse (fun w => (w (by decide)).uint64) seedRead,
    lists.orElse (fun w => (w (by decide)).truth?) recordStateRead]
  rfl

end Sections

namespace Config

/-- A document that writes an object holds the configuration to which the object is decoded. -/
theorem ofDocument?_of_writes {d : Document} {v : Value} {c : Config} (writes : d.WritesConfig v)
    (decoded : decode v = .ok c) : ofDocument? d = some c := by
  obtain ⟨entries, fields, rfl, given, lists⟩ := writes
  rw [decode, Record.ofValue_object, DecodeError.ok_bind] at decoded
  obtain ⟨simulation, simulationRead, decoded⟩ := DecodeError.bind_eq_ok.1 decoded
  obtain ⟨driver, driverRead, decoded⟩ := DecodeError.bind_eq_ok.1 decoded
  obtain ⟨logging, loggingRead, decoded⟩ := DecodeError.bind_eq_ok.1 decoded
  obtain ⟨scenario, scenarioRead, decoded⟩ := DecodeError.bind_eq_ok.1 decoded
  cases decoded
  rw [ofDocument?, given]
  simp only [Option.bind_eq_bind, Option.bind_some,
    lists.orElse (fun w => BoundsConfig.ofNode?_of_writes
      (w ("simulation", BoundsConfig.names) (by decide) rfl)) simulationRead,
    lists.orElse (fun w => DriverConfig.ofNode?_of_writes
      (w ("driver", DriverConfig.names) (by decide) rfl)) driverRead,
    lists.orElse (fun w => LoggingConfig.ofNode?_of_writes
      (w ("logging", LoggingConfig.names) (by decide) rfl)) loggingRead,
    lists.orElse (fun w => ScenarioConfig.ofNode?_of_writes
      (w ("scenario", ScenarioConfig.names) (by decide) rfl)) scenarioRead]
  rfl

/-- A text with one document that writes a configuration is read as it is decoded. -/
lemma ofText_of_writes {text : String} {s : Yaml.Stream} {v : Value} {c : Config}
    (given : Text.blank text = false) (read : Yaml.Stream.ofText text.toList = .ok s)
    (only : s.rest = .ok ()) (writes : s.first.WritesConfig v) (decoded : decode v = .ok c) :
    ofText text = .ok c := by
  have stream : ofStream s = .ok c := by
    rw [ofStream, ofDocument?_of_writes writes decoded, only]
    rfl
  rw [ofText, given, if_neg Bool.false_ne_true, read]
  exact stream

example : (ofText "extra: x\nscenario:\n  note: ~\n  seed: 9\ndriver: \x7b\x7d\n").toOption =
    some { scenario := { seed := 9 } } := by decide +kernel

end Config

/-- A configuration that is given in part counts where it is given and is the default elsewhere,
whatever else stands under names that mean nothing, and in whatever order a document has it; a blank
text holds no mapping and is no such document. With a section or field that is null, or with a
number that its field does not take, nothing is read. -/
theorem partial_configurations :
    (∀ (c : Config) (chosen : String → Chosen) (fields : List (String × Value)),
      c.Gives chosen fields →
        Config.decode (.object fields) = .ok (c.only chosen) ∧
        ∀ text s, Text.blank text = false → Yaml.Stream.ofText text.toList = .ok s →
          s.rest = .ok () → s.first.WritesConfig (.object fields) →
            Config.ofText text = .ok (c.only chosen)) ∧
    ∀ (fields : List (String × Value)) (s : String × List String) (part : Value),
      s ∈ Config.names → OrderedMap.find? s.1 fields = some part → part.Spoils s.2 →
        Refused (Config.decode (.object fields)) := by
  refine ⟨fun c chosen fields gives => ?_, fun fields s part known given spoils =>
    Config.refuses known given spoils⟩
  have decoded := Config.decode_of_gives gives
  exact ⟨decoded, fun text s given read only writes =>
    Config.ofText_of_writes given read only writes decoded⟩

theorem partial_configurations_seed :
    Config.decode (.object [("extra", .bool true),
        ("scenario", .object [("note", .null), ("seed", .nat 9)])]) =
      .ok { scenario := { seed := 9 } } ∧
    Config.ofText "driver:\n" = .ok {} ∧
    Refused (Config.decode (.object [("driver", .object [("tick_interval_ms", .int (-1))])])) := by
  let seed : String → Chosen := fun s => if s = "scenario" then some (· = "seed") else none
  let empty : String → Chosen := fun s => if s = "driver" then some fun _ => false else none
  let c : Config := { scenario := { seed := 9 } }
  have nine : c.scenario.encode.field? "seed" = some (.nat 9) := Value.field?_ofFields _
  have scenario : c.scenario.encode.Gives ScenarioConfig.names (fun f => decide (f = "seed"))
      (.object [("note", .null), ("seed", .nat 9)]) := by
    refine ⟨_, rfl, ?_⟩
    simp only [ScenarioConfig.names, List.forall_mem_cons]
    exact ⟨rfl, rfl, nine.symm, rfl, fun _ mem => absurd mem List.not_mem_nil⟩
  have seedGiven : c.Gives seed [("extra", .bool true),
      ("scenario", .object [("note", .null), ("seed", .nat 9)])] := by
    simp only [Config.Gives, Config.names, List.forall_mem_cons]
    exact ⟨rfl, rfl, rfl, ⟨_, _, Value.field?_ofFields _, rfl, scenario⟩,
      fun _ mem => absurd mem List.not_mem_nil⟩
  have emptyGiven : c.Gives empty [("driver", .object [])] := by
    simp only [Config.Gives, Config.names, List.forall_mem_cons]
    exact ⟨rfl, ⟨_, _, Value.field?_ofFields _, rfl, _, rfl, fun _ _ => rfl⟩, rfl, rfl,
      fun _ mem => absurd mem List.not_mem_nil⟩
  -- a section without fields is an empty scalar in a document
  let d : Document := { root := .mapping none [(.scalar .plain none "driver", .empty)] }
  have driver : d.WritesSection DriverConfig.names .empty (.object []) :=
    ⟨[], [], rfl, rfl, List.nodup_nil, [], .refl _, .nil⟩
  have writes : d.WritesConfig (.object [("driver", .object [])]) := by
    refine ⟨[("driver", .empty)], _, rfl, rfl, by decide, _, .refl _, .cons ⟨rfl, ?_⟩ .nil⟩
    simp only [Config.names, List.forall_mem_cons]
    exact ⟨fun other => absurd other (by decide), fun _ => driver,
      fun other => absurd other (by decide), fun other => absurd other (by decide),
      fun _ mem => absurd mem List.not_mem_nil⟩
  exact ⟨(partial_configurations.1 c seed _ seedGiven).1,
    (partial_configurations.1 c empty _ emptyGiven).2 _ ⟨d, .ok ()⟩ (by decide)
      (by with_unfolding_all rfl) rfl writes,
    partial_configurations.2 _ ("driver", DriverConfig.names) _ (by decide) rfl
      (.inr ⟨_, "tick_interval_ms", _, rfl, by decide, rfl, .inl (by decide)⟩)⟩

end Cadence
