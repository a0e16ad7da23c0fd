import Cadence.Config.Basic
import Cadence.Yaml.Integer
import Cadence.Yaml.Node

/-!
# Configurations from documents

A configuration is a mapping of sections, and a section a mapping of fields. An empty section is one
without fields, names that mean nothing are passed over, and a name that means something may stand
only once. Numbers and truth values are plain scalars, a choice is a scalar or a tag, and a level is
any scalar.
-/

namespace Cadence

namespace Yaml

/-- The entries of a mapping by the texts of their keys. -/
abbrev Fields : Type := List (String × Node)

namespace Document

variable (d : Document) {α : Type}

/-- The text of a scalar, however it is written. -/
def text? (n : Node) : Option String :=
  match d.resolve? n with
  | some (.scalar _ _ text) => some text
  | _ => none

/-- The text of a scalar that can be read as the type with the given tag: a plain one, or a literal
block with that very tag. -/
def plainText? (tag : String) (n : Node) : Option String :=
  match d.resolve? n with
  | some (.scalar .plain _ text) => some text
  | some (.scalar .literal (some t) text) =>
    if t = Yaml.asciiBytes tag.toList then some text else none
  | _ => none

/-- The entries of a mapping whose keys are scalars. -/
def fieldsOf? : List (Node × Node) → Option Fields
  | [] => some []
  | (key, value) :: rest => do
    let name ← d.text? key
    return (name, value) :: (← fieldsOf? rest)

/-- The entries of a mapping; an empty plain scalar is one without entries. -/
def fields? (n : Node) : Option Fields :=
  match d.resolve? n with
  | some (.mapping _ entries) => d.fieldsOf? entries
  | some (.scalar .plain _ "") => some []
  | _ => none

/-- A number of the given bits. -/
def word? (bits : Nat) (n : Node) : Option Nat := do
  let m ← Yaml.unsigned? (← d.plainText? "tag:yaml.org,2002:int" n).toList
  if m < 1 <<< bits then return m else none

/-- A truth value. -/
def truth? (n : Node) : Option Bool := do
  match ← d.plainText? "tag:yaml.org,2002:bool" n with
  | "true" | "True" | "TRUE" => return true
  | "false" | "False" | "FALSE" => return false
  | _ => none

/-- The name that a tag of this document's own gives: what stands behind its exclamation mark, or
the mark itself. Bytes that form no text are no name. -/
def ownTag? (tag : Option Tag) : Option String :=
  match tag with
  | some [0x21] => some "!"
  | some (0x21 :: name) => Text.ofBytes? name
  | _ => none

/-- Whether a scalar can stand behind a tag that says everything. -/
def isNothing (style : ScalarStyle) (text : String) : Bool :=
  style == .plain && text ∈ ["", "null", "Null", "NULL", "~"]

/-- One of some named choices: a scalar with its name, or a tag with its name and nothing behind it.
-/
def choice? (choices : List (String × α)) (n : Node) : Option α :=
  match d.resolve? n with
  | some (.scalar style tag text) =>
    match ownTag? tag with
    | some name => if isNothing style text then OrderedMap.find? name choices else none
    | none => OrderedMap.find? text choices
  | _ => none

end Document

namespace Fields

variable {α : Type}

/-- A field that may be left out: its value, or the default. None if the field stands twice, or if
its value is refused. -/
def orElse (fields : Fields) (name : String) (read : Node → Option α) (default : α) : Option α :=
  match fields.filter fun f => f.1 = name with
  | [] => some default
  | [(_, n)] => read n
  | _ => none

end Fields

end Yaml

open Yaml (Document Node)

namespace BoundsConfig

/-- The bounds of a section. -/
def ofNode? (d : Document) (n : Node) : Option BoundsConfig := do
  let fields ← d.fields? n
  let defaults : BoundsConfig := {}
  let word (n : Node) : Option UInt64 := (d.word? 64 n).map UInt64.ofNat
  let maxTicks ← fields.orElse "max_ticks" word defaults.maxTicks
  let maxRealTimeSeconds ← fields.orElse "max_real_time_seconds" word defaults.maxRealTimeSeconds
  return ⟨maxTicks, maxRealTimeSeconds⟩

end BoundsConfig

namespace DriverConfig

/-- The driver settings of a section. -/
def ofNode? (d : Document) (n : Node) : Option DriverConfig := do
  let fields ← d.fields? n
  let defaults : DriverConfig := {}
  let word (n : Node) : Option UInt64 := (d.word? 64 n).map UInt64.ofNat
  let tickIntervalMs ← fields.orElse "tick_interval_ms" word defaults.tickIntervalMs
  let execution ← fields.orElse "execution" (d.choice? ExecutionMode.choices) defaults.execution
  let componentFailure ←
    fields.orElse "component_failure" (d.choice? FailurePolicy.choices) defaults.componentFailure
  let actionFailure ←
    fields.orElse "action_failure" (d.choice? FailurePolicy.choices) defaults.actionFailure
  return ⟨tickIntervalMs, execution, componentFailure, actionFailure⟩

end DriverConfig

namespace LoggingConfig

/-- The logging settings of a section. -/
def ofNode? (d : Document) (n : Node) : Option LoggingConfig := do
  let fields ← d.fields? n
  let defaults : LoggingConfig := {}
  let level ← fields.orElse "level" d.text? defaults.level
  let format ← fields.orElse "format" (d.choice? LogFormat.choices) defaults.format
  return ⟨level, format⟩

end LoggingConfig

namespace ScenarioConfig

/-- The scenario settings of a section. -/
def ofNode? (d : Document) (n : Node) : Option ScenarioConfig := do
  let fields ← d.fields? n
  let defaults : ScenarioConfig := {}
  let short (n : Node) : Option UInt32 := (d.word? 32 n).map UInt32.ofNat
  let walkers ← fields.orElse "walkers" short defaults.walkers
  let ringSize ← fields.orElse "ring_size" short defaults.ringSize
  let seed ← fields.orElse "seed" (fun n => (d.word? 64 n).map UInt64.ofNat) defaults.seed
  let recordState ← fields.orElse "record_state" d.truth? defaults.recordState
  return ⟨walkers, ringSize, seed, recordState⟩

end ScenarioConfig

namespace ConfigError

/-- What a fault of a document is for its configuration. -/
def ofFault : Yaml.Fault → ConfigError
  | .malformed => yaml
  | .overflow => overflow

end ConfigError

namespace Config

/-- The configuration of a document. -/
def ofDocument? (d : Document) : Option Config := do
  let fields ← d.fields? d.root
  let simulation ← fields.orElse "simulation" (BoundsConfig.ofNode? d) {}
  let driver ← fields.orElse "driver" (DriverConfig.ofNode? d) {}
  let logging ← fields.orElse "logging" (LoggingConfig.ofNode? d) {}
  let scenario ← fields.orElse "scenario" (ScenarioConfig.ofNode? d) {}
  return ⟨simulation, driver, logging, scenario⟩

/-- The configuration of a document that has to be the only one; what follows it counts once it is a
configuration. -/
def ofStream (s : Yaml.Stream) : Except ConfigError Config :=
  match ofDocument? s.first with
  | none => .error .yaml
  | some c => (s.rest.mapError ConfigError.ofFault).map fun _ => c

/-- The configuration that a text holds; a blank text holds the defaults. -/
def ofText (text : String) : Except ConfigError Config :=
  if Text.blank text then .ok {}
  else ((Yaml.Stream.ofText text.toList).mapError ConfigError.ofFault).bind ofStream

/-- What is found at the path of a configuration. -/
inductive File where
  | missing
  | unreadable (reason : String)
  | content (bytes : ByteArray)

/-- The configuration of a file, with the override applied. -/
def ofFile (file : File) (maxTicks : Option String) : Except ConfigError Config :=
  match file with
  | .missing => .error (.io "No such file or directory (os error 2)")
  | .unreadable reason => .error (.io reason)
  | .content bytes =>
    match String.fromUTF8? bytes with
    | none => .error (.io "stream did not contain valid UTF-8")
    | some text =>
      match ofText text with
      | .ok c => c.withMaxTicks maxTicks
      | .error e => .error e

end Config

end Cadence
