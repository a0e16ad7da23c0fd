import Cadence.Json.Value

/-!
# Log events

What a run reports while it goes on: a level, a target that names the reporting part, a message and
fields.
-/

namespace Cadence

/-- How much an event matters. -/
inductive Level where
  | trace
  | debug
  | info
  | warn
  | error
  deriving DecidableEq, Repr, Inhabited

namespace Level

/-- The name of a level. -/
def name : Level → String
  | trace => "TRACE"
  | debug => "DEBUG"
  | info => "INFO"
  | warn => "WARN"
  | error => "ERROR"

/-- Place of a level from the most to the least important, from one. -/
def rank : Level → Nat
  | error => 1
  | warn => 2
  | info => 3
  | debug => 4
  | trace => 5

end Level

/-- A log event. -/
structure Event where
  level : Level
  target : String
  message : String
  fields : List (String × Value) := []
  deriving DecidableEq, Repr, Inhabited

namespace Event

/-- The names of the fields, the message among them. -/
def fieldNames (e : Event) : List String := "message" :: e.fields.map Prod.fst

/-- An event as a value. -/
def encode (e : Event) : Value :=
  .ofFields [("level", .string e.level.name), ("target", .string e.target),
    ("fields", .ofFields (("message", .string e.message) :: e.fields))]

end Event

end Cadence
