import Cadence.Action
import Cadence.Text.Blank

/-!
# Tables

A table has a name, typed fields, and a granularity: its rows may be keyed per participant, per time
step, by both or by neither. `TableDescriptor.build` admits the descriptions that make sense and
`TableDescriptor.validate` the rows that fit one.
-/

namespace Cadence

/-- The type of a field. -/
inductive FieldType where
  | integer
  | float
  | text
  | boolean
  | json
  deriving DecidableEq, Repr, Inhabited

/-- A field of a table. -/
structure FieldSpec where
  name : String
  fieldType : FieldType
  deriving DecidableEq, Repr, Inhabited

/-- A description of a table. -/
structure TableDescriptor where
  name : String
  fields : List FieldSpec
  perParticipant : Bool := false
  perTimestep : Bool := false
  deriving DecidableEq, Repr, Inhabited

/-- Whom and when a row is about. -/
structure RowScope where
  participant : Option ParticipantId := none
  tick : Option UInt64 := none
  deriving DecidableEq, Repr, Inhabited

/-- A row: values by field name. -/
structure Row where
  values : OrderedMap String Value := {}
  deriving DecidableEq, Repr, Inhabited

/-- Why a description makes no table. -/
inductive TableFault where
  | blankName
  | noFields
  | repeatedField (name : String)
  deriving DecidableEq, Repr

/-- How the scope of a row does not fit its table. -/
inductive ScopeFault where
  | needsParticipant
  | hasParticipant
  | needsTick
  | hasTick
  deriving DecidableEq, Repr

/-- Why the database refuses a call. -/
inductive DbError where
  | notRunning
  | invalidTable (table : String) (fault : TableFault)
  | tableExists (table : String)
  | unknownTable (table : String)
  | unknownField (table field : String)
  | missingField (table field : String)
  | typeMismatch (table field : String) (expected : FieldType) (found : Value)
  | scope (table : String) (fault : ScopeFault)
  | serialization (cause : EncodeError)
  deriving DecidableEq, Repr

namespace FieldType

/-- The name of a type. -/
def name : FieldType → String
  | integer => "integer"
  | float => "float"
  | text => "text"
  | boolean => "boolean"
  | json => "json"

/-- The types by name. -/
def choices : List (String × FieldType) :=
  [("integer", integer), ("float", float), ("text", text), ("boolean", boolean), ("json", json)]

/-- Whether a field of the type takes a value: every field takes null, and a floating point field
also takes an integer. -/
def accepts : FieldType → Value → Bool
  | _, .null => true
  | integer, .number (.int n) => minInt64 ≤ n && n ≤ maxUInt64
  | float, .number _ => true
  | text, .string _ => true
  | boolean, .bool _ => true
  | json, _ => true
  | _, _ => false

/-- A type as a value. -/
def encode (t : FieldType) : Value := .string t.name

/-- Read a type. -/
def decode (v : Value) : Except DecodeError FieldType := Decode.choice choices v

end FieldType

namespace TableFault

/-- The text of the fault. -/
def message : TableFault → String
  | blankName => "name is empty"
  | noFields => "no fields declared"
  | repeatedField name => "field `" ++ name ++ "` declared twice"

end TableFault

namespace ScopeFault

/-- The text of the fault. -/
def message : ScopeFault → String
  | needsParticipant => "is keyed per participant; row has none"
  | hasParticipant => "is not keyed per participant"
  | needsTick => "is keyed per time step; row has no tick"
  | hasTick => "is not keyed per time step"

end ScopeFault

namespace DbError

/-- The text of the cause. -/
def message : DbError → String
  | notRunning => "database is not running"
  | invalidTable table fault => "invalid table `" ++ table ++ "`: " ++ fault.message
  | tableExists table => "table `" ++ table ++ "` already exists"
  | unknownTable table => "unknown table `" ++ table ++ "`"
  | unknownField table field => "table `" ++ table ++ "` has no field `" ++ field ++ "`"
  | missingField table field => "row for `" ++ table ++ "` is missing field `" ++ field ++ "`"
  | typeMismatch table field expected found =>
    "field `" ++ field ++ "` of `" ++ table ++ "` expects " ++ expected.name ++ ", got " ++
      found.kind
  | scope table fault => "table `" ++ table ++ "` " ++ fault.message
  | serialization cause => "serialization error: " ++ cause.message

end DbError

namespace FieldSpec

/-- A field as a value. -/
def encode (f : FieldSpec) : Value :=
  .ofFields [("name", .string f.name), ("field_type", f.fieldType.encode)]

/-- Read a field. -/
def decode (v : Value) : Except DecodeError FieldSpec := do
  let r ← Record.ofValue "FieldSpec" ["name", "field_type"] v
  let name ← r.required "name" Decode.text
  let fieldType ← r.required "field_type" FieldType.decode
  r.done ⟨name, fieldType⟩

end FieldSpec

namespace RowScope

/-- The scope of a row about one tick and no participant. -/
def atTick (tick : UInt64) : RowScope := { tick := some tick }

/-- A scope as a value. -/
def encode (s : RowScope) : Value :=
  .ofFields [("participant", .ofOption (s.participant.map ParticipantId.encode)),
    ("tick", .ofOption (s.tick.map fun t => .nat t.toNat))]

/-- Read a scope. -/
def decode (v : Value) : Except DecodeError RowScope := do
  let r ← Record.ofValue "RowScope" ["participant", "tick"] v
  let participant ← r.nullable "participant" ParticipantId.decode
  let tick ← r.nullable "tick" Decode.uint64
  r.done ⟨participant, tick⟩

end RowScope

namespace Row

/-- The row with a field set. -/
def put (r : Row) (field : String) (value : Value) : Row := ⟨r.values.insert field value⟩

/-- The row with a field set to what a parameter encodes to, if it has an encoding. -/
def putEncoded (r : Row) (field : String) (value : Except EncodeError Value) : Except DbError Row :=
  match value with
  | .ok v => .ok (r.put field v)
  | .error cause => .error (.serialization cause)

/-- The value of a field. -/
def get? (r : Row) (field : String) : Option Value := r.values.get? field

/-- A row as a value. -/
def encode (r : Row) : Value := .ofFields [("values", .ofMap r.values)]

/-- Read a row. -/
def decode (v : Value) : Except DecodeError Row := do
  let r ← Record.ofValue "Row" ["values"] v
  let values ← r.required "values" (Decode.map .ok Decode.any)
  r.done ⟨values⟩

end Row

namespace TableDescriptor

/-- The first name that stands a second time in a list of names. -/
def firstRepeated? : List String → List String → Option String
  | _, [] => none
  | seen, name :: rest => if name ∈ seen then some name else firstRepeated? (name :: seen) rest

/-- What is wrong with a description, if anything is. -/
def fault? (d : TableDescriptor) : Option TableFault :=
  if Text.blank d.name then some .blankName
  else if d.fields.isEmpty then some .noFields
  else (firstRepeated? [] (d.fields.map FieldSpec.name)).map .repeatedField

/-- Admit a description that has a name, fields, and no field twice. -/
def build (d : TableDescriptor) : Except DbError TableDescriptor :=
  match d.fault? with
  | some fault => .error (.invalidTable d.name fault)
  | none => .ok d

/-- How a scope does not fit the table, if it does not. -/
def scopeFault? (d : TableDescriptor) (scope : RowScope) : Option ScopeFault :=
  if d.perParticipant && scope.participant.isNone then some .needsParticipant
  else if !d.perParticipant && scope.participant.isSome then some .hasParticipant
  else if d.perTimestep && scope.tick.isNone then some .needsTick
  else if !d.perTimestep && scope.tick.isSome then some .hasTick
  else none

/-- Whether a field is declared. -/
def declares (d : TableDescriptor) (field : String) : Bool := d.fields.any fun f => f.name == field

/-- Check the declared fields of a row in order, up to the first that is missing or of another type.
-/
def checkFields (table : String) (row : Row) : List FieldSpec → Except DbError Unit
  | [] => .ok ()
  | spec :: rest =>
    match row.get? spec.name with
    | none => .error (.missingField table spec.name)
    | some v =>
      if spec.fieldType.accepts v then checkFields table row rest
      else .error (.typeMismatch table spec.name spec.fieldType v)

/-- Check that a row fits the table: its scope, then that it has no undeclared field, then the
declared ones. -/
def validate (d : TableDescriptor) (scope : RowScope) (row : Row) : Except DbError Unit :=
  match d.scopeFault? scope with
  | some fault => .error (.scope d.name fault)
  | none =>
    match row.values.keys.find? fun field => !d.declares field with
    | some field => .error (.unknownField d.name field)
    | none => checkFields d.name row d.fields

/-- A description as a value. -/
def encode (d : TableDescriptor) : Value :=
  .ofFields [("name", .string d.name), ("fields", .array (d.fields.map FieldSpec.encode)),
    ("per_participant", .bool d.perParticipant), ("per_timestep", .bool d.perTimestep)]

/-- Read a description. -/
def decode (v : Value) : Except DecodeError TableDescriptor := do
  let r ← Record.ofValue "TableDescriptor" ["name", "fields", "per_participant", "per_timestep"] v
  let name ← r.required "name" Decode.text
  let fields ← r.required "fields" (Decode.list FieldSpec.decode)
  let perParticipant ← r.required "per_participant" Decode.bool
  let perTimestep ← r.required "per_timestep" Decode.bool
  r.done ⟨name, fields, perParticipant, perTimestep⟩

end TableDescriptor

end Cadence
