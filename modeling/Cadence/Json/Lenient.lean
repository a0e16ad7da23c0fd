import Cadence.Json.Value

/-!
# Fields that may be missing

Readers of the fields of an object that answer with a default for a field that is missing or of
another kind.
-/

namespace Cadence.Value

/-- A field, null without one. -/
def valueAt (v : Value) (name : String) : Value := (v.field? name).getD .null

/-- The text a value is, empty if it is none. -/
def asText : Value → String
  | .string s => s
  | _ => ""

/-- The items of an array. -/
def asItems : Value → List Value
  | .array vs => vs
  | _ => []

/-- The fields of an object. -/
def asFields : Value → List (String × Value)
  | .object fields => fields
  | _ => []

/-- A text. -/
def textAt (v : Value) (name : String) : String := (v.valueAt name).asText

/-- A text that may be absent. -/
def text? (v : Value) (name : String) : Option String :=
  match v.field? name with
  | some (.string s) => some s
  | _ => none

/-- A signed number. -/
def intAt (v : Value) (name : String) : Int := (v.valueAt name).asInt64?.getD 0

/-- An unsigned number. -/
def natAt (v : Value) (name : String) : Nat := (v.valueAt name).asUInt64?.getD 0

/-- An unsigned word. -/
def wordAt (v : Value) (name : String) : UInt64 := UInt64.ofNat (v.natAt name)

/-- A truth value. -/
def boolAt (v : Value) (name : String) : Bool := v.valueAt name == .bool true

/-- The items of a list. -/
def itemsAt (v : Value) (name : String) : List Value := (v.valueAt name).asItems

/-- Pairs of a name and a value, each an array of the two. -/
def pairsAt (v : Value) (name : String) : List (String × Value) :=
  (v.itemsAt name).filterMap fun
    | .array [key, value] => some (key.asText, value)
    | _ => none

end Cadence.Value
