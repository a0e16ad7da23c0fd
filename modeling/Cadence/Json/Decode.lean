import Cadence.Json.Value
import Cadence.Text.Quoted

/-!
# Decoding values

Readers from a dynamic value to a type, with the causes for which they refuse one. A structure is
given by an object, whose unknown fields do not matter, or by an array of its fields in order.
-/

namespace Cadence

/-- Why a text is no identifier. -/
inductive IdFault where
  /-- A character that no identifier has, at its place in bytes. -/
  | unexpectedChar (c : Char) (place : Nat)
  /-- The length in bytes is that of no form. -/
  | length (found : Nat)
  | groupCount (count : Nat)
  | groupLength (group : Nat) (expected : Nat) (length : Nat)
  deriving DecidableEq, Repr

namespace IdFault

/-- What is wrong with the text. -/
def message : IdFault → String
  | unexpectedChar c place =>
    "invalid character: found `" ++ String.singleton c ++ "` at " ++ toString place
  | length n => "invalid length: found " ++ toString n
  | groupCount n => "invalid group count: expected 5, found " ++ toString n
  | groupLength g e n =>
    "invalid group length in group " ++ toString g ++ ": expected " ++ toString e ++ ", found " ++
      toString n

end IdFault

/-- Why a value is refused. -/
inductive DecodeError where
  /-- The value is of another kind. -/
  | invalidType (found : Value) (expected : String)
  /-- The value is of the right kind but out of range. -/
  | invalidValue (found : Value) (expected : String)
  /-- An object lacks a field. -/
  | missingField (name : String)
  /-- An array has too few items for a structure. -/
  | tooShort (length : Nat) (expected : String)
  /-- An array has more items than a structure has fields. -/
  | tooLong (length : Nat)
  /-- A text names none of the choices. -/
  | unknownVariant (name : String) (choices : List String)
  /-- A text is no identifier. -/
  | malformedId (fault : IdFault)
  deriving DecidableEq, Repr

namespace DecodeError

/-- How a message names a value it did not expect. -/
def describe : Value → String
  | .null => "null"
  | .bool b => "boolean `" ++ (if b then "true" else "false") ++ "`"
  | .number (.int n) => "integer `" ++ toString n ++ "`"
  | .number (.float x) => "floating point `" ++ x.documentText ++ "`"
  | .string s => "string " ++ Text.quoted s
  | .array _ => "sequence"
  | .object _ => "map"

/-- The choices as a message lists them. -/
def choiceList : List String → String
  | [] => "there are no variants"
  | [a] => "expected `" ++ a ++ "`"
  | [a, b] => "expected `" ++ a ++ "` or `" ++ b ++ "`"
  | as => "expected one of " ++ Text.commaSeparated (as.map fun a => "`" ++ a ++ "`")

/-- The text of the cause. -/
def message : DecodeError → String
  | invalidType v e => "invalid type: " ++ describe v ++ ", expected " ++ e
  | invalidValue v e => "invalid value: " ++ describe v ++ ", expected " ++ e
  | missingField n => "missing field `" ++ n ++ "`"
  | tooShort n e => "invalid length " ++ toString n ++ ", expected " ++ e
  | tooLong n => "invalid length " ++ toString n ++ ", expected fewer elements in array"
  | unknownVariant n cs => "unknown variant `" ++ n ++ "`, " ++ choiceList cs
  | malformedId f => "UUID parsing failed: " ++ f.message

end DecodeError

namespace Decode

/-- A text. -/
def text : Value → Except DecodeError String
  | .string s => .ok s
  | v => .error (.invalidType v "a string")

/-- A truth value. -/
def bool : Value → Except DecodeError Bool
  | .bool b => .ok b
  | v => .error (.invalidType v "a boolean")

/-- An integer between two bounds. -/
def integer (lo hi : Int) (expected : String) : Value → Except DecodeError Int
  | .number (.int n) =>
    if lo ≤ n ∧ n ≤ hi then .ok n else .error (.invalidValue (.int n) expected)
  | v => .error (.invalidType v expected)

/-- An unsigned word of 64 bits. -/
def uint64 (v : Value) : Except DecodeError UInt64 :=
  (integer 0 maxUInt64 "u64" v).map fun n => UInt64.ofNat n.toNat

/-- An unsigned word of 32 bits. -/
def uint32 (v : Value) : Except DecodeError UInt32 :=
  (integer 0 4294967295 "u32" v).map fun n => UInt32.ofNat n.toNat

/-- A signed word of 8 bits. -/
def int8 (v : Value) : Except DecodeError Int8 :=
  (integer (-128) 127 "i8" v).map Int8.ofInt

/-- Any value. -/
def any (v : Value) : Except DecodeError Value := .ok v

/-- A value or null. -/
def optional {α : Type} (decode : Value → Except DecodeError α) :
    Value → Except DecodeError (Option α)
  | .null => .ok none
  | v => (decode v).map some

/-- Decode every item, up to the first that is refused. -/
def items {α : Type} (decode : Value → Except DecodeError α) :
    List Value → Except DecodeError (List α)
  | [] => .ok []
  | v :: rest => do
    let a ← decode v
    let as ← items decode rest
    return a :: as

/-- An array of items. -/
def list {α : Type} (decode : Value → Except DecodeError α) : Value → Except DecodeError (List α)
  | .array vs => items decode vs
  | v => .error (.invalidType v "a sequence")

/-- Decode every field of an object, its name first, up to the first that is refused. -/
def entries {κ α : Type} (key : String → Except DecodeError κ)
    (decode : Value → Except DecodeError α) :
    List (String × Value) → Except DecodeError (List (κ × α))
  | [] => .ok []
  | (name, v) :: rest => do
    let k ← key name
    let a ← decode v
    let as ← entries key decode rest
    return (k, a) :: as

/-- An object whose names and fields are decoded. -/
def map {κ α : Type} [Ord κ] (key : String → Except DecodeError κ)
    (decode : Value → Except DecodeError α) : Value → Except DecodeError (OrderedMap κ α)
  | .object fields => (entries key decode fields).map OrderedMap.ofList
  | v => .error (.invalidType v "a map")

/-- One of some named choices: its name, or an object with that one name and null. -/
def choice {α : Type} (choices : List (String × α)) : Value → Except DecodeError α
  | .string s => find s
  | .object [(s, v)] => do
    let a ← find s
    match v with
    | .null => return a
    | v => .error (.invalidType v "unit")
  | .object fields => .error (.invalidValue (.object fields) "map with a single key")
  | v => .error (.invalidType v "string or map")
where
  /-- The choice of a name. -/
  find (s : String) : Except DecodeError α :=
    match OrderedMap.find? s choices with
    | some a => .ok a
    | none => .error (.unknownVariant s (choices.map Prod.fst))

end Decode

/-- The fields of a structure as a value gives them. -/
structure Record where
  /-- The value of a field, if it is given. -/
  given : String → Option Value
  /-- The cause for refusal when a field is needed and not given. -/
  absent : String → DecodeError
  /-- Whether the fields are given by position. -/
  byPosition : Bool
  /-- The number of items beyond the last field, and of all. -/
  surplus : Option Nat

namespace Record

/-- The expectation that a message states for a structure given by position. -/
def expectation (name : String) (count : Nat) : String :=
  "struct " ++ name ++ " with " ++ toString count ++ (if count = 1 then " element" else " elements")

/-- The item at the position that a name has among the fields. -/
def itemOf? (name : String) : List String → List Value → Option Value
  | f :: fields, v :: items => if name = f then some v else itemOf? name fields items
  | _, _ => none

/-- The fields of a structure with the given name and field names. -/
def ofValue (name : String) (fields : List String) : Value → Except DecodeError Record
  | .object given =>
    .ok { given := fun f => OrderedMap.find? f given
          absent := .missingField
          byPosition := false
          surplus := none }
  | .array items =>
    .ok { given := fun f => itemOf? f fields items
          absent := fun _ => .tooShort items.length (expectation name fields.length)
          byPosition := true
          surplus := if fields.length < items.length then some items.length else none }
  | v => .error (.invalidType v ("struct " ++ name))

variable {α : Type}

/-- A field that may be left out. -/
def optional (r : Record) (name : String) (decode : Value → Except DecodeError α) :
    Except DecodeError (Option α) :=
  match r.given name with
  | some v => (decode v).map some
  | none => .ok none

/-- A field with a value that stands for it when it is left out. -/
def orElse (r : Record) (name : String) (decode : Value → Except DecodeError α) (default : α) :
    Except DecodeError α :=
  match r.given name with
  | some v => decode v
  | none => .ok default

/-- A field that has to be given. -/
def required (r : Record) (name : String) (decode : Value → Except DecodeError α) :
    Except DecodeError α :=
  match r.given name with
  | some v => decode v
  | none => .error (r.absent name)

/-- A field of optional type: an object may leave it out, an array may not. -/
def nullable (r : Record) (name : String) (decode : Value → Except DecodeError α) :
    Except DecodeError (Option α) :=
  match r.given name with
  | some v => Decode.optional decode v
  | none => if r.byPosition then .error (r.absent name) else .ok none

/-- A structure of which every field has been read. -/
def done (r : Record) (a : α) : Except DecodeError α :=
  match r.surplus with
  | some n => .error (.tooLong n)
  | none => .ok a

end Record

end Cadence
