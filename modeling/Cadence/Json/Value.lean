import Cadence.OrderedMap
import Cadence.Numeric.Double

/-!
# Values

The dynamic values that actions carry, shared state holds and tables store. A number is an integer
or a floating point number, and the two never mix: `3` and `3.0` are different values. The fields of
an object are kept in increasing order of their names when it is built with `Value.ofFields`.
-/

namespace Cadence

/-- A number, either an integer or a floating point number. -/
inductive Number where
  | int (n : Int)
  | float (x : Double)
  deriving DecidableEq, Repr, Inhabited

/-- A dynamic value. -/
inductive Value where
  | null
  | bool (b : Bool)
  | number (n : Number)
  | string (s : String)
  | array (items : List Value)
  | object (fields : List (String × Value))
  deriving Repr, Inhabited

/-- Least integer that a value holds as a signed number. -/
def minInt64 : Int := -9223372036854775808

/-- Greatest integer that a value holds as a signed number. -/
def maxInt64 : Int := 9223372036854775807

/-- Greatest integer that a value holds as an unsigned number. -/
def maxUInt64 : Nat := 18446744073709551615

namespace Value

/-- An integer. -/
def int (n : Int) : Value := .number (.int n)

/-- A natural number. -/
def nat (n : Nat) : Value := .number (.int n)

/-- A floating point number. -/
def float (x : Double) : Value := .number (.float x)

/-- An object with the given fields, the last of several with one name. -/
def ofFields (fields : List (String × Value)) : Value := .object (OrderedMap.ofList fields).entries

/-- An object made of the entries of a map. -/
def ofMap (m : OrderedMap String Value) : Value := .object m.entries

/-- The value, or null without one. -/
def ofOption : Option Value → Value
  | none => .null
  | some v => v

/-- A field of an object. -/
def field? (name : String) : Value → Option Value
  | .object fields => OrderedMap.find? name fields
  | _ => none

/-- The integer a value is, if it fits a signed word. -/
def asInt64? : Value → Option Int
  | .number (.int n) => if minInt64 ≤ n ∧ n ≤ maxInt64 then some n else none
  | _ => none

/-- The integer a value is, if it fits an unsigned word. -/
def asUInt64? : Value → Option Nat
  | .number (.int n) => if 0 ≤ n ∧ n ≤ maxUInt64 then some n.toNat else none
  | _ => none

/-- The name of a value's kind. -/
def kind : Value → String
  | .null => "null"
  | .bool _ => "boolean"
  | .number _ => "number"
  | .string _ => "string"
  | .array _ => "array"
  | .object _ => "object"

/-! ## Equality -/

mutual

/-- Equality of values can be decided. -/
def decEq : (a b : Value) → Decidable (a = b)
  | .null, .null => isTrue rfl
  | .bool a, .bool b => decidable_of_iff (a = b) (by simp)
  | .number a, .number b => decidable_of_iff (a = b) (by simp)
  | .string a, .string b => decidable_of_iff (a = b) (by simp)
  | .array a, .array b =>
    match decEqItems a b with
    | isTrue h => isTrue (by rw [h])
    | isFalse h => isFalse (by simpa using h)
  | .object a, .object b =>
    match decEqFields a b with
    | isTrue h => isTrue (by rw [h])
    | isFalse h => isFalse (by simpa using h)
  | .null, .bool _ | .null, .number _ | .null, .string _ | .null, .array _ | .null, .object _
  | .bool _, .null | .bool _, .number _ | .bool _, .string _ | .bool _, .array _
  | .bool _, .object _ | .number _, .null | .number _, .bool _ | .number _, .string _
  | .number _, .array _ | .number _, .object _ | .string _, .null | .string _, .bool _
  | .string _, .number _ | .string _, .array _ | .string _, .object _ | .array _, .null
  | .array _, .bool _ | .array _, .number _ | .array _, .string _ | .array _, .object _
  | .object _, .null | .object _, .bool _ | .object _, .number _ | .object _, .string _
  | .object _, .array _ => isFalse (by simp)

/-- Equality of lists of values can be decided. -/
def decEqItems : (a b : List Value) → Decidable (a = b)
  | [], [] => isTrue rfl
  | x :: a, y :: b =>
    match decEq x y, decEqItems a b with
    | isTrue h, isTrue h' => isTrue (by rw [h, h'])
    | isFalse h, _ => isFalse (by simp [h])
    | _, isFalse h => isFalse (by simp [h])
  | [], _ :: _ | _ :: _, [] => isFalse (by simp)

/-- Equality of lists of fields can be decided. -/
def decEqFields : (a b : List (String × Value)) → Decidable (a = b)
  | [], [] => isTrue rfl
  | (m, x) :: a, (n, y) :: b =>
    match decEq x y, decEqFields a b with
    | isTrue h, isTrue h' => decidable_of_iff (m = n) (by simp [h, h'])
    | isFalse h, _ => isFalse (by simp [h])
    | _, isFalse h => isFalse (by simp [h])
  | [], _ :: _ | _ :: _, [] => isFalse (by simp)

end

instance : DecidableEq Value := decEq

end Value

end Cadence
