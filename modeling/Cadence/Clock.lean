import Cadence.Json.Decode
import Cadence.Numeric.Word

/-!
# Time and the clock

Time is discrete and ordered: a first value, a next value where there is one, and texts. The clock
of a run holds the current time and counts the ticks; `Clock.increment` moves both or neither.
-/

namespace Cadence

/-- A representation of time. -/
class Time (T : Type) extends Ord T where
  initial : T
  next? : T → Option T
  text : T → String
  debugText : T → String
  encode : T → Value

/-- Time as a count of ticks. -/
structure IntegerTime where
  value : UInt64
  deriving DecidableEq, Repr, Inhabited

namespace IntegerTime

instance : Time IntegerTime where
  compare a b := compare a.value.toNat b.value.toNat
  initial := ⟨0⟩
  next? t := (Word.succ? t.value).map .mk
  text t := toString t.value.toNat
  debugText t := "IntegerTime(" ++ toString t.value.toNat ++ ")"
  encode t := .nat t.value.toNat

/-- Read a time. -/
def decode (v : Value) : Except DecodeError IntegerTime := (Decode.uint64 v).map .mk

end IntegerTime

/-- Time in steps of ten seconds that ends after fifty. -/
structure Decade where
  value : UInt8
  deriving DecidableEq, Repr, Inhabited

namespace Decade

/-- The text of a number of tens. -/
def secondsText (n : Nat) : String := toString n ++ "0s"

instance : Time Decade where
  compare a b := compare a.value.toNat b.value.toNat
  initial := ⟨0⟩
  next? t := if t.value < 5 then some ⟨t.value + 1⟩ else none
  text t := secondsText t.value.toNat
  debugText t := "Decade(" ++ toString t.value.toNat ++ ")"
  encode t := .nat t.value.toNat

end Decade

/-- The clock of a run. -/
structure Clock (T : Type) where
  current : T
  ticks : UInt64 := 0
  deriving DecidableEq, Repr

/-- The clock cannot advance beyond the time with the given text. -/
inductive ClockError where
  | overflow (current : String)
  deriving DecidableEq, Repr

namespace ClockError

/-- The text of the cause. -/
def message : ClockError → String
  | overflow current => "clock overflow: cannot advance beyond " ++ current

end ClockError

namespace Clock

variable {T : Type} [Time T]

/-- A clock that starts at the given time. -/
def startingAt (t : T) : Clock T := ⟨t, 0⟩

/-- A clock at the first time. -/
def new : Clock T := startingAt Time.initial

/-- Advance by one tick: the clock after it, or why there is none. -/
def increment (c : Clock T) : Except ClockError (Clock T) :=
  match Time.next? c.current, Word.succ? c.ticks with
  | some t, some n => .ok ⟨t, n⟩
  | _, _ => .error (.overflow (Time.text c.current))

/-- How the clock shows in a debug text. -/
def debugText (c : Clock T) : String :=
  "Clock \x7b current: " ++ Time.debugText c.current ++ ", ticks: " ++ toString c.ticks.toNat ++
    " \x7d"

end Clock

end Cadence
