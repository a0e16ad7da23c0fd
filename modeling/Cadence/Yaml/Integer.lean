import Cadence.Text.Hex

/-!
# Unsigned integers in documents

An optional plus sign, then decimal digits without leading zeros, or digits of another base behind
`0x`, `0o` or `0b`.
-/

namespace Cadence.Yaml

/-- Digits of a base read onto a number. -/
def readBase (base : Nat) : Nat → List Char → Option Nat
  | n, [] => some n
  | n, c :: rest =>
    (Text.Hex.value? c).bind fun d => if d < base then readBase base (n * base + d) rest else none

/-- The number that at least one digit of a base writes. -/
def digits? (base : Nat) (cs : List Char) : Option Nat :=
  if cs.isEmpty then none else readBase base 0 cs

/-- The unsigned integer that a text writes. -/
def unsigned? (cs : List Char) : Option Nat :=
  let body := match cs with
    | '+' :: rest => rest
    | cs => cs
  match body with
  | '0' :: 'x' :: rest => digits? 16 rest
  | '0' :: 'o' :: rest => digits? 8 rest
  | '0' :: 'b' :: rest => digits? 2 rest
  | '0' :: _ :: _ => none
  | body => digits? 10 body

end Cadence.Yaml
