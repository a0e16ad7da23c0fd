/-!
# Binary floating point numbers

Finite numbers of the 64-bit binary format as bit patterns, with everything computed in exact
natural arithmetic: rounding a ratio to the nearest number (`Double.ofRatio?`, ties to even),
reading a decimal (`Double.ofDecimal?`) and the shortest decimal that reads back
(`Double.shortest`).
-/

namespace Cadence

/-- A number of the 64-bit binary format, as its bit pattern. -/
structure Double where
  bits : UInt64
  deriving DecidableEq, Repr, Inhabited

namespace Double

/-- Number of significands between two powers of two. -/
def binade : Nat := 0x10000000000000

/-- The pattern in which the sign bit alone is set. -/
def signBit : Nat := 0x8000000000000000

/-- Quotient of two naturals rounded to the nearest natural, a tie to the even one. -/
def divNearest (num den : Nat) : Nat :=
  let q := num / den
  let r := num % den
  if 2 * r < den then q else if den < 2 * r then q + 1 else if q % 2 = 0 then q else q + 1

/-- The greatest `k` with `2 ^ k ≤ num / den`, for positive arguments. -/
def floorLog2 (num den : Nat) : Int :=
  let k : Int := (Nat.log2 num : Int) - (Nat.log2 den : Int)
  let below := if 0 ≤ k then num < den <<< k.toNat else num <<< (-k).toNat < den
  if below then k - 1 else k

/-- The bit pattern with the given sign whose magnitude is nearest to `num / den`; `none` when the
magnitude is beyond the largest finite number. -/
def ofRatio? (negative : Bool) (num den : Nat) : Option Double :=
  let sign : Nat := if negative then signBit else 0
  if num = 0 then some ⟨UInt64.ofNat sign⟩
  else
    let q : Int := max (floorLog2 num den - 52) (-1074)
    let m : Nat :=
      if 0 ≤ q then divNearest num (den <<< q.toNat) else divNearest (num <<< (-q).toNat) den
    let magnitude := ((q + 1074) * (binade : Int) + (m : Int)).toNat
    if magnitude < 2047 * binade then some ⟨UInt64.ofNat (sign + magnitude)⟩ else none

/-- Whether the sign bit is set. -/
def negative (x : Double) : Bool := signBit ≤ x.bits.toNat

/-- The magnitude as a significand and an exponent of two. -/
def parts (x : Double) : Nat × Int :=
  let e : Nat := x.bits.toNat / binade % 2048
  let f : Nat := x.bits.toNat % binade
  if e = 0 then (f, -1074) else (f + binade, (e : Int) - 1075)

/-- The magnitude as a ratio of naturals. -/
def ratio (x : Double) : Nat × Nat :=
  let (m, q) := x.parts
  if 0 ≤ q then (m <<< q.toNat, 1) else (m, 1 <<< (-q).toNat)

/-- The opposite number. -/
def neg (x : Double) : Double := ⟨x.bits ^^^ 0x8000000000000000⟩

/-- The number nearest to a natural number below `2 ^ 64`. -/
def ofNat (n : Nat) : Double := (ofRatio? false n 1).getD default

/-- The number nearest to a power of ten, which has to be a finite one. -/
def powerOfTen (n : Nat) : Double := ofNat (Nat.pow 10 n)

/-- Product, rounded once. -/
def mul? (x y : Double) : Option Double :=
  ofRatio? (x.negative != y.negative) (x.ratio.1 * y.ratio.1) (x.ratio.2 * y.ratio.2)

/-- Quotient by a number other than zero, rounded once. -/
def div? (x y : Double) : Option Double :=
  ofRatio? (x.negative != y.negative) (x.ratio.1 * y.ratio.2) (x.ratio.2 * y.ratio.1)

/-- Divide by `10 ^ 308` the given number of times. -/
def scaleDown : Nat → Double → Option Double
  | 0, x => some x
  | n + 1, x => (x.div? (powerOfTen 308)).bind (scaleDown n)

/-- The number written as a significand and a power of ten: the significand is rounded first, then
scaled by the power, in steps of `10 ^ 308` when the power is below the range. A number beyond the
largest finite one has no value. -/
def ofDecimal? (negative : Bool) (significand : UInt64) (exponent : Int) : Option Double :=
  let f := ofNat significand.toNat
  let magnitude :=
    if significand = 0 then some f
    else if 308 < exponent then none
    else if 0 ≤ exponent then f.mul? (powerOfTen exponent.toNat)
    else
      let n := (-exponent).toNat
      -- After three steps nothing is left of any significand.
      (scaleDown (min ((n - 1) / 308) 3) f).bind fun g =>
        if 3 < (n - 1) / 308 then some (ofNat 0)
        else g.div? (powerOfTen (n - 308 * ((n - 1) / 308)))
  magnitude.map fun x => if negative then x.neg else x

/-! ## The shortest decimal -/

/-- A decimal `digits * 10 ^ exponent`. -/
structure Decimal where
  digits : Nat
  exponent : Int
  deriving DecidableEq, Repr

/-- Compare `a / b` with `c / d` by cross multiplication: whether the first is at most the second.
-/
def ratioLe (a b c d : Nat) : Bool := a * d ≤ c * b

/-- The greatest `k` with `10 ^ k ≤ num / den`, looked for downwards from a first guess that is not
below it. -/
def floorLog10 (num den : Nat) : Nat → Int → Int
  | 0, k => k
  | fuel + 1, k =>
    let above := if 0 ≤ k then num < den * Nat.pow 10 k.toNat else num * Nat.pow 10 (-k).toNat < den
    if above then floorLog10 num den fuel (k - 1) else k

/-- The decimal on the grid of step `10 ^ e` that lies in the interval of reals which round to the
number and is nearest to it, if there is one: `lo`, `mid` and `hi` over `den` are the ends and the
number itself, and `closed` says whether the ends round to it too. -/
def onGrid? (lo mid hi den : Nat) (closed : Bool) (e : Int) : Option Decimal :=
  let up := Nat.pow 10 e.toNat
  let down := Nat.pow 10 (-e).toNat
  -- A grid point `d` stands for the ratio `d * up / down`.
  let d := mid * down / (den * up)
  let within (c : Nat) : Bool :=
    if closed then ratioLe lo den (c * up) down && ratioLe (c * up) down hi den
    else !ratioLe (c * up) down lo den && !ratioLe hi den (c * up) down
  let below := mid * down - d * up * den
  let above := (d + 1) * up * den - mid * down
  match within d && 0 < d, within (d + 1) with
  | true, true =>
    if below < above then some ⟨d, e⟩
    else if above < below then some ⟨d + 1, e⟩
    else if d % 2 = 0 then some ⟨d, e⟩ else some ⟨d + 1, e⟩
  | true, false => some ⟨d, e⟩
  | false, true => some ⟨d + 1, e⟩
  | false, false => none

/-- The first grid, from the coarsest, that has a decimal for the number. -/
def firstGrid (lo mid hi den : Nat) (closed : Bool) : Nat → Int → Decimal
  | 0, e => ⟨mid, e⟩
  | fuel + 1, e =>
    match onGrid? lo mid hi den closed e with
    | some d => d
    | none => firstGrid lo mid hi den closed fuel (e - 1)

/-- Drop zeros at the end of the digits. -/
def Decimal.trim : Nat → Decimal → Decimal
  | 0, d => d
  | fuel + 1, d =>
    if d.digits % 10 = 0 ∧ d.digits ≠ 0 then Decimal.trim fuel ⟨d.digits / 10, d.exponent + 1⟩
    else d

/-- The decimal of fewest digits that reads back as the magnitude of the number; of several, the one
nearest to it. -/
def shortest (x : Double) : Decimal :=
  let (m, q) := x.parts
  if m = 0 then ⟨0, 0⟩
  else
    let narrow := m = binade ∧ -1074 < q
    let scale : Int := q - 2
    let num (n : Nat) : Nat := n <<< scale.toNat
    let den := 1 <<< (-scale).toNat
    let lo := num (if narrow then 4 * m - 1 else 4 * m - 2)
    let mid := num (4 * m)
    let hi := num (4 * m + 2)
    -- Between a third and three tenths of the binary logarithm lies the decimal one.
    let log : Int := (Nat.log2 m : Int) + q
    let k := floorLog10 mid den 700 (max (log / 3) (log * 3 / 10) + 2)
    (firstGrid lo mid hi den (m % 2 = 0) 18 (k + 1)).trim 20

/-! ## Texts -/

/-- A row of zeros. -/
def zeros (n : Nat) : String := String.ofList (List.replicate n '0')

/-- Minus sign of a negative number. -/
def signText (x : Double) : String := if x.negative then "-" else ""

/-- The digits with all their zeros and a decimal point. -/
def positional (digits : String) (exponent : Int) : String :=
  let point := (digits.length : Int) + exponent
  if 0 ≤ exponent then digits ++ zeros exponent.toNat ++ ".0"
  else if 0 < point then
    String.ofList (digits.toList.take point.toNat) ++ "." ++
      String.ofList (digits.toList.drop point.toNat)
  else "0." ++ zeros (-point).toNat ++ digits

/-- The text of an exponent, which shows its sign. -/
def exponentText (e : Int) : String := if 0 ≤ e then "e+" ++ toString e else "e" ++ toString e

/-- The text of a number, with its shortest digits: without an exponent from `1e-5` up to `1e16`,
else with one digit before the point and an exponent. -/
def documentText (x : Double) : String :=
  let d := x.shortest
  let digits := toString d.digits
  let point := (digits.length : Int) + d.exponent
  if d.digits = 0 then x.signText ++ "0.0"
  else if -5 < point ∧ point ≤ 16 then x.signText ++ positional digits d.exponent
  else
    let tail := digits.toList.drop 1
    let fraction := if tail.isEmpty then "" else "." ++ String.ofList tail
    x.signText ++ String.ofList (digits.toList.take 1) ++ fraction ++ exponentText (point - 1)

end Double

end Cadence
