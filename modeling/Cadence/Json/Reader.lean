import Cadence.Json.Value
import Cadence.Text.Hex

/-!
# Values from documents

A reader for the text form of values. Every part takes the characters left and answers with what it
read and the characters after it. An integer that fits a word stays an integer; one beyond, `-0` and
everything with a point or an exponent is a floating point number.
-/

namespace Cadence

namespace Value

/-- Leave out the white space between tokens. -/
def skipBlank : List Char → List Char
  | [] => []
  | c :: rest => if c = ' ' ∨ c = '\t' ∨ c = '\n' ∨ c = '\r' then skipBlank rest else c :: rest

/-- Leave out a word that has to come next. -/
def skipWord : List Char → List Char → Option (List Char)
  | [], cs => some cs
  | w :: word, c :: cs => if w = c then skipWord word cs else none
  | _ :: _, [] => none

/-- Four hexadecimal digits. -/
def readUnit : List Char → Option (Nat × List Char)
  | a :: b :: c :: d :: rest => (Text.Hex.read? [a, b, c, d]).map fun n => (n, rest)
  | _ => none

/-- The character that an escape by code units stands for; two units of a pair make one character
and a unit without its partner none. -/
def readCode (cs : List Char) : Option (Char × List Char) := do
  let (first, rest) ← readUnit cs
  if 0xdc00 ≤ first ∧ first ≤ 0xdfff then none
  else if 0xd800 ≤ first ∧ first ≤ 0xdbff then
    match rest with
    | '\\' :: 'u' :: rest => do
      let (second, rest) ← readUnit rest
      if 0xdc00 ≤ second ∧ second ≤ 0xdfff then
        return (Char.ofNat (0x10000 + (first - 0xd800) * 0x400 + (second - 0xdc00)), rest)
      else none
    | _ => none
  else return (Char.ofNat first, rest)

/-- The characters up to the closing quote, read onto a reversed prefix. -/
def readString : Nat → List Char → List Char → Option (String × List Char)
  | 0, _, _ => none
  | _ + 1, _, [] => none
  | fuel + 1, done, c :: rest =>
    if c = '"' then some (String.ofList done.reverse, rest)
    else if c = '\\' then
      match rest with
      | 'u' :: rest => (readCode rest).bind fun (c, rest) => readString fuel (c :: done) rest
      | e :: rest =>
        let plain : Option Char :=
          match e with
          | '"' => some '"'
          | '\\' => some '\\'
          | '/' => some '/'
          | 'b' => some (Char.ofNat 0x08)
          | 'f' => some (Char.ofNat 0x0c)
          | 'n' => some '\n'
          | 'r' => some '\r'
          | 't' => some '\t'
          | _ => none
        plain.bind fun c => readString fuel (c :: done) rest
      | [] => none
    else if c.toNat < 0x20 then none
    else readString fuel (c :: done) rest

/-! ## Numbers -/

/-- The value of a decimal digit. -/
def digitValue? (c : Char) : Option Nat :=
  if '0' ≤ c ∧ c ≤ '9' then some (c.toNat - 0x30) else none

/-- The characters up to the first that is no digit, and the rest. -/
def spanDigits : List Char → List Nat × List Char
  | [] => ([], [])
  | c :: rest =>
    match digitValue? c with
    | some d => ((d :: (spanDigits rest).1), (spanDigits rest).2)
    | none => ([], c :: rest)

/-- Digits put onto a significand of one word, as many as fit, with the number of those that did. -/
def fillSignificand : Nat → Nat → List Nat → Nat × Nat
  | significand, taken, [] => (significand, taken)
  | significand, taken, d :: rest =>
    if significand * 10 + d ≤ maxUInt64 then fillSignificand (significand * 10 + d) (taken + 1) rest
    else (significand, taken)

/-- The natural number with the given digits. -/
def ofDigits (ds : List Nat) : Nat := ds.foldl (fun n d => n * 10 + d) 0

/-- The exponent at the start of the characters, if there is one. -/
def readExponent : List Char → Option (Option Int × List Char)
  | c :: rest =>
    if c = 'e' ∨ c = 'E' then
      let (positive, rest) : Bool × List Char :=
        match rest with
        | '+' :: rest => (true, rest)
        | '-' :: rest => (false, rest)
        | rest => (true, rest)
      match spanDigits rest with
      | ([], _) => none
      | (ds, rest) =>
        some (some (if positive then (ofDigits ds : Int) else -(ofDigits ds : Int)), rest)
    else some (none, c :: rest)
  | [] => some (none, [])

/-- The fraction at the start of the characters, if there is one. -/
def readFraction : List Char → Option (Option (List Nat) × List Char)
  | '.' :: rest =>
    match spanDigits rest with
    | ([], _) => none
    | (ds, rest) => some (some ds, rest)
  | rest => some (none, rest)

/-- A number without fraction and exponent. -/
def integerOf (negative : Bool) (digits : List Nat) : Option Number :=
  let n := ofDigits digits
  let fits := if negative then 0 < n ∧ n ≤ 0x8000000000000000 else n ≤ maxUInt64
  if fits then some (.int (if negative then -(n : Int) else n))
  else
    let (significand, taken) := fillSignificand 0 0 digits
    (Double.ofDecimal? negative (UInt64.ofNat significand) (digits.length - taken : Nat)).map .float

/-- A number with a fraction or an exponent. Digits that the significand has no room for count as
places before the point and are dropped after it. -/
def floatOf (negative : Bool) (digits : List Nat) (fraction : List Nat) (exponent : Int) :
    Option Number :=
  let (whole, taken) := fillSignificand 0 0 digits
  let (significand, places) := fillSignificand whole 0 fraction
  let dropped : Int := (digits.length - taken : Nat)
  (Double.ofDecimal? negative (UInt64.ofNat significand) (dropped - places + exponent)).map .float

/-- A number. -/
def readNumber (cs : List Char) : Option (Number × List Char) := do
  let (negative, cs) : Bool × List Char :=
    match cs with
    | '-' :: rest => (true, rest)
    | cs => (false, cs)
  let (digits, rest) := spanDigits cs
  match digits with
  | [] => none
  | 0 :: _ :: _ => none
  | _ =>
    let (fraction, rest) ← readFraction rest
    let (exponent, rest) ← readExponent rest
    let n ←
      if fraction = none ∧ exponent = none then integerOf negative digits
      else floatOf negative digits (fraction.getD []) (exponent.getD 0)
    return (n, rest)

/-! ## Values -/

mutual

/-- A value, of at most the given depth and length. -/
def readValue : Nat → List Char → Option (Value × List Char)
  | 0, _ => none
  | fuel + 1, cs =>
    match skipBlank cs with
    | '"' :: rest =>
      (readString (rest.length + 1) [] rest).map fun (s, rest) => (.string s, rest)
    | '[' :: rest =>
      match skipBlank rest with
      | ']' :: rest => some (.array [], rest)
      | rest => readItems fuel [] rest
    | '{' :: rest =>
      match skipBlank rest with
      | '}' :: rest => some (.object [], rest)
      | rest => readFields fuel [] rest
    | 't' :: rest => (skipWord "rue".toList rest).map fun rest => (.bool true, rest)
    | 'f' :: rest => (skipWord "alse".toList rest).map fun rest => (.bool false, rest)
    | 'n' :: rest => (skipWord "ull".toList rest).map fun rest => (.null, rest)
    | rest => (readNumber rest).map fun (n, rest) => (.number n, rest)

/-- The items of an array up to its end, read onto a reversed prefix. -/
def readItems : Nat → List Value → List Char → Option (Value × List Char)
  | 0, _, _ => none
  | fuel + 1, done, cs =>
    (readValue fuel cs).bind fun (v, rest) =>
      match skipBlank rest with
      | ',' :: rest => readItems fuel (v :: done) rest
      | ']' :: rest => some (.array (v :: done).reverse, rest)
      | _ => none

/-- The fields of an object up to its end, read onto a reversed prefix. -/
def readFields : Nat → List (String × Value) → List Char → Option (Value × List Char)
  | 0, _, _ => none
  | fuel + 1, done, cs =>
    match skipBlank cs with
    | '"' :: rest =>
      (readString (rest.length + 1) [] rest).bind fun (name, rest) =>
        match skipBlank rest with
        | ':' :: rest =>
          (readValue fuel rest).bind fun (v, rest) =>
            match skipBlank rest with
            | ',' :: rest => readFields fuel ((name, v) :: done) rest
            | '}' :: rest => some (.ofFields ((name, v) :: done).reverse, rest)
            | _ => none
        | _ => none
    | _ => none

end

/-- The value that a document holds; nothing but white space may follow it. -/
def ofDocument? (document : String) : Option Value :=
  let cs := document.toList
  match readValue (cs.length + 1) cs with
  | some (v, rest) => if (skipBlank rest).isEmpty then some v else none
  | none => none

end Value

end Cadence
