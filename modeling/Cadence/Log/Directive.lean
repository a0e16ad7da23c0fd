import Cadence.Config.Basic
import Cadence.Log.Event
import Cadence.Log.Pattern
import Cadence.Text.Alphanumeric
import Cadence.Text.Bytes

/-!
# Directives of a log filter

A directive names a level, or a target with conditions on the surrounding span and on a field in
brackets, and a level behind an equals sign: `target[span{field=value}]=level`. Each part may be
left out. Places are looked for in the directive without the white space around it, but counted in
bytes from the start of the directive as it is written, and reading breaks off where such a place
falls inside a character.
-/

namespace Cadence

/-- What is let through: the events up to a level, or none. -/
inductive Threshold where
  | off
  | upTo (level : Level)
  deriving DecidableEq, Repr

/-- A condition on a field: that it is there, and perhaps that its value matches. -/
structure FieldCondition where
  name : String
  value : Option String := none
  deriving DecidableEq, Repr

/-- What is let through of the events of some targets. -/
structure Directive where
  target : List Char := []
  span : Option String := none
  field : Option FieldCondition := none
  threshold : Threshold := .upTo .trace
  deriving DecidableEq, Repr

/-- Why a text is no filter. -/
inductive FilterFault where
  | invalid
  /-- A place that is counted in bytes falls inside a character. -/
  | insideCharacter
  deriving DecidableEq, Repr

namespace Threshold

/-- The thresholds by name. -/
def names : List (String × Threshold) :=
  [("error", .upTo .error), ("warn", .upTo .warn), ("info", .upTo .info), ("debug", .upTo .debug),
    ("trace", .upTo .trace), ("off", .off), ("", .upTo .error)]

/-- The thresholds by number. -/
def numbers : List Threshold :=
  [.off, .upTo .error, .upTo .warn, .upTo .info, .upTo .debug, .upTo .trace]

/-- The threshold that a text names, in letters of either case or by number. -/
def ofText? (cs : List Char) : Option Threshold :=
  ((Config.readWord? cs).bind fun n => numbers[n.toNat]?) <|>
    OrderedMap.find? (String.ofList (cs.map Char.toLower)) names

/-- Whether events of a level are let through. -/
def admits (level : Level) : Threshold → Bool
  | off => false
  | upTo limit => level.rank ≤ limit.rank

end Threshold

namespace FieldCondition

/-- Whether a text behind its sign writes a number: digits with a point or an exponent, or a word
for what is no finite number. -/
def isMagnitude (cs : List Char) : Bool :=
  String.ofList (cs.map Char.toLower) ∈ ["inf", "infinity", "nan"] ||
    let whole := cs.takeWhile Char.isDigit
    let rest := cs.drop whole.length
    let (fraction, rest) := match rest with
      | '.' :: r => (r.takeWhile Char.isDigit, r.dropWhile Char.isDigit)
      | r => ([], r)
    !(whole ++ fraction).isEmpty &&
      match rest with
      | [] => true
      | e :: exponent =>
        let digits := match exponent with
          | '+' :: r => r
          | '-' :: r => r
          | r => r
        (e = 'e' || e = 'E') && !digits.isEmpty && digits.all Char.isDigit

/-- Whether a text is a value to compare with: a pattern, or a number behind a plus sign, which is
no pattern. Every other number and the truth values are patterns too. -/
def isValue : List Char → Bool
  | '+' :: rest => isMagnitude rest
  | cs => Pattern.isWellFormed cs

/-- The condition that a text writes; what stands behind a second equals sign is passed over. -/
def ofText? (cs : List Char) : Option FieldCondition :=
  let isPlain (c : Char) : Bool := c != '='
  let name := cs.takeWhile isPlain
  match cs.drop name.length with
  | '=' :: rest =>
    let value := rest.takeWhile isPlain
    if isValue value then some ⟨String.ofList name, some (String.ofList value)⟩ else none
  | _ => some ⟨String.ofList name, none⟩

end FieldCondition

namespace Directive

/-! ## Reading -/

/-- Whether a directive without brackets in front may start with a character. -/
def canStart (c : Char) : Bool := Text.isAlphanumeric c || c ∈ ['-', ':', '_']

/-- The part of a text between two places. -/
def cut (written : List Char) (start stop : Nat) : Except FilterFault (List Char) :=
  match Text.slice? start stop written with
  | some cs => .ok cs
  | none => .error .insideCharacter

/-- The part of a text from a place on. -/
def cutFrom (written : List Char) (start : Nat) : Except FilterFault (List Char) :=
  cut written start (Text.byteSize written)

/-- The first of some characters: it, its place, and what follows it. -/
def firstOf? (stops : List Char) : Nat → List Char → Option (Char × Nat × List Char)
  | _, [] => none
  | place, c :: rest =>
    if c ∈ stops then some (c, place, rest) else firstOf? stops (place + c.utf8Size) rest

variable (written : List Char)

/-- The directive with the threshold that starts at a place; nothing there is everything. -/
def withLevel (d : Directive) (start : Nat) : Except FilterFault Directive := do
  let text ← cutFrom written start
  match if text.isEmpty then some (.upTo .trace) else Threshold.ofText? text with
  | some threshold => return { d with threshold := threshold }
  | none => throw .invalid

/-- What follows the closing bracket at the given place. -/
def afterBracket (d : Directive) (place : Nat) : List Char → Except FilterFault Directive
  | [] => .ok d
  | '=' :: _ => withLevel written d (place + 2)
  | _ => .error .invalid

/-- The condition on a field from a place on, and what follows it. -/
def withField (d : Directive) (start : Nat) (cs : List Char) : Except FilterFault Directive :=
  match firstOf? ['}'] start cs with
  | none => .error .invalid
  | some (_, place, rest) => do
    let text ← cut written start place
    match text, FieldCondition.ofText? text, rest with
    | _ :: _, some field, ']' :: rest =>
      afterBracket written { d with field := some field } (place + 1) rest
    | _, _, _ => throw .invalid

/-- The name of a span from a place on, and what follows it. A condition on a field may stand alone,
but brackets without one name a span, be it by nothing. -/
def withSpan (d : Directive) (start : Nat) (cs : List Char) : Except FilterFault Directive :=
  match firstOf? [']', '{'] start cs with
  | none => .error .invalid
  | some (stop, place, rest) => do
    let name ← cut written start place
    let span := String.ofList name
    if stop = ']' then afterBracket written { d with span := some span } place rest
    else
      withField written { d with span := if name.isEmpty then none else some span } (place + 1) rest

/-- A directive without the white space around it, given with that as written. -/
def ofTrimmed : List Char → Except FilterFault Directive
  | [] => .error .invalid
  | '[' :: rest => withSpan written {} 1 rest
  | c :: rest =>
    if canStart c then
      match firstOf? ['=', '['] 0 (c :: rest) with
      | none =>
        .ok (match Threshold.ofText? written with
          | some threshold => { threshold := threshold }
          | none => { target := written })
      | some (stop, place, rest) => do
        let d : Directive := { target := ← cut written 0 place }
        if stop = '=' then withLevel written d (place + 1) else withSpan written d (place + 1) rest
    else .error .invalid

/-- The directive that a text writes. -/
def ofText (cs : List Char) : Except FilterFault Directive := ofTrimmed cs (Text.trim cs)

/-! ## Meaning -/

/-- Whether a directive is about events. One with a span or with a value of a field is about the
events in spans, and there are no spans. -/
def concernsEvents (d : Directive) : Bool :=
  d.span.isNone && (d.field.bind FieldCondition.value).isNone

/-- Whether a directive covers an event: its target starts with that of the directive, and it has
the field that is asked for. -/
def covers (d : Directive) (e : Event) : Bool :=
  d.target.isPrefixOf e.target.toList &&
    match d.field with
    | some f => f.name ∈ e.fieldNames
    | none => true

/-- Whether a directive decides before another one that covers the same event and comes after it:
its target is longer, or it asks for a field and the other does not, or for one with a later name.
-/
def precedes (d other : Directive) : Bool :=
  if d.target.length ≠ other.target.length then other.target.length < d.target.length
  else
    match d.field, other.field with
    | some f, some g => g.name < f.name
    | some _, none => true
    | none, _ => false

end Directive

end Cadence
