import Cadence.Text.Hex
import Cadence.Yaml.Cursor

/-!
# Tags, anchors and directives

The properties that stand before a node, and the lines that start with a percent sign. A tag can
write any byte by its code, so it is a row of bytes and need not be a text; a zero byte ends it.
Every reader answers with what it read and the cursor after it.
-/

namespace Cadence.Yaml

/-- A tag in full. -/
abbrev Tag : Type := List UInt8

/-- A tag as it is written: a handle, empty for a whole tag, and the rest. -/
structure TagText where
  handle : List Char
  suffix : Tag
  deriving DecidableEq, Repr, Inhabited

/-- A directive. -/
inductive Directive where
  | version (major minor : Nat)
  | tag (handle : List Char) (replacement : Tag)
  deriving DecidableEq, Repr

/-! ## Anchors -/

/-- Whether an anchor may end before the next character. -/
def Cursor.endsAnchor (c : Cursor) : Bool :=
  c.gapAt 0 ||
    match c.head? with
    | some ch => ch ∈ ['?', ':', ',', ']', '}', '%', '@', Char.ofNat 0x60]
    | none => true

/-- The name of an anchor or alias behind its indicator. -/
def Cursor.anchor? (c : Cursor) : Option (List Char × Cursor) :=
  let (name, c) := c.takeWhile isWordChar
  if name.isEmpty || !c.endsAnchor then none else some (name, c)

/-! ## Tags -/

/-- Whether a character may stand in a tag; one in angle brackets may also have commas and brackets.
-/
def isTagChar (whole : Bool) (c : Char) : Bool :=
  isWordChar c || c ∈ [';', '/', '?', ':', '@', '&', '=', '+', '$', '.', '%', '!', '~', '*', '\'',
    '(', ')'] || (whole && c ∈ [',', '[', ']'])

/-- Number of bytes of the character that starts with a byte. -/
def widthOfByte? (b : UInt8) : Option Nat :=
  if b < 0x80 then some 1
  else if 0xc0 ≤ b ∧ b < 0xe0 then some 2
  else if 0xe0 ≤ b ∧ b < 0xf0 then some 3
  else if 0xf0 ≤ b ∧ b < 0xf8 then some 4
  else none

/-- A byte written as a percent sign and two digits. -/
def escapedByte? : List Char → Option (UInt8 × List Char)
  | '%' :: a :: b :: rest => (Text.Hex.read? [a, b]).map fun n => (UInt8.ofNat n, rest)
  | _ => none

/-- The further bytes of a character. -/
def moreBytes? : Nat → List Char → Option (List UInt8 × List Char)
  | 0, cs => some ([], cs)
  | count + 1, cs => do
    let (b, rest) ← escapedByte? cs
    if 0x80 ≤ b ∧ b < 0xc0 then
      let (bs, rest) ← moreBytes? count rest
      return (b :: bs, rest)
    else none

/-- The bytes of one character written by their codes. -/
def escapedBytes? (cs : List Char) : Option (List UInt8 × List Char) := do
  let (b, rest) ← escapedByte? cs
  let (bs, rest) ← moreBytes? ((← widthOfByte? b) - 1) rest
  return (b :: bs, rest)

/-- The bytes of some characters, all of them in ASCII. -/
def asciiBytes (cs : List Char) : List UInt8 := cs.map fun c => UInt8.ofNat c.toNat

/-- The bytes that the characters of a tag write. -/
def tagBytes? : Nat → List Char → Option (List UInt8)
  | _, [] => some []
  | 0, _ => none
  | fuel + 1, '%' :: rest => do
    let (bs, rest) ← escapedBytes? ('%' :: rest)
    return bs ++ (← tagBytes? fuel rest)
  | fuel + 1, c :: rest => do return asciiBytes [c] ++ (← tagBytes? fuel rest)

/-- The bytes before the first zero. -/
def untilZero (bytes : List UInt8) : List UInt8 := bytes.takeWhile fun b => b != 0

/-- The characters of the rest of a tag, and the cursor after them. -/
def Cursor.tagChars (c : Cursor) (whole : Bool) : List Char × Cursor :=
  c.takeWhile (isTagChar whole)

/-- The rest of a tag, which must be written by at least one character. -/
def Cursor.tagSuffix? (c : Cursor) (whole : Bool) : Option (Tag × Cursor) :=
  let (written, c) := c.tagChars whole
  if written.isEmpty then none
  else (tagBytes? written.length written).map fun bytes => (untilZero bytes, c)

/-- An exclamation mark, the word behind it, and a second mark if there is one. -/
def Cursor.tagHandle? (c : Cursor) : Option (List Char × Cursor) :=
  match c.rest with
  | '!' :: _ =>
    let (word, c) := (c.advance 1).takeWhile isWordChar
    if c.startsWith '!' then some ('!' :: word ++ ['!'], c.advance 1) else some ('!' :: word, c)
  | _ => none

/-- Whether a handle ends with a second mark. -/
def isWholeHandle (handle : List Char) : Bool := 1 < handle.length && handle.getLast? == some '!'

/-- A tag behind an exclamation mark that starts no handle; the mark alone is a whole tag. -/
def Cursor.localTag? (c : Cursor) (word : List Char) : Option (TagText × Cursor) := do
  let (written, c) := c.tagChars false
  let suffix := untilZero (asciiBytes word ++ (← tagBytes? written.length written))
  return (if suffix.isEmpty then ⟨[], asciiBytes ['!']⟩ else ⟨['!'], suffix⟩, c)

/-- A tag up to what ends it. -/
def Cursor.tagBody? (c : Cursor) : Option (TagText × Cursor) :=
  match c.rest with
  | '!' :: '<' :: _ => do
    let (suffix, c) ← (c.advance 2).tagSuffix? true
    if c.startsWith '>' then return (⟨[], suffix⟩, c.advance 1) else none
  | _ => do
    let (handle, c) ← c.tagHandle?
    if isWholeHandle handle then
      let (suffix, c) ← c.tagSuffix? false
      return (⟨handle, suffix⟩, c)
    else c.localTag? handle.tail

/-- A tag; between brackets a comma may follow it. -/
def Cursor.tag? (c : Cursor) (inFlow : Bool) : Option (TagText × Cursor) := do
  let (tag, c) ← c.tagBody?
  if c.gapAt 0 || (inFlow && c.startsWith ',') then return (tag, c) else none

/-! ## Directives -/

/-- A number of at most nine digits. -/
def Cursor.number? (c : Cursor) : Option (Nat × Cursor) :=
  let (digits, c) := c.takeWhile Char.isDigit
  if digits.isEmpty || 9 < digits.length then none
  else some (digits.foldl (fun n d => n * 10 + (d.toNat - 0x30)) 0, c)

/-- The value of a version directive. -/
def Cursor.version? (c : Cursor) : Option (Directive × Cursor) := do
  let (major, c) ← c.skipBlanks.number?
  if c.startsWith '.' then
    let (minor, c) ← (c.advance 1).number?
    return (.version major minor, c)
  else none

/-- The value of a tag directive. -/
def Cursor.replacement? (c : Cursor) : Option (Directive × Cursor) := do
  let (handle, c) ← c.skipBlanks.tagHandle?
  if handle ≠ ['!'] ∧ !isWholeHandle handle then none
  else if c.atBlank then
    let (replacement, c) ← c.skipBlanks.tagSuffix? true
    if c.gapAt 0 then return (.tag handle replacement, c) else none
  else none

/-- A directive behind its percent sign, up to the end of its line. -/
def Cursor.directive? (c : Cursor) : Option (Directive × Cursor) := do
  let (name, c) := c.takeWhile isWordChar
  if !c.gapAt 0 then none
  else
    let (directive, c) ←
      if name = "YAML".toList then c.version?
      else if name = "TAG".toList then c.replacement?
      else none
    let c ← c.skipToLineEnd?
    return (directive, c.skipBreak)

end Cadence.Yaml
