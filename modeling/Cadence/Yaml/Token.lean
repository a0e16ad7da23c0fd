import Cadence.Yaml.Scalar
import Cadence.Yaml.Tag

/-!
# Tokens

The tokens of a document, with the starts and ends of collections that indentation marks. Whether
something is a key shows only at the colon behind it; so the scanner keeps, for every level of
brackets, the place where a key may have started, and puts the tokens of a key there when the colon
comes.
-/

namespace Cadence.Yaml

/-- A token. -/
inductive Token where
  | directive (d : Directive)
  | documentStart
  | documentEnd
  | blockSequenceStart
  | blockMappingStart
  | blockEnd
  | flowSequenceStart
  | flowSequenceEnd
  | flowMappingStart
  | flowMappingEnd
  | blockEntry
  | flowEntry
  | key
  | value
  | alias (name : List Char)
  | anchor (name : List Char)
  | tag (t : TagText)
  | scalar (style : ScalarStyle) (text : List Char)
  deriving DecidableEq, Repr

/-- A place where a key may have started. -/
structure KeyPlace where
  /-- Number of tokens before it. -/
  position : Nat
  index : Nat
  line : Nat
  column : Nat
  /-- Whether it can be nothing but a key. -/
  required : Bool
  deriving DecidableEq, Repr

/-- The scanner: where it stands, the tokens so far in reverse, the columns of the open collections
from the innermost, whether a key may start here, and the place of a possible key for every level of
brackets, from the innermost. -/
structure Scanner where
  cursor : Cursor
  tokens : List Token := []
  count : Nat := 0
  indents : List Nat := []
  keyAllowed : Bool := true
  keys : List (Option KeyPlace) := [none]
  deriving DecidableEq, Repr

namespace Scanner

/-- Whether the scanner is inside brackets. -/
def inFlow (s : Scanner) : Bool := 1 < s.keys.length

/-- The column of the innermost open collection, minus one without any. -/
def indent (s : Scanner) : Int :=
  match s.indents with
  | column :: _ => column
  | [] => -1

/-- Where the lines of a scalar have to start. -/
def firstColumn (s : Scanner) : Nat := (s.indent + 1).toNat

/-- Add a token. -/
def emit (s : Scanner) (t : Token) : Scanner :=
  { s with tokens := t :: s.tokens, count := s.count + 1 }

/-- Put tokens behind the given number of tokens. -/
def insertAt (s : Scanner) (position : Nat) (ts : List Token) : Scanner :=
  let later := s.count - position
  { s with
    tokens := s.tokens.take later ++ ts.reverse ++ s.tokens.drop later
    count := s.count + ts.length }

/-- Move on to a cursor. -/
def goTo (s : Scanner) (c : Cursor) : Scanner := { s with cursor := c }

/-- Say whether a key may start here. -/
def allowKey (s : Scanner) (allowed : Bool) : Scanner := { s with keyAllowed := allowed }

/-- The possible key of the innermost level. -/
def possibleKey? (s : Scanner) : Option KeyPlace :=
  match s.keys with
  | k :: _ => k
  | [] => none

/-- Set the possible key of the innermost level. -/
def setKey (s : Scanner) (k : Option KeyPlace) : Scanner := { s with keys := k :: s.keys.tail }

/-- Give up the possible key of the innermost level; one that can be nothing else is an error. -/
def dropKey (s : Scanner) : Reading Scanner :=
  match s.possibleKey? with
  | some k => if k.required then .error .malformed else .ok (s.setKey none)
  | none => .ok (s.setKey none)

/-- Keep the place as that of a possible key, if a key may start here. -/
def saveKey (s : Scanner) : Reading Scanner :=
  if s.keyAllowed then do
    let s ← s.dropKey
    let c := s.cursor
    let required := !s.inFlow && s.indent == (c.column : Int)
    return s.setKey (some ⟨s.count, c.index, c.line, c.column, required⟩)
  else .ok s

/-- The longest text that can be a key, in bytes. -/
def longestKey : Nat := 1024

/-- Whether a place is too far back for a key: a key stands on one line. -/
def isStale (c : Cursor) (k : KeyPlace) : Bool := k.line < c.line || k.index + longestKey < c.index

/-- The places where keys are still possible. -/
def livingKeys (s : Scanner) : List KeyPlace :=
  (s.keys.filterMap id).filter fun k => !isStale s.cursor k

/-- Give up the possible keys that are too far back. -/
def dropStale (s : Scanner) : Reading Scanner :=
  if s.keys.any fun k => k.any fun k => isStale s.cursor k && k.required then .error .malformed
  else .ok { s with keys := s.keys.map fun k => k.filter fun k => !isStale s.cursor k }

/-- Number of tokens before which nothing will be put any more. -/
def settled (s : Scanner) : Nat := (s.livingKeys.map KeyPlace.position).foldl min s.count

/-- Open a block collection at a column, unless one is open there or further in; its token goes
behind the given number of tokens. -/
def openBlock (s : Scanner) (column position : Nat) (t : Token) : Scanner :=
  if !s.inFlow && s.indent < (column : Int) then
    { s.insertAt position [t] with indents := column :: s.indents }
  else s

/-- Close the collections of some columns that start further in than the given one. -/
def closeBlocks (s : Scanner) (column : Int) : List Nat → Scanner
  | [] => { s with indents := [] }
  | i :: rest =>
    if column < (i : Int) then (s.emit .blockEnd).closeBlocks column rest
    else { s with indents := i :: rest }

/-- Close the block collections that start further in than a column. -/
def closeTo (s : Scanner) (column : Int) : Scanner :=
  if s.inFlow then s else s.closeBlocks column s.indents

/-! ## White space -/

/-- Skip white space, comments and line breaks before the next token. A tab may not stand where a
key can start. -/
def skipSpace : Nat → Scanner → Scanner
  | 0, s => s
  | fuel + 1, s =>
    let c := s.cursor
    let c := if c.column = 0 ∧ c.startsWith byteOrderMark then c.advance 1 else c
    let tabs := s.inFlow || !s.keyAllowed
    let c := (c.skipWhile fun ch => ch == ' ' || (tabs && ch == '\t')).skipComment
    match c.takeBreak? with
    | some (_, c) => skipSpace fuel { s with cursor := c, keyAllowed := s.keyAllowed || !s.inFlow }
    | none => s.goTo c

/-! ## Tokens -/

/-- A token of one character. -/
def single (s : Scanner) (t : Token) : Scanner := (s.emit t).goTo (s.cursor.advance 1)

/-- A mark that starts or ends a document. -/
def marker (s : Scanner) (t : Token) : Reading Scanner := do
  let s ← (s.closeTo (-1)).dropKey
  return ((s.allowKey false).emit t).goTo (s.cursor.advance 3)

/-- A directive. -/
def directive (s : Scanner) : Reading Scanner := do
  let s ← (s.closeTo (-1)).dropKey
  let (d, c) ← Reading.ofOption (s.cursor.advance 1).directive?
  return ((s.allowKey false).emit (.directive d)).goTo c

/-- An opening bracket. -/
def openFlow (s : Scanner) (t : Token) : Reading Scanner := do
  let s ← s.saveKey
  return ({ s with keys := none :: s.keys }.allowKey true).single t

/-- A closing bracket. -/
def closeFlow (s : Scanner) (t : Token) : Reading Scanner := do
  let s ← s.dropKey
  let s := if s.inFlow then { s with keys := s.keys.tail } else s
  return (s.allowKey false).single t

/-- A comma between brackets. -/
def flowEntry (s : Scanner) : Reading Scanner := do
  let s ← s.dropKey
  return (s.allowKey true).single .flowEntry

/-- A hyphen before an item. -/
def blockEntry (s : Scanner) : Reading Scanner :=
  if !s.inFlow && !s.keyAllowed then .error .malformed
  else do
    let s ← (s.openBlock s.cursor.column s.count .blockSequenceStart).dropKey
    return (s.allowKey true).single .blockEntry

/-- A question mark before a key. -/
def key (s : Scanner) : Reading Scanner :=
  if !s.inFlow && !s.keyAllowed then .error .malformed
  else do
    let s ← (s.openBlock s.cursor.column s.count .blockMappingStart).dropKey
    return (s.allowKey !s.inFlow).single .key

/-- A colon before a value. -/
def value (s : Scanner) : Reading Scanner :=
  match s.possibleKey? with
  | some k =>
    let s := (s.insertAt k.position [.key]).openBlock k.column k.position .blockMappingStart
    .ok (((s.setKey none).allowKey false).single .value)
  | none =>
    if !s.inFlow && !s.keyAllowed then .error .malformed
    else
      let s := s.openBlock s.cursor.column s.count .blockMappingStart
      .ok ((s.allowKey !s.inFlow).single .value)

/-- An alias or an anchor. -/
def anchor (s : Scanner) (make : List Char → Token) : Reading Scanner := do
  let s ← s.saveKey
  let (name, c) ← Reading.ofOption (s.cursor.advance 1).anchor?
  return ((s.allowKey false).emit (make name)).goTo c

/-- A tag. -/
def tag (s : Scanner) : Reading Scanner := do
  let s ← s.saveKey
  let (t, c) ← Reading.ofOption (s.cursor.tag? s.inFlow)
  return ((s.allowKey false).emit (.tag t)).goTo c

/-- A block scalar. -/
def block (s : Scanner) (style : ScalarStyle) : Reading Scanner := do
  let s ← s.dropKey
  let (text, c) ← (s.cursor.advance 1).block style s.indent
  return ((s.allowKey true).emit (.scalar style text)).goTo c

/-- A quoted scalar. -/
def quoted (s : Scanner) (style : ScalarStyle) (quote : Char) : Reading Scanner := do
  let s ← s.saveKey
  let (text, c) ← (s.cursor.advance 1).quoted quote
  return ((s.allowKey false).emit (.scalar style text)).goTo c

/-- A plain scalar. -/
def plain (s : Scanner) : Reading Scanner := do
  let s ← s.saveKey
  let (text, lineEnded, c) ← s.cursor.plain s.inFlow s.firstColumn
  return ((s.allowKey lineEnded).emit (.scalar .plain text)).goTo c

/-- The characters with a meaning of their own at the start of a token. -/
def indicators : List Char := "-?:,[]\x7b\x7d#&*!|>'\"%@\x60".toList

/-- Whether a plain scalar can start here. -/
def canStartPlain (s : Scanner) : Bool :=
  let c := s.cursor
  match c.rest with
  | [] => false
  | ch :: rest =>
    !(isBlank ch || isBreak ch || ch ∈ indicators) ||
      (ch == '-' && !(rest.head?.any isBlank)) ||
      (!s.inFlow && (ch == '?' || ch == ':') && !c.gapAt 1)

/-- The next token, at the place where it starts. -/
def token (s : Scanner) : Reading Scanner :=
  let c := s.cursor
  if c.column = 0 ∧ c.startsWith '%' then s.directive
  else if c.atMarker '-' then s.marker .documentStart
  else if c.atMarker '.' then s.marker .documentEnd
  else
    match c.head? with
    | some '[' => s.openFlow .flowSequenceStart
    | some '{' => s.openFlow .flowMappingStart
    | some ']' => s.closeFlow .flowSequenceEnd
    | some '}' => s.closeFlow .flowMappingEnd
    | some ',' => s.flowEntry
    | some '*' => s.anchor .alias
    | some '&' => s.anchor .anchor
    | some '!' => s.tag
    | some '\'' => s.quoted .singleQuoted '\''
    | some '"' => s.quoted .doubleQuoted '"'
    | head =>
      if head = some '-' ∧ c.gapAt 1 then s.blockEntry
      else if head = some '?' ∧ (s.inFlow || c.gapAt 1) then s.key
      else if head = some ':' ∧ (s.inFlow || c.gapAt 1) then s.value
      else if head = some '|' ∧ !s.inFlow then s.block .literal
      else if head = some '>' ∧ !s.inFlow then s.block .folded
      else if s.canStartPlain then s.plain
      else .error .malformed

/-- What comes next: another token with what belongs to it, or the end of the document, at which
every block collection ends and no key is left open. -/
def step (s : Scanner) : Reading (Scanner × Bool) := do
  let s ← (s.skipSpace (s.cursor.rest.length + 1)).dropStale
  let s := s.closeTo s.cursor.column
  if s.cursor.atEnd then return (← (s.closeTo (-1)).dropKey, true)
  else return (← s.token, false)

end Scanner

/-- The tokens of a document, and why there are no more if it cannot be scanned to its end. -/
structure Tokens where
  all : List Token := []
  fault : Option Fault := none
  deriving DecidableEq, Repr, Inhabited

namespace Tokens

/-- Scan on, at most the given number of tokens. Of a scan that stops before the end only the tokens
count that were settled before. -/
def scan : Nat → Scanner → Tokens
  | 0, _ => { fault := some .malformed }
  | fuel + 1, s =>
    match s.step with
    | .error f => ⟨s.tokens.reverse.take s.settled, some f⟩
    | .ok (s, true) => { all := s.tokens.reverse }
    | .ok (s, false) => scan fuel s

/-- The tokens of a document. -/
def ofText (cs : List Char) : Tokens :=
  if cs.all isAllowed then scan (cs.length + 1) { cursor := { rest := cs } }
  else { fault := some .malformed }

end Tokens

end Cadence.Yaml
