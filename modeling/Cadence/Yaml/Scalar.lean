import Cadence.Text.Hex
import Cadence.Yaml.Buffer
import Cadence.Yaml.Cursor

/-!
# Scalars

The ways to write a text in a document: plain, between single or double quotes, and as a block of
lines. White space between the words of a scalar is folded: a single line break counts as a space,
and of several the first is left out. Every reader answers with the text and the cursor after it;
characters go into the buffer of the scalar one by one, and gaps as a whole.
-/

namespace Cadence.Yaml

/-- How a scalar is written. -/
inductive ScalarStyle where
  | plain
  | singleQuoted
  | doubleQuoted
  | literal
  | folded
  deriving DecidableEq, Repr, Inhabited

/-! ## Gaps between words -/

/-- White space inside a scalar: what stands before the first line break, and the line breaks. -/
structure Gap where
  blanks : List Char := []
  breaks : List Char := []
  deriving DecidableEq, Repr, Inhabited

namespace Gap

/-- Put what a gap counts for into a buffer. -/
def into (g : Gap) (b : Buffer) : Reading Buffer :=
  match g.breaks with
  | [] => b.join g.blanks
  | ['\n'] => .ok (b.push ' ')
  | '\n' :: others => b.join others
  | breaks => b.join breaks

/-- Read a gap. Behind a line break no tab may stand before the given column. -/
def read (firstColumn : Nat) : Nat → Gap → Cursor → Reading (Gap × Cursor)
  | 0, g, c => .ok (g, c)
  | fuel + 1, g, c =>
    match c.takeBreak? with
    | some (ch, c) => read firstColumn fuel { g with breaks := g.breaks ++ [ch] } c
    | none =>
      match c.rest with
      | ch :: _ =>
        if isBlank ch then
          if g.breaks.isEmpty then
            read firstColumn fuel { g with blanks := g.blanks ++ [ch] } (c.advance 1)
          else if ch = '\t' ∧ c.column < firstColumn then .error .malformed
          else read firstColumn fuel g (c.advance 1)
        else .ok (g, c)
      | [] => .ok (g, c)

end Gap

/-! ## Plain scalars -/

/-- Whether a character ends a plain scalar between brackets. -/
def isFlowIndicator (c : Char) : Bool := c == ',' || c == '[' || c == ']' || c == '{' || c == '}'

/-- The characters of a plain scalar up to white space or an indicator, and whether a colon before
another indicator between brackets, where none may stand, ends them. -/
def plainWord (inFlow : Bool) : List Char → List Char × Bool
  | [] => ([], false)
  | ch :: rest =>
    if isBlank ch || isBreak ch then ([], false)
    else if inFlow && isFlowIndicator ch then ([], false)
    else if ch = ':' then
      match rest with
      | [] => ([], false)
      | next :: _ =>
        if inFlow && (isFlowIndicator next || next == '?') then ([], true)
        else if isBlank next || isBreak next then ([], false)
        else
          let (word, misplaced) := plainWord inFlow rest
          (ch :: word, misplaced)
    else
      let (word, misplaced) := plainWord inFlow rest
      (ch :: word, misplaced)

/-- Read a plain scalar into a buffer, with the gap before its next word. The answer also says
whether a line break came after it. -/
def readPlain (inFlow : Bool) (firstColumn : Nat) :
    Nat → Buffer → Gap → Cursor → Reading (List Char × Bool × Cursor)
  | 0, _, _, _ => .error .malformed
  | fuel + 1, b, gap, c =>
    if c.atDocumentMarker || c.startsWith '#' then return (b.text, !gap.breaks.isEmpty, c)
    else do
      let (word, misplaced) := plainWord inFlow c.rest
      let (b, gap) ←
        if word.isEmpty then .ok (b, gap)
        else (gap.into b).map fun b => (b.pushAll word, ({} : Gap))
      let c := c.advance word.length
      if misplaced then .error .malformed
      else if c.atBlank || c.atBreak then
        let (gap, c) ← Gap.read firstColumn (c.rest.length + 1) gap c
        if !inFlow && c.column < firstColumn then return (b.text, !gap.breaks.isEmpty, c)
        else readPlain inFlow firstColumn fuel b gap c
      else return (b.text, !gap.breaks.isEmpty, c)

/-- Read a plain scalar whose lines after the first start at the given column or behind it. -/
def Cursor.plain (c : Cursor) (inFlow : Bool) (firstColumn : Nat) :
    Reading (List Char × Bool × Cursor) :=
  readPlain inFlow firstColumn (c.rest.length + 1) {} {} c

/-! ## Quoted scalars -/

/-- The character of a code given by some hexadecimal digits. -/
def charOfDigits? (digits : List Char) : Option Char := do
  let n ← Text.Hex.read? digits
  if (0xd800 ≤ n ∧ n ≤ 0xdfff) ∨ 0x10ffff < n then none else return Char.ofNat n

/-- The character that an escape stands for, and the number of characters behind the backslash. -/
def escaped? : List Char → Option (Char × Nat)
  | '0' :: _ => some (Char.ofNat 0, 1)
  | 'a' :: _ => some (Char.ofNat 0x07, 1)
  | 'b' :: _ => some (Char.ofNat 0x08, 1)
  | 't' :: _ => some ('\t', 1)
  | '\t' :: _ => some ('\t', 1)
  | 'n' :: _ => some ('\n', 1)
  | 'v' :: _ => some (Char.ofNat 0x0b, 1)
  | 'f' :: _ => some (Char.ofNat 0x0c, 1)
  | 'r' :: _ => some ('\r', 1)
  | 'e' :: _ => some (Char.ofNat 0x1b, 1)
  | ' ' :: _ => some (' ', 1)
  | '"' :: _ => some ('"', 1)
  | '/' :: _ => some ('/', 1)
  | '\\' :: _ => some ('\\', 1)
  | 'N' :: _ => some (Char.ofNat 0x85, 1)
  | '_' :: _ => some (Char.ofNat 0xa0, 1)
  | 'L' :: _ => some (Char.ofNat 0x2028, 1)
  | 'P' :: _ => some (Char.ofNat 0x2029, 1)
  | 'x' :: rest => ofCode 2 rest
  | 'u' :: rest => ofCode 4 rest
  | 'U' :: rest => ofCode 8 rest
  | _ => none
where
  /-- The character of a code with a fixed number of digits. -/
  ofCode (width : Nat) (rest : List Char) : Option (Char × Nat) :=
    if rest.length < width then none
    else (charOfDigits? (rest.take width)).map fun c => (c, width + 1)

/-- A piece of a quoted scalar. -/
inductive QuotedPiece where
  | char (c : Char)
  | joinedLine
  | closing
  | gap
  deriving DecidableEq, Repr

/-- The next piece of a scalar between the given quotes, and the cursor after it; a gap is left
there. -/
def quotedPiece? (quote : Char) (c : Cursor) : Option (QuotedPiece × Cursor) :=
  match c.rest with
  | [] => none
  | ch :: rest =>
    if ch = quote then
      if quote = '\'' ∧ rest.head? = some '\'' then some (.char '\'', c.advance 2)
      else some (.closing, c.advance 1)
    else if isBlank ch || isBreak ch then some (.gap, c)
    else if ch = '\\' ∧ quote = '"' then
      if (c.advance 1).atBreak then some (.joinedLine, (c.advance 1).skipBreak)
      else (escaped? rest).map fun (e, n) => (.char e, c.advance (n + 1))
    else some (.char ch, c.advance 1)

/-- Read a quoted scalar into a buffer, up to the closing quote. At the start of a line there may be
no document marker. -/
def readQuoted (quote : Char) : Nat → Buffer → Cursor → Reading (List Char × Cursor)
  | 0, _, _ => .error .malformed
  | fuel + 1, b, c =>
    if c.atDocumentMarker then .error .malformed
    else
      match quotedPiece? quote c with
      | none => .error .malformed
      | some (.char ch, c) => readQuoted quote fuel (b.push ch) c
      | some (.closing, c) => .ok (b.text, c)
      | some (.joinedLine, c) => do
        let (gap, c) ← Gap.read 0 (c.rest.length + 1) { breaks := [' '] } c
        readQuoted quote fuel (← b.join gap.breaks.tail) c
      | some (.gap, c) => do
        let (gap, c) ← Gap.read 0 (c.rest.length + 1) {} c
        readQuoted quote fuel (← gap.into b) c

/-- Read a quoted scalar behind its opening quote. -/
def Cursor.quoted (c : Cursor) (quote : Char) : Reading (List Char × Cursor) :=
  readQuoted quote (c.rest.length + 1) {} c

/-! ## Blocks -/

/-- What becomes of the line breaks at the end of a block. -/
inductive Chomping where
  | strip
  | clip
  | keep
  deriving DecidableEq, Repr

/-- The chomping and the indentation of a block's header, in either order, and the cursor after it.
-/
def blockHeader? (c : Cursor) : Option (Chomping × Nat × Cursor) :=
  match chomping? c with
  | some chomping => (indentation? (c.advance 1)).map fun (n, c) => (chomping, n, c)
  | none =>
    (indentation? c).map fun (n, c') =>
      match if n = 0 then none else chomping? c' with
      | some chomping => (chomping, n, c'.advance 1)
      | none => (.clip, n, c')
where
  /-- The chomping that the next character asks for. -/
  chomping? (c : Cursor) : Option Chomping :=
    match c.rest with
    | '+' :: _ => some .keep
    | '-' :: _ => some .strip
    | _ => none
  /-- The indentation that the next character asks for, zero if it does not. -/
  indentation? (c : Cursor) : Option (Nat × Cursor) :=
    match c.rest with
    | ch :: _ =>
      if ch = '0' then none
      else if ch.isDigit then some (ch.toNat - 0x30, c.advance 1)
      else some (0, c)
    | [] => some (0, c)

/-- Read the indentation and the empty lines before a line of a block: the line breaks, the greatest
column reached, and the cursor after them. An indentation of zero is not known yet. -/
def blockBreaks? (indent : Nat) : Nat → List Char → Nat → Cursor → Option (List Char × Nat × Cursor)
  | 0, breaks, widest, c => some (breaks, widest, c)
  | fuel + 1, breaks, widest, c =>
    let spaces := c.rest.takeWhile fun ch => ch == ' '
    let c := c.advance (if indent = 0 then spaces.length else min spaces.length (indent - c.column))
    let widest := max widest c.column
    if (indent = 0 ∨ c.column < indent) ∧ c.startsWith '\t' then none
    else
      match c.takeBreak? with
      | some (ch, c) => blockBreaks? indent fuel (breaks ++ [ch]) widest c
      | none => some (breaks, widest, c)

/-- What has been read of a block. -/
structure Block where
  buffer : Buffer := {}
  /-- The break at the end of the last line. -/
  lastBreak : List Char := []
  /-- The empty lines after it. -/
  breaks : List Char := []
  /-- Whether the last line starts with white space. -/
  indented : Bool := false
  deriving DecidableEq, Repr

namespace Block

/-- The text up to the line that comes next, which starts with white space or not. -/
def upToNext (style : ScalarStyle) (b : Block) (nextIndented : Bool) : Reading Buffer :=
  if style = .folded ∧ b.lastBreak = ['\n'] ∧ !b.indented ∧ !nextIndented then
    if b.breaks.isEmpty then .ok (b.buffer.push ' ') else b.buffer.join b.breaks
  else b.buffer.join (b.lastBreak ++ b.breaks)

/-- The text of a whole block. -/
def finish (b : Block) (chomping : Chomping) : Reading (List Char) :=
  Buffer.text <$>
    match chomping with
    | .strip => .ok b.buffer
    | .clip => b.buffer.join b.lastBreak
    | .keep => b.buffer.join (b.lastBreak ++ b.breaks)

end Block

/-- Read the lines of a block. -/
def blockLines (style : ScalarStyle) (indent : Nat) :
    Nat → Block → Cursor → Reading (Block × Cursor)
  | 0, _, _ => .error .malformed
  | fuel + 1, b, c =>
    if c.column = indent ∧ !c.atEnd then do
      let indented := c.atBlank
      let buffer ← b.upToNext style indented
      let (line, c) := c.takeWhile fun ch => !isBreak ch
      let (lastBreak, c) : List Char × Cursor :=
        match c.takeBreak? with
        | some (ch, c) => ([ch], c)
        | none => ([], c)
      let (breaks, _, c) ← Reading.ofOption (blockBreaks? indent (c.rest.length + 1) [] 0 c)
      blockLines style indent fuel ⟨buffer.pushAll line, lastBreak, breaks, indented⟩ c
    else .ok (b, c)

/-- The start of a block behind its indicator, inside a collection that starts at the given column,
minus one being none: the chomping, the indentation, and the empty lines before the text. -/
def Cursor.blockStart? (c : Cursor) (parent : Int) :
    Option (Chomping × Nat × List Char × Cursor) := do
  let (chomping, increment, c) ← blockHeader? c
  let c ← c.skipToLineEnd?
  let c := c.skipBreak
  let given := if increment = 0 then 0 else (max parent 0).toNat + increment
  let (breaks, widest, c) ← blockBreaks? given (c.rest.length + 1) [] 0 c
  let indent := if given = 0 then max (max widest (parent + 1).toNat) 1 else given
  return (chomping, indent, breaks, c)

/-- Read a block behind its indicator, inside a collection that starts at the given column; minus
one is none. -/
def Cursor.block (c : Cursor) (style : ScalarStyle) (parent : Int) :
    Reading (List Char × Cursor) := do
  let (chomping, indent, breaks, c) ← Reading.ofOption (c.blockStart? parent)
  let (b, c) ← blockLines style indent (c.rest.length + 1) { breaks := breaks } c
  return (← b.finish chomping, c)

end Cadence.Yaml
