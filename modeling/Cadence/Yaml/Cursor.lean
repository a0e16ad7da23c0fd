import Cadence.Text.Bytes

/-!
# Places in a document

A cursor is what is left of a document together with its place: the number of bytes before it, its
line and its column. A carriage return and a line feed make one line break, and most line breaks
count as a line feed.
-/

namespace Cadence.Yaml

/-- Whether a character ends a line. -/
def isBreak (c : Char) : Bool :=
  c == '\n' || c == '\r' || c.toNat == 0x85 || c.toNat == 0x2028 || c.toNat == 0x2029

/-- Whether a character is a space or a tab. -/
def isBlank (c : Char) : Bool := c == ' ' || c == '\t'

/-- Whether a character may stand in a document. -/
def isAllowed (c : Char) : Bool :=
  let n := c.toNat
  n == 0x9 || n == 0xa || n == 0xd || (0x20 ≤ n && n ≤ 0x7e) || n == 0x85 ||
    (0xa0 ≤ n && n ≤ 0xfffd) || 0x10000 ≤ n

/-- Whether a character may stand in a name. -/
def isWordChar (c : Char) : Bool := c.isAlphanum || c == '-' || c == '_'

/-- The mark that may open a line without showing. -/
def byteOrderMark : Char := Char.ofNat 0xfeff

/-- What is left of a document, and where it starts. -/
structure Cursor where
  rest : List Char
  index : Nat := 0
  line : Nat := 0
  column : Nat := 0
  deriving DecidableEq, Repr, Inhabited

namespace Cursor

/-- The next character. -/
def head? (c : Cursor) : Option Char := c.rest.head?

/-- Whether the next character is the given one. -/
def startsWith (c : Cursor) (ch : Char) : Bool := c.rest.head? == some ch

/-- Whether nothing is left. -/
def atEnd (c : Cursor) : Bool := c.rest.isEmpty

/-- Whether the given number of characters further on there is white space or the end. -/
def gapAt (c : Cursor) (n : Nat) : Bool :=
  match c.rest[n]? with
  | some ch => isBlank ch || isBreak ch
  | none => true

/-- Whether the next character is a space or a tab. -/
def atBlank (c : Cursor) : Bool :=
  match c.rest with
  | ch :: _ => isBlank ch
  | [] => false

/-- Whether the next character ends a line. -/
def atBreak (c : Cursor) : Bool :=
  match c.rest with
  | ch :: _ => isBreak ch
  | [] => false

/-- Whether the line or the document ends here. -/
def atLineEnd (c : Cursor) : Bool := c.atEnd || c.atBreak

/-- The cursor some characters further on in the line. -/
def advance (c : Cursor) (n : Nat) : Cursor :=
  { c with
    rest := c.rest.drop n
    index := c.index + Text.byteSize (c.rest.take n)
    column := c.column + n }

/-- The cursor after a line break of the given number of characters. -/
def nextLine (c : Cursor) (n : Nat) : Cursor :=
  { rest := c.rest.drop n
    index := c.index + Text.byteSize (c.rest.take n)
    line := c.line + 1
    column := 0 }

/-- The line break that comes next, as the character it counts for, and the cursor after it. -/
def takeBreak? (c : Cursor) : Option (Char × Cursor) :=
  match c.rest with
  | '\r' :: '\n' :: _ => some ('\n', c.nextLine 2)
  | ch :: _ =>
    if ch.toNat = 0x2028 ∨ ch.toNat = 0x2029 then some (ch, c.nextLine 1)
    else if isBreak ch then some ('\n', c.nextLine 1)
    else none
  | [] => none

/-- The cursor after a line break, if one comes next. -/
def skipBreak (c : Cursor) : Cursor :=
  match c.takeBreak? with
  | some (_, c) => c
  | none => c

/-- The characters up to the first that fails a test, and the cursor after them. -/
def takeWhile (c : Cursor) (test : Char → Bool) : List Char × Cursor :=
  let taken := c.rest.takeWhile test
  (taken, c.advance taken.length)

/-- The cursor at the first character that fails a test. -/
def skipWhile (c : Cursor) (test : Char → Bool) : Cursor := (c.takeWhile test).2

/-- The cursor after spaces and tabs. -/
def skipBlanks (c : Cursor) : Cursor := c.skipWhile isBlank

/-- The cursor at the end of the line if a comment starts here. -/
def skipComment (c : Cursor) : Cursor :=
  if c.startsWith '#' then c.skipWhile fun ch => !isBreak ch else c

/-- The cursor at the end of the line if nothing but white space and a comment comes before it. -/
def skipToLineEnd? (c : Cursor) : Option Cursor :=
  let c := c.skipBlanks.skipComment
  if c.atLineEnd then some c else none

/-- Whether three equal characters and white space stand at the start of the line. -/
def atMarker (c : Cursor) (ch : Char) : Bool :=
  c.column == 0 && c.rest.take 3 == [ch, ch, ch] && c.gapAt 3

/-- Whether a document starts or ends here. -/
def atDocumentMarker (c : Cursor) : Bool := c.atMarker '-' || c.atMarker '.'

end Cursor

end Cadence.Yaml
