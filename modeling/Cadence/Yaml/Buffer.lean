import Cadence.Text.Bytes

/-!
# Buffers

The text of a scalar is put together in a buffer that starts with sixteen bytes. It doubles when a
single character finds at most five bytes left, but not for a run of characters that joins two
words: such a run has to fit what is left, or reading stops for good.
-/

namespace Cadence.Yaml

/-- Why there is no document. -/
inductive Fault where
  /-- The text is not well formed. -/
  | malformed
  /-- A run of characters does not fit the buffer of its scalar. -/
  | overflow
  deriving DecidableEq, Repr, Inhabited

/-- What a reader finds, or why it finds nothing. -/
abbrev Reading : Type → Type := Except Fault

namespace Reading

/-- Something that is there unless the text is malformed. -/
def ofOption {α : Type} : Option α → Reading α
  | some a => .ok a
  | none => .error .malformed

end Reading

/-- A text in a buffer: its characters from the last to the first, and how many of how many bytes
are used. -/
structure Buffer where
  reversed : List Char := []
  used : Nat := 0
  capacity : Nat := 16
  deriving DecidableEq, Repr, Inhabited

namespace Buffer

/-- The text. -/
def text (b : Buffer) : List Char := b.reversed.reverse

/-- Number of bytes left. -/
def room (b : Buffer) : Nat := b.capacity - b.used

/-- The buffer with one more character, after it has grown if need be. -/
def push (b : Buffer) (c : Char) : Buffer where
  reversed := c :: b.reversed
  used := b.used + c.utf8Size
  capacity := if b.capacity ≤ b.used + 5 then 2 * b.capacity else b.capacity

/-- The buffer with some more characters, one by one. -/
def pushAll (b : Buffer) (cs : List Char) : Buffer := cs.foldl push b

/-- The buffer with a run of characters, which has to fit. -/
def join (b : Buffer) (cs : List Char) : Reading Buffer :=
  if Text.byteSize cs ≤ b.room then
    .ok { b with reversed := cs.reverse ++ b.reversed, used := b.used + Text.byteSize cs }
  else .error .overflow

end Buffer

end Cadence.Yaml
