import Cadence.Text.Hex
import Cadence.Text.Hidden

/-!
# Quoted texts

The form in which messages quote a text: between double quotes, with the quote, the backslash and
the common controls escaped by a letter and every other character that does not show by its code.
-/

namespace Cadence.Text

/-- A character by its code. -/
def byCode (c : Char) : List Char :=
  '\\' :: 'u' :: '{' :: (Hex.digits c.toNat ++ ['}'])

/-- A character as it stands in a quoted text. -/
def quoteChar (c : Char) : List Char :=
  if c = '"' then ['\\', '"']
  else if c = '\\' then ['\\', '\\']
  else if c.toNat = 0 then ['\\', '0']
  else if c = '\t' then ['\\', 't']
  else if c = '\n' then ['\\', 'n']
  else if c = '\r' then ['\\', 'r']
  else if c.toNat < 0x20 ∨ c.toNat = 0x7f ∨ isHidden c then byCode c
  else [c]

/-- A text between quotes. -/
def quoted (s : String) : String :=
  "\"" ++ String.ofList (s.toList.flatMap quoteChar) ++ "\""

/-- Several texts with commas between them. -/
def commaSeparated (parts : List String) : String := String.intercalate ", " parts

end Cadence.Text
