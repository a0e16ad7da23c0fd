import Cadence.Identity
import Mathlib.Tactic.Ring

/-!
# Identifiers read back

The text of an identifier is its 32 digits in five groups, and reading the text gives the identifier
again (`ParticipantId.ofText_text`). So no two identifiers have one text.
-/

namespace Cadence

/-! ## Digits -/

namespace Text.Hex

/-- A digit takes one byte. -/
lemma utf8Size_digit {n : Nat} (h : n < 16) : (digit n).utf8Size = 1 := by
  have all : ∀ m ∈ List.range 16, (digit m).utf8Size = 1 := by decide
  exact all n (List.mem_range.2 h)

/-- A number of fixed width takes a byte for each digit. -/
lemma byteSize_fixed (width n : Nat) : byteSize (fixed width n) = width := by
  induction width generalizing n with
  | zero => rfl
  | succ width ih =>
    rw [fixed, byteSize_append, ih]
    exact congrArg (width + ·) (utf8Size_digit (Nat.mod_lt n (by decide)))

/-- Digits are read one after another. -/
lemma readFrom_append (n : Nat) (cs ds : List Char) :
    readFrom n (cs ++ ds) = (readFrom n cs).bind fun m => readFrom m ds := by
  induction cs generalizing n with
  | nil => rfl
  | cons c rest ih =>
    rw [List.cons_append, readFrom, readFrom]
    cases value? c with
    | none => rfl
    | some d => exact ih _

/-- Digits of a fixed width read back onto a number as its lowest places. -/
lemma readFrom_fixed (width n m : Nat) :
    readFrom n (fixed width m) = some (n * 16 ^ width + m % 16 ^ width) := by
  induction width generalizing m with
  | zero => rw [fixed, readFrom, Nat.pow_zero, Nat.mod_one, Nat.mul_one, Nat.add_zero]
  | succ width ih =>
    rw [fixed, readFrom_append, ih, Option.bind_some, readFrom,
      value?_digit (Nat.mod_lt m (by decide)), Option.bind_some, readFrom, Nat.pow_succ',
      Nat.mod_mul]
    congr 1
    ring

/-- A number that has room in its width reads back. -/
theorem read?_fixed {width n : Nat} (h : n < 16 ^ width) : read? (fixed width n) = some n := by
  rw [read?, readFrom_fixed, Nat.zero_mul, Nat.zero_add, Nat.mod_eq_of_lt h]

end Text.Hex

/-! ## Groups -/

namespace Identity

/-- Groups of the right lengths between hyphens are the digits in a row. -/
lemma digitsOfGroups?_of_lengths {as bs cs ds es : List Char} (a : as.length = 8)
    (b : bs.length = 4) (c : cs.length = 4) (d : ds.length = 4) (e : es.length = 12) :
    digitsOfGroups? (as ++ '-' :: (bs ++ '-' :: (cs ++ '-' :: (ds ++ '-' :: es)))) =
      some (as ++ bs ++ cs ++ ds ++ es) := by
  rw [digitsOfGroups?, if_pos]
  · simp (disch := omega) [List.drop_append, List.drop_of_length_le, a, b, c, d]
  · simp [List.getElem?_append, a, b, c, d, e]

/-- Taken apart in groups and put together again, the digits are the same. -/
lemma regrouped (cs : List Char) :
    cs.take 8 ++ (cs.drop 8).take 4 ++ (cs.drop 12).take 4 ++ (cs.drop 16).take 4 ++ cs.drop 20 =
      cs := by
  have rejoined : ∀ n, (cs.drop n).take 4 ++ cs.drop (n + 4) = cs.drop n := fun n => by
    rw [← List.drop_drop, List.take_append_drop]
  simp only [List.append_assoc, rejoined 16, rejoined 12, rejoined 8, List.take_append_drop]

/-- The digits of the groups are the digits. -/
theorem digitsOfGroups?_hyphenated {cs : List Char} (h : cs.length = 32) :
    digitsOfGroups? (hyphenated cs) = some cs := by
  rw [hyphenated, digitsOfGroups?_of_lengths]
  · rw [regrouped]
  all_goals simp [h]

/-- The hyphens take four bytes. -/
lemma byteSize_hyphenated (cs : List Char) :
    Text.byteSize (hyphenated cs) = Text.byteSize cs + 4 := by
  have whole := congrArg Text.byteSize (regrouped cs)
  simp only [Text.byteSize_append] at whole
  have hyphen : '-'.utf8Size = 1 := rfl
  simp only [hyphenated, Text.byteSize_append, Text.byteSize, hyphen]
  omega

/-- What is written is in the form with groups. -/
lemma formOf_text (value : BitVec 128) :
    formOf (text value).toList = .grouped (text value).toList := by
  have size : Text.byteSize (text value).toList = 36 := by
    rw [text, String.toList_ofList, byteSize_hyphenated, Text.Hex.byteSize_fixed]
  rw [formOf, size]
  rfl

/-- What is written is read back. -/
theorem ofText_text (value : BitVec 128) : ofText (text value) = .ok value := by
  have digits : digitsOf? (text value).toList = some (Text.Hex.fixed 32 value.toNat) := by
    rw [digitsOf?, formOf_text]
    show digitsOfGroups? (text value).toList = _
    rw [text, String.toList_ofList, digitsOfGroups?_hyphenated (Text.Hex.length_fixed _ _)]
  have room : value.toNat < 16 ^ 32 := value.isLt
  rw [ofText, digits, Option.bind_some, Text.Hex.read?_fixed room]
  exact congrArg Except.ok (BitVec.eq_of_toNat_eq (Nat.mod_eq_of_lt value.isLt))

end Identity

namespace ParticipantId

/-- The text of an identifier reads back. -/
theorem ofText_text (id : ParticipantId) : ofText id.text = .ok id := by
  rw [ofText, text, Identity.ofText_text]
  rfl

/-- No two identifiers are written alike. -/
theorem text_injective : Function.Injective text := by
  intro id id' same
  have read := congrArg ofText same
  rw [ofText_text, ofText_text] at read
  exact Except.ok.inj read

end ParticipantId

end Cadence
