import Cadence.Config.Basic
import Mathlib.Data.List.DropRight
import Mathlib.Data.Nat.Digits.Defs

/-!
# Overrides from outside

A text writes a number if it is decimal digits, with a plus sign before them or none, and white
space at either end (`Text.Writes`). The limit of ticks is overridden exactly by the texts that
write a number of 64 bits, however many zeros come first; any other text is refused as it was given,
and then nothing is overridden (`overrides_by_written_numbers`).
-/

namespace Cadence

namespace Text

/-! ## What a text writes -/

/-- The value of decimal digits, the first being the greatest. -/
def decimal (digits : List Char) : Nat :=
  Nat.ofDigits 10 (digits.reverse.map fun c => c.toNat - '0'.toNat)

/-- The characters write the number in decimal digits, with a plus sign before them or none. -/
inductive Numeral : List Char → Nat → Prop where
  | unsigned {digits : List Char} (nonempty : digits ≠ []) (all : ∀ c ∈ digits, '0' ≤ c ∧ c ≤ '9') :
    Numeral digits (decimal digits)
  | signed {digits : List Char} (nonempty : digits ≠ []) (all : ∀ c ∈ digits, '0' ≤ c ∧ c ≤ '9') :
    Numeral ('+' :: digits) (decimal digits)

/-- The text writes the number, with white space at either end. -/
def Writes (s : String) (n : Nat) : Prop :=
  ∃ lead numeral trail, s.toList = lead ++ numeral ++ trail ∧
    (∀ c ∈ lead ++ trail, isBlank c = true) ∧ Numeral numeral n

/-! ## White space -/

/-- White space around characters that are none is taken away, and nothing else. -/
lemma trim_append {lead core trail : List Char} (blank : ∀ c ∈ lead ++ trail, isBlank c = true)
    (dark : ∀ c ∈ core, ¬isBlank c = true) : trim (lead ++ core ++ trail) = core := by
  have first : ∀ c ∈ lead, isBlank c = true := fun c mem => blank c (List.mem_append_left _ mem)
  have last : ∀ c ∈ trail.reverse, isBlank c = true := fun c mem =>
    blank c (List.mem_append_right _ (List.mem_reverse.1 mem))
  rw [trim, trimStart, trimStart, List.append_assoc, List.dropWhile_append_of_pos first]
  cases core with
  | nil =>
    have none : trail.dropWhile isBlank = [] :=
      List.dropWhile_eq_nil_iff.2 fun c mem => last c (List.mem_reverse.2 mem)
    rw [List.nil_append, none]
    rfl
  | cons c rest =>
    rw [List.cons_append, List.dropWhile_cons_of_neg (dark c List.mem_cons_self),
      ← List.cons_append, List.reverse_append, List.dropWhile_append_of_pos last]
    -- what is left ends with a character that is no white space
    cases back : (c :: rest).reverse with
    | nil => simp at back
    | cons d others =>
      have mem : d ∈ c :: rest := List.mem_reverse.1 (back ▸ List.mem_cons_self)
      rw [List.dropWhile_cons_of_neg (dark d mem), ← back, List.reverse_reverse]

/-- What is taken away from a text is white space. -/
lemma exists_eq_trim (cs : List Char) :
    ∃ lead trail, cs = lead ++ trim cs ++ trail ∧ ∀ c ∈ lead ++ trail, isBlank c = true := by
  refine ⟨cs.takeWhile isBlank, (trimStart cs).rtakeWhile isBlank, ?_, fun c mem => ?_⟩
  · have ends : trim cs ++ (trimStart cs).rtakeWhile isBlank = trimStart cs :=
      List.rdropWhile_append_rtakeWhile
    rw [List.append_assoc, ends]
    exact List.takeWhile_append_dropWhile.symm
  · rcases List.mem_append.1 mem with lead | trail
    · exact List.mem_takeWhile_imp lead
    · exact List.mem_rtakeWhile_imp trail

/-! ## Digits -/

/-- The first digit counts by the length of the rest. -/
lemma decimal_cons (c : Char) (rest : List Char) :
    decimal (c :: rest) = (c.toNat - '0'.toNat) * 10 ^ rest.length + decimal rest := by
  rw [decimal, decimal, List.reverse_cons, List.map_append, Nat.ofDigits_append, List.map_singleton,
    Nat.ofDigits_singleton, List.length_map, List.length_reverse]
  ring

/-- A digit is no blank. -/
lemma not_isBlank_of_digit {c : Char} (digit : '0' ≤ c ∧ c ≤ '9') : ¬isBlank c = true := by
  have least : 0x30 ≤ c.toNat := digit.1
  have greatest : c.toNat ≤ 0x39 := digit.2
  simp only [isBlank, Bool.or_eq_true, Bool.and_eq_true, decide_eq_true_eq, beq_iff_eq]
  omega

/-- No character of a numeral is white space. -/
lemma Numeral.not_isBlank {cs : List Char} {n : Nat} (h : Numeral cs n) :
    ∀ c ∈ cs, ¬isBlank c = true := by
  cases h with
  | unsigned _ all => exact fun c mem => not_isBlank_of_digit (all c mem)
  | signed _ all =>
    exact List.forall_mem_cons.2 ⟨by decide, fun c mem => not_isBlank_of_digit (all c mem)⟩

end Text

namespace Config

open Text

/-- A digit has its distance from the first one as its value. -/
lemma digit?_eq_some_iff {c : Char} {d : Nat} :
    digit? c = some d ↔ ('0' ≤ c ∧ c ≤ '9') ∧ c.toNat - '0'.toNat = d := by
  rw [digit?]
  split <;> simp_all

/-- Digits are read from the left, each adding a place to what was read before. -/
lemma readDigits_eq_some_iff {m n : Nat} {cs : List Char} :
    readDigits m cs = some n ↔
      (∀ c ∈ cs, '0' ≤ c ∧ c ≤ '9') ∧ m * 10 ^ cs.length + decimal cs = n := by
  induction cs generalizing m with
  | nil => simp [readDigits, decimal]
  | cons c rest ih =>
    have place (d : Nat) : (m * 10 + d) * 10 ^ rest.length + decimal rest =
        m * 10 ^ (rest.length + 1) + (d * 10 ^ rest.length + decimal rest) := by ring
    rw [readDigits, Option.bind_eq_some_iff, List.forall_mem_cons, decimal_cons, List.length_cons]
    simp only [digit?_eq_some_iff, ih, place]
    constructor
    · rintro ⟨d, ⟨digit, rfl⟩, all, value⟩
      exact ⟨⟨digit, all⟩, value⟩
    · rintro ⟨⟨digit, all⟩, value⟩
      exact ⟨_, ⟨digit, rfl⟩, all, value⟩

/-- Digits, if there are any, are read as the word of their value, if it is one. -/
lemma readDigits_word {digits : List Char} {w : UInt64} :
    ((readDigits 0 digits).bind fun n => if n ≤ maxUInt64 then some (UInt64.ofNat n) else none) =
        some w ↔
      (∀ c ∈ digits, '0' ≤ c ∧ c ≤ '9') ∧ decimal digits = w.toNat := by
  rw [Option.bind_eq_some_iff]
  simp only [readDigits_eq_some_iff, Nat.zero_mul, Nat.zero_add, Option.ite_none_right_eq_some,
    Option.some.injEq]
  constructor
  · rintro ⟨n, ⟨all, rfl⟩, bound, rfl⟩
    have small : decimal digits < UInt64.size := by
      rw [maxUInt64] at bound
      exact Nat.lt_of_le_pred (by decide) bound
    exact ⟨all, (UInt64.toNat_ofNat_of_lt' small).symm⟩
  · rintro ⟨all, value⟩
    have := w.toNat_lt
    refine ⟨w.toNat, ⟨all, value⟩, ?_, UInt64.ofNat_toNat⟩
    rw [maxUInt64]
    omega

/-- What begins with no sign is left as it is. -/
lemma dropPlus_cons_of_ne {c : Char} (plus : c ≠ '+') (rest : List Char) :
    dropPlus (c :: rest) = c :: rest := by
  simp [dropPlus, plus]

/-- The characters that are read as a word are the numerals of its value. -/
theorem readWord?_eq_some_iff {cs : List Char} {w : UInt64} :
    readWord? cs = some w ↔ Numeral cs w.toNat := by
  have read : readWord? cs = some w ↔ dropPlus cs ≠ [] ∧
      (∀ c ∈ dropPlus cs, '0' ≤ c ∧ c ≤ '9') ∧ decimal (dropPlus cs) = w.toNat := by
    rw [readWord?]
    split
    · simp_all
    · rename_i nonempty
      rw [readDigits_word]
      exact (and_iff_right nonempty).symm
  rw [read]
  constructor
  · rintro ⟨nonempty, all, value⟩
    rw [← value]
    cases cs with
    | nil => exact absurd rfl nonempty
    | cons c rest =>
      by_cases plus : c = '+'
      · subst plus
        exact .signed nonempty all
      · rw [dropPlus_cons_of_ne plus] at nonempty all ⊢
        exact .unsigned nonempty all
  · intro numeral
    generalize w.toNat = n at numeral
    cases numeral with
    | signed nonempty all => exact ⟨nonempty, all, rfl⟩
    | unsigned nonempty all =>
      cases cs with
      | nil => exact absurd rfl nonempty
      | cons c rest =>
        -- a sign is no digit, so none is dropped
        have plus : c ≠ '+' := by
          rintro rfl
          exact absurd (all _ List.mem_cons_self) (by decide)
        rw [dropPlus_cons_of_ne plus]
        exact ⟨nonempty, all, rfl⟩

/-- A text is read as a word exactly if it writes the value of the word. -/
lemma readWord?_trim {s : String} {w : UInt64} :
    readWord? (trim s.toList) = some w ↔ Writes s w.toNat := by
  rw [readWord?_eq_some_iff]
  constructor
  · intro numeral
    obtain ⟨lead, trail, parts, blank⟩ := exists_eq_trim s.toList
    exact ⟨lead, trim s.toList, trail, parts, blank, numeral⟩
  · rintro ⟨lead, core, trail, parts, blank, numeral⟩
    rwa [parts, trim_append blank numeral.not_isBlank]

/-- A text is read as no word exactly if it writes no number of 64 bits. -/
lemma readWord?_trim_eq_none {s : String} :
    readWord? (trim s.toList) = none ↔ ¬∃ n < 2 ^ 64, Writes s n := by
  rw [Option.eq_none_iff_forall_ne_some, ← not_exists, not_iff_not]
  constructor
  · rintro ⟨w, read⟩
    exact ⟨w.toNat, w.toNat_lt, readWord?_trim.1 read⟩
  · rintro ⟨n, small, writes⟩
    refine ⟨UInt64.ofNat n, readWord?_trim.2 ?_⟩
    rwa [UInt64.toNat_ofNat_of_lt' small]

/-- Exactly the texts that write a number of 64 bits override the limit of ticks, with that number,
and nothing else of the configuration. Any other text is refused as it was supplied and changes
nothing; neither does a look-up that finds no text. -/
theorem overrides_by_written_numbers (c : Config) (lookup : String → Option String) :
    let out := c.applyOverrides lookup
    (lookup "LOCKSTEP_MAX_TICKS" = none → out = (.ok (), c)) ∧
    ∀ s, lookup "LOCKSTEP_MAX_TICKS" = some s →
      (out.1 = .ok () ↔ ∃ n < 2 ^ 64, Writes s n) ∧
      (∀ n < 2 ^ 64, Writes s n → ∃ limit : UInt64, limit.toNat = n ∧
        out = (.ok (), { c with simulation := { c.simulation with maxTicks := limit } })) ∧
      ((¬∃ n < 2 ^ 64, Writes s n) →
        out = (.error (.override "LOCKSTEP_MAX_TICKS" s), c)) := by
  intro out
  refine ⟨fun absent => by simp only [out, applyOverrides, maxTicksVariable, absent], ?_⟩
  intro s supplied
  have refused (unwritten : ¬∃ n < 2 ^ 64, Writes s n) :
      out = (.error (.override "LOCKSTEP_MAX_TICKS" s), c) := by
    simp only [out, applyOverrides, maxTicksVariable, supplied, readWord?_trim_eq_none.2 unwritten]
  have taken (n : Nat) (small : n < 2 ^ 64) (writes : Writes s n) : ∃ limit : UInt64,
      limit.toNat = n ∧
        out = (.ok (), { c with simulation := { c.simulation with maxTicks := limit } }) := by
    have value : (UInt64.ofNat n).toNat = n := UInt64.toNat_ofNat_of_lt' small
    have read : readWord? (trim s.toList) = some (UInt64.ofNat n) :=
      readWord?_trim.2 (value.symm ▸ writes)
    refine ⟨UInt64.ofNat n, value, ?_⟩
    simp only [out, applyOverrides, maxTicksVariable, supplied, read]
  refine ⟨⟨fun ok => ?_, fun ⟨n, small, writes⟩ => ?_⟩, taken, refused⟩
  · by_contra unwritten
    rw [refused unwritten] at ok
    cases ok
  · obtain ⟨limit, -, result⟩ := taken n small writes
    rw [result]

end Config

end Cadence
