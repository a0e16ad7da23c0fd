/-!
# Counting in words

One more on an unsigned word of 64 bits, either refused at the end of the range or staying there.
-/

namespace Cadence.Word

/-- The next word, none at the end of the range. -/
def succ? (n : UInt64) : Option UInt64 :=
  if n.toNat + 1 < 18446744073709551616 then some (n + 1) else none

/-- The next word, the same one at the end of the range. -/
def bump (n : UInt64) : UInt64 := (succ? n).getD n

/-- The successor of a word is the next number. -/
theorem toNat_succ? {n m : UInt64} (h : succ? n = some m) : m.toNat = n.toNat + 1 := by
  unfold succ? at h
  split at h
  · next hn =>
    injection h with h
    subst h
    rw [UInt64.toNat_add]
    exact Nat.mod_eq_of_lt hn
  · cases h

/-- The greatest word alone has no successor. -/
theorem succ?_eq_none_iff {n : UInt64} : succ? n = none ↔ n.toNat = 18446744073709551615 := by
  have := n.toNat_lt
  unfold succ?
  split <;> simp <;> omega

/-- A counter stops at the greatest word. -/
theorem toNat_bump (n : UInt64) : (bump n).toNat = min (n.toNat + 1) 18446744073709551615 := by
  have := n.toNat_lt
  unfold bump
  cases h : succ? n with
  | none =>
    have := succ?_eq_none_iff.1 h
    simp only [Option.getD_none]
    omega
  | some m =>
    have := toNat_succ? h
    have := m.toNat_lt
    simp only [Option.getD_some]
    omega

end Cadence.Word
