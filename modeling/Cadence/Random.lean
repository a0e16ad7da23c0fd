/-!
# Random numbers

A reproducible stream of random numbers: four words that every draw scrambles by shifts, rotations
and exclusive or, seeded from one word. `RandomStream.below` draws a number below a bound with the
upper half of a product, and `below_lt` says that it stays below.
-/

namespace Cadence

/-- The state of a stream of random numbers. -/
structure RandomStream where
  s0 : UInt64
  s1 : UInt64
  s2 : UInt64
  s3 : UInt64
  deriving DecidableEq, Repr, Inhabited

namespace RandomStream

/-- Rotate a word to the left by a number of bits between zero and its width. -/
def rotate (x : UInt64) (bits : UInt64) : UInt64 := (x <<< bits) ||| (x >>> (64 - bits))

/-- The step between the seeds of the words of a state. -/
def seedStep : UInt64 := 0x9e3779b97f4a7c15

/-- A word with all of its bits mixed. -/
def mix (x : UInt64) : UInt64 :=
  let z := (x ^^^ (x >>> 30)) * 0xbf58476d1ce4e5b9
  let z := (z ^^^ (z >>> 27)) * 0x94d049bb133111eb
  z ^^^ (z >>> 31)

/-- The stream of a seed. -/
def seeded (seed : UInt64) : RandomStream where
  s0 := mix (seed + seedStep)
  s1 := mix (seed + seedStep + seedStep)
  s2 := mix (seed + seedStep + seedStep + seedStep)
  s3 := mix (seed + seedStep + seedStep + seedStep + seedStep)

/-- The word that the next draw gives. -/
def word (r : RandomStream) : UInt64 := rotate (r.s0 + r.s3) 23 + r.s0

/-- The stream after a draw. -/
def advance (r : RandomStream) : RandomStream :=
  let s2 := r.s2 ^^^ r.s0
  let s3 := r.s3 ^^^ r.s1
  { s0 := r.s0 ^^^ s3
    s1 := r.s1 ^^^ s2
    s2 := s2 ^^^ (r.s1 <<< 17)
    s3 := rotate s3 45 }

/-- Draw a number below two to the thirty-second: the upper half of a word. -/
def draw (r : RandomStream) : Nat × RandomStream := (r.word.toNat / 4294967296, r.advance)

/-- Draw a number below a bound of at most 32 bits. When the lower half of the product leaves a
doubt about the last place, a second draw settles it. -/
def below (r : RandomStream) (bound : Nat) : Nat × RandomStream :=
  let (first, r) := r.draw
  let high := first * bound / 4294967296
  let low := first * bound % 4294967296
  if 4294967296 - bound < low then
    let (second, r) := r.draw
    let carry := (low + second * bound / 4294967296) / 4294967296
    (high + carry, r)
  else (high, r)

/-- A draw is a word of 32 bits. -/
theorem draw_lt (r : RandomStream) : r.draw.1 < 4294967296 :=
  Nat.div_lt_of_lt_mul r.word.toNat_lt

/-- What is drawn below a bound is below it. -/
theorem below_lt (r : RandomStream) {bound : Nat} (pos : 0 < bound) :
    (r.below bound).1 < bound := by
  have h₁ := r.draw_lt
  have h₂ := r.draw.2.draw_lt
  have m₁ : r.draw.1 * bound + bound ≤ 4294967296 * bound := by
    rw [← Nat.succ_mul]
    exact Nat.mul_le_mul_right bound h₁
  have m₂ : r.draw.2.draw.1 * bound < 4294967296 * bound := Nat.mul_lt_mul_of_pos_right h₂ pos
  simp only [below]
  generalize r.draw.1 * bound = x at *
  generalize r.draw.2.draw.1 * bound = y at *
  split <;> simp only <;> omega

end RandomStream

end Cadence
