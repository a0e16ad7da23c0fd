import Cadence.Json.Decode
import Cadence.Text.Bytes
import Cadence.Text.Hex

/-!
# Identifiers and keys

Participants and plugins are named by numbers of 128 bits, written as 32 hexadecimal digits in five
groups. Reading takes the digits alone, the five groups, or the groups in braces or after
`urn:uuid:`. An authorization key is a token that a registration issues; its text never shows the
token.
-/

namespace Cadence

/-- Names a participant. -/
structure ParticipantId where
  value : BitVec 128
  deriving DecidableEq, Repr, Inhabited

/-- Names a plugin. -/
structure PluginId where
  value : BitVec 128
  deriving DecidableEq, Repr, Inhabited

/-- The proof of identity that a registration issues. -/
structure Key where
  token : Nat
  deriving DecidableEq, Repr, Inhabited

namespace Identity

/-- Put hyphens between five groups of digits. -/
def hyphenated (cs : List Char) : List Char :=
  cs.take 8 ++ '-' :: ((cs.drop 8).take 4 ++ '-' :: ((cs.drop 12).take 4 ++
    '-' :: ((cs.drop 16).take 4 ++ '-' :: cs.drop 20)))

/-- The text of a 128-bit number. -/
def text (value : BitVec 128) : String :=
  String.ofList (hyphenated (Text.Hex.fixed 32 value.toNat))

/-- The digits of five groups between hyphens. -/
def digitsOfGroups? (cs : List Char) : Option (List Char) :=
  if cs.length = 36 ∧ [8, 13, 18, 23].all (fun place => cs[place]? = some '-') then
    some (cs.take 8 ++ (cs.drop 9).take 4 ++ (cs.drop 14).take 4 ++ (cs.drop 19).take 4 ++
      cs.drop 24)
  else none

/-- The text without the scheme of a uniform resource name, whatever its case. -/
def dropScheme? (cs : List Char) : Option (List Char) :=
  if (cs.take 9).map Char.toLower = "urn:uuid:".toList then some (cs.drop 9) else none

/-- The text without braces around it. -/
def dropBraces? : List Char → Option (List Char)
  | '{' :: rest => if rest.getLast? = some '}' then some rest.dropLast else none
  | _ => none

/-- What the length of a text and its ends make of it. -/
inductive Form where
  /-- Digits alone. -/
  | plain (digits : List Char)
  /-- Groups, without what stands around them. -/
  | grouped (groups : List Char)
  /-- Nothing, for the length is that of no form. -/
  | misshapen
  deriving DecidableEq, Repr

/-- The form of a text. Lengths are in bytes. -/
def formOf (cs : List Char) : Form :=
  match Text.byteSize cs, dropBraces? cs, dropScheme? cs with
  | 32, _, _ => .plain cs
  | 36, _, _ => .grouped cs
  | 38, some inner, _ => .grouped inner
  | 45, _, some inner => .grouped inner
  | _, _, _ => .misshapen

/-- The part of a text that writes the digits. -/
def digitsOf? (cs : List Char) : Option (List Char) :=
  match formOf cs with
  | .plain digits => some digits
  | .grouped groups => digitsOfGroups? groups
  | .misshapen => none

/-! ## Faults -/

/-- Whether a character is a hexadecimal digit. -/
def isDigit (c : Char) : Bool := (Text.Hex.value? c).isSome

/-- The first character that a class does not have, with its place in bytes. -/
def strangeChar? (isAllowed : Char → Bool) : Nat → List Char → Option (Char × Nat)
  | _, [] => none
  | place, c :: rest =>
    if isAllowed c then strangeChar? isAllowed (place + c.utf8Size) rest else some (c, place)

/-- The places of the hyphens. -/
def hyphens : Nat → List Char → List Nat
  | _, [] => []
  | place, c :: rest =>
    if c = '-' then place :: hyphens (place + 1) rest else hyphens (place + 1) rest

/-- What is wrong with groups that stand at the given place of a text of the given length. -/
def faultOfGroups (place size : Nat) (cs : List Char) : IdFault :=
  match strangeChar? (fun c => c = '-' || isDigit c) place cs with
  | some (c, place) => .unexpectedChar c place
  | none =>
    match hyphens 0 cs with
    | [a, b, c, d] =>
      if a ≠ 8 then .groupLength 0 8 a
      else if b ≠ 13 then .groupLength 1 4 (b - 9)
      else if c ≠ 18 then .groupLength 2 4 (c - 14)
      else if d ≠ 23 then .groupLength 3 4 (d - 19)
      else .groupLength 4 12 (size - 24)
    | places => .groupCount (places.length + 1)

/-- What is wrong with a text that has the length of no form. One group alone is a row of digits of
the wrong length, unless braces or the scheme say that groups were meant. -/
def faultOfMisshapen (cs : List Char) : IdFault :=
  let size := Text.byteSize cs
  if 45 < size then .length size
  else
    match dropBraces? cs, dropScheme? cs with
    | some inner, _ => faultOfGroups 1 size inner
    | none, some inner => faultOfGroups 9 size inner
    | none, none =>
      match faultOfGroups 0 size cs with
      | .groupCount 1 => .length size
      | fault => fault

/-- What is wrong with a text that is no identifier. -/
def faultOf (cs : List Char) : IdFault :=
  match formOf cs with
  | .plain digits =>
    match strangeChar? isDigit 0 digits with
    | some (c, place) => .unexpectedChar c place
    | none => .length digits.length
  | .grouped groups => faultOfGroups 0 (Text.byteSize groups) groups
  | .misshapen => faultOfMisshapen cs

/-- The 128-bit number that a text writes. -/
def ofText (s : String) : Except DecodeError (BitVec 128) :=
  let cs := s.toList
  match (digitsOf? cs).bind Text.Hex.read? with
  | some n => .ok (BitVec.ofNat 128 n)
  | none => .error (.malformedId (faultOf cs))

end Identity

namespace ParticipantId

/-- Identifiers are ordered as numbers. -/
instance : Ord ParticipantId := ⟨compareOn fun id => id.value.toNat⟩

instance : Std.TransOrd ParticipantId :=
  inferInstanceAs (Std.TransCmp (compareOn fun id : ParticipantId => id.value.toNat))

instance : Std.LawfulEqOrd ParticipantId where
  eq_of_compare {a b} h := by
    cases a; cases b
    exact congrArg _ (BitVec.eq_of_toNat_eq (Std.LawfulEqOrd.eq_of_compare (α := Nat) h))

/-- The text of the identifier. -/
def text (id : ParticipantId) : String := Identity.text id.value

instance : ToString ParticipantId := ⟨text⟩

/-- How the identifier shows in a debug text. -/
def debugText (id : ParticipantId) : String := "ParticipantId(" ++ id.text ++ ")"

/-- The identifier that a text writes. -/
def ofText (s : String) : Except DecodeError ParticipantId := (Identity.ofText s).map .mk

/-- The identifier as a value. -/
def encode (id : ParticipantId) : Value := .string id.text

/-- Read an identifier. -/
def decode : Value → Except DecodeError ParticipantId
  | .string s => ofText s
  | v => .error (.invalidType v "a UUID string")

end ParticipantId

namespace PluginId

/-- The text of the identifier. -/
def text (id : PluginId) : String := Identity.text id.value

instance : ToString PluginId := ⟨text⟩

/-- The identifier as a value. -/
def encode (id : PluginId) : Value := .string id.text

end PluginId

namespace Key

/-- How a key shows in a debug text. -/
def debugText (_ : Key) : String := "AuthorizationKey(..)"

end Key

/-! ## Supplies of keys -/

/-- An unending supply of keys. Whatever keys are taken, the supply yields another one in a number
of draws that `patience` bounds. -/
structure KeySupply where
  draw : Nat → Key
  patience : List Key → Nat → Nat
  fresh : ∀ taken n, ∃ m, m < patience taken n ∧ draw (n + m) ∉ taken

namespace KeySupply

/-- The place of the first draw, from the given one on, that is not taken; the bound is the number
of draws to look at. -/
def firstFree (draw : Nat → Key) (taken : List Key) : Nat → Nat → Nat
  | 0, n => n
  | bound + 1, n => if draw n ∈ taken then firstFree draw taken bound (n + 1) else n

/-- Draw from the given place on until a key comes that is not taken: the key and the next place. -/
def next (s : KeySupply) (taken : List Key) (n : Nat) : Key × Nat :=
  let place := firstFree s.draw taken (s.patience taken n) n
  (s.draw place, place + 1)

/-- The first free key is not taken if some key within the bound is free. -/
theorem firstFree_not_mem {draw : Nat → Key} {taken : List Key} {bound n : Nat}
    (h : ∃ m, m < bound ∧ draw (n + m) ∉ taken) :
    draw (firstFree draw taken bound n) ∉ taken := by
  induction bound generalizing n with
  | zero => obtain ⟨m, hm, _⟩ := h; omega
  | succ bound ih =>
    rw [firstFree]
    split
    · next hn =>
      obtain ⟨m, hm, hfree⟩ := h
      apply ih
      cases m with
      | zero => exact absurd hn hfree
      | succ m => exact ⟨m, by omega, by rw [Nat.add_right_comm, Nat.add_assoc]; exact hfree⟩
    · next hn => exact hn

/-- The first free key is looked for from the given place on. -/
theorem le_firstFree (draw : Nat → Key) (taken : List Key) (bound n : Nat) :
    n ≤ firstFree draw taken bound n := by
  induction bound generalizing n with
  | zero => exact Nat.le_refl n
  | succ bound ih =>
    rw [firstFree]
    split
    · exact Nat.le_trans (Nat.le_succ n) (ih (n + 1))
    · exact Nat.le_refl n

/-- A key that is drawn is none of those taken. -/
theorem next_not_mem (s : KeySupply) (taken : List Key) (n : Nat) : (s.next taken n).1 ∉ taken :=
  firstFree_not_mem (s.fresh taken n)

/-- A key is drawn at the given place or later, and the next place comes after it. -/
theorem exists_next_eq (s : KeySupply) (taken : List Key) (n : Nat) :
    ∃ place, n ≤ place ∧ s.next taken n = (s.draw place, place + 1) :=
  ⟨_, le_firstFree .., rfl⟩

/-- The greatest token of some keys. -/
def greatest : List Key → Nat
  | [] => 0
  | k :: rest => max k.token (greatest rest)

/-- No key that is taken has a greater token than the greatest. -/
theorem token_le_greatest {k : Key} {taken : List Key} (h : k ∈ taken) :
    k.token ≤ greatest taken := by
  induction taken with
  | nil => cases h
  | cons k' rest ih =>
    rw [greatest]
    rcases List.mem_cons.1 h with rfl | h
    · exact Nat.le_max_left ..
    · exact Nat.le_trans (ih h) (Nat.le_max_right ..)

/-- The supply that counts from one, so that no key comes twice and none has token zero. -/
def counting : KeySupply where
  draw n := ⟨n + 1⟩
  patience taken _ := greatest taken + 1
  fresh taken n := ⟨greatest taken, Nat.lt_succ_self _, fun h => by
    have := token_le_greatest h
    simp only at this
    omega⟩

/-- A supply that counts draws no key twice. -/
theorem counting_injective {n m : Nat} (h : counting.draw n = counting.draw m) : n = m :=
  Nat.succ.inj (congrArg Key.token h)

end KeySupply

end Cadence
