import Cadence.Json.Decode
import Cadence.Proofs.Maps

/-!
# Values decoded

What the readers of values make of the values that writers produce: words and choices read back, an
object built from fields gives each of them, and a map comes back from an object with a field for
every entry (`Decode.map_ofFields`). The lemmas on records say what becomes of a field that is given
and of one that is not.
-/

namespace Cadence

variable {α β : Type}

/-- After something decoded the rest follows. -/
@[simp]
theorem DecodeError.ok_bind (a : α) (f : α → Except DecodeError β) : (.ok a >>= f) = f a := rfl

/-- After an error nothing follows. -/
@[simp]
theorem DecodeError.error_bind (e : DecodeError) (f : α → Except DecodeError β) :
    (.error e >>= f) = .error e := rfl

/-- What comes of two readings in a row comes of the second on what the first reads. -/
lemma DecodeError.bind_eq_ok {x : Except DecodeError α} {f : α → Except DecodeError β} {b : β} :
    (x >>= f) = .ok b ↔ ∃ a, x = .ok a ∧ f a = .ok b := by
  cases x with
  | error e => simp
  | ok a => simp

/-- What a function makes of something decoded comes from there. -/
lemma DecodeError.map_eq_ok {x : Except DecodeError α} {f : α → β} {b : β} :
    x.map f = .ok b ↔ ∃ a, x = .ok a ∧ f a = b := by
  cases x with
  | error e => simp [Except.map]
  | ok a => simp [Except.map]

namespace Decode

/-- A string is a text. -/
@[simp]
theorem text_string (s : String) : text (.string s) = .ok s := rfl

/-- A truth value is one. -/
@[simp]
theorem bool_bool (b : Bool) : bool (.bool b) = .ok b := rfl

/-- Any value is one. -/
@[simp]
theorem any_eq (v : Value) : any v = .ok v := rfl

/-- A word is read from its number. -/
@[simp]
lemma uint64_nat (n : UInt64) : uint64 (.nat n.toNat) = .ok n := by
  have bound := n.toNat_lt
  rw [uint64, Value.nat, integer, if_pos ⟨Int.natCast_nonneg _, by rw [maxUInt64]; omega⟩]
  exact congrArg Except.ok UInt64.ofNat_toNat

/-- Half a word is read from its number. -/
@[simp]
lemma uint32_nat (n : UInt32) : uint32 (.nat n.toNat) = .ok n := by
  have bound := n.toNat_lt
  rw [uint32, Value.nat, integer, if_pos ⟨Int.natCast_nonneg _, by omega⟩]
  exact congrArg Except.ok UInt32.ofNat_toNat

/-- A small integer is read from its number. -/
@[simp]
lemma int8_int (n : Int8) : int8 (.int n.toInt) = .ok n := by
  have low := n.le_toInt
  have high := n.toInt_lt
  rw [int8, Value.int, integer, if_pos ⟨by omega, by omega⟩]
  exact congrArg Except.ok (Int8.ofInt_toInt n)

variable {κ : Type} {key : String → Except DecodeError κ}
  {decode : Value → Except DecodeError α} {field : κ × α → String × Value}

/-- Entries are read back if each of them is. -/
lemma entries_map {l : List (κ × α)}
    (reads : ∀ e ∈ l, key (field e).1 = .ok e.1 ∧ decode (field e).2 = .ok e.2) :
    entries key decode (l.map field) = .ok l := by
  induction l with
  | nil => rfl
  | cons e rest ih =>
    obtain ⟨first, later⟩ := List.forall_mem_cons.1 reads
    rw [List.map_cons, entries, first.1, first.2, ih later]
    rfl

/-- An object with a field for every entry of a map reads back as the map. -/
theorem map_ofFields [Ord κ] [Std.TransOrd κ] [Std.LawfulEqOrd κ] {m : OrderedMap κ α}
    (sorted : m.Sorted) (distinct : (m.entries.map fun e => (field e).1).Nodup)
    (reads : ∀ e ∈ m.entries, key (field e).1 = .ok e.1 ∧ decode (field e).2 = .ok e.2) :
    map key decode (.ofFields (m.entries.map field)) = .ok m := by
  have nodup : ((m.entries.map field).map Prod.fst).Nodup := by
    rw [List.map_map]
    exact distinct
  have joined := OrderedMap.ofList_perm nodup
  -- the fields of the object stand in the order of their names, not in that of the keys
  rw [← congrFun₂ (List.eq_map_comp_perm field) _ _] at joined
  obtain ⟨l, fields, perm⟩ := joined
  have all : entries key decode (l.map field) = .ok l :=
    entries_map fun e mem => reads e (perm.mem_iff.1 mem)
  rw [Value.ofFields, map, fields, all]
  exact congrArg Except.ok (OrderedMap.ofList_of_perm sorted perm)

/-- A choice is looked for by its name. -/
@[simp]
theorem choice_string (choices : List (String × α)) (s : String) :
    choice choices (.string s) = choice.find choices s := rfl

/-- The items of a list read back. -/
theorem list_map {decode : Value → Except DecodeError α} {encode : α → Value} {l : List α}
    (reads : ∀ a ∈ l, decode (encode a) = .ok a) : list decode (.array (l.map encode)) = .ok l := by
  rw [list]
  induction l with
  | nil => rfl
  | cons a rest ih =>
    obtain ⟨first, later⟩ := List.forall_mem_cons.1 reads
    rw [List.map_cons, items, first, DecodeError.ok_bind, ih later]
    rfl

/-- Where a value is not null, an optional one reads back. -/
theorem optional_ofOption {decode : Value → Except DecodeError α} {encode : α → Value}
    (reads : ∀ a, decode (encode a) = .ok a) (null : ∀ a, encode a ≠ .null) (o : Option α) :
    optional decode (.ofOption (o.map encode)) = .ok o := by
  cases o with
  | none => rfl
  | some a =>
    have value : optional decode (encode a) = (decode (encode a)).map some := by
      have other := null a
      generalize encode a = v at other
      cases v with
      | null => exact absurd rfl other
      | _ => rfl
    rw [Option.map_some, Value.ofOption, value, reads]
    rfl

end Decode

/-! ## Records -/

namespace Record

variable {fields : List (String × Value)} {name : String} {v : Value}
  {decode : Value → Except DecodeError α} {a : α}

/-- The fields that an object gives. -/
def ofObject (fields : List (String × Value)) : Record where
  given f := OrderedMap.find? f fields
  absent := .missingField
  byPosition := false
  surplus := none

/-- An object is taken as a record of its fields. -/
@[simp]
theorem ofValue_object (name : String) (names : List String) (fields : List (String × Value)) :
    ofValue name names (.object fields) = .ok (ofObject fields) := rfl

/-- An object that is built from fields gives the last of several with one name. -/
theorem ofValue_ofFields (name : String) (names : List String) (l : List (String × Value)) :
    ofValue name names (.ofFields l) = .ok (ofObject l.reverse) := by
  show Except.ok (ofObject (OrderedMap.ofList l).entries) = _
  simp only [ofObject, OrderedMap.find?_ofList]

/-- A record of an object has nothing left over to object to. -/
@[simp]
theorem done_ofObject (fields : List (String × Value)) (a : α) :
    (ofObject fields).done a = .ok a := rfl

/-- A required field is read from its value. -/
theorem required_of_reads (found : OrderedMap.find? name fields = some v)
    (reads : decode v = .ok a) : (ofObject fields).required name decode = .ok a := by
  simp only [required, ofObject, found, reads]

/-- A nullable field is read from its value. -/
theorem nullable_of_reads {o : Option α} (found : OrderedMap.find? name fields = some v)
    (reads : Decode.optional decode v = .ok o) :
    (ofObject fields).nullable name decode = .ok o := by
  simp only [nullable, ofObject, found, reads]

/-- A field with a default is read from its value if it has one. -/
theorem orElse_of_given (found : OrderedMap.find? name fields = some v) (default : α) :
    (ofObject fields).orElse name decode default = decode v := by
  simp only [orElse, ofObject, found]

/-- It is what is read there. -/
theorem orElse_of_reads {default : α} (found : OrderedMap.find? name fields = some v)
    (reads : decode v = .ok a) : (ofObject fields).orElse name decode default = .ok a :=
  (orElse_of_given found default).trans reads

/-- Without a value it is the default. -/
theorem orElse_of_missing (missing : OrderedMap.find? name fields = none) (default : α) :
    (ofObject fields).orElse name decode default = .ok default := by
  simp only [orElse, ofObject, missing]

end Record

end Cadence
