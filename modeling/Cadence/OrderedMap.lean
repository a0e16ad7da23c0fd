/-!
# Ordered maps

A finite map as the list of its entries in increasing order of their keys. `get?_insert_self` and
`get?_insert_of_ne` say what insertion does to look-up, and `sorted_insert` that it keeps the order,
so a map built from `empty` by `insert` and `erase` lists every key once and in order.
-/

namespace Cadence

universe u v w

/-- A finite map, kept as its entries in increasing order of the keys. -/
structure OrderedMap (κ : Type u) (β : Type v) where
  entries : List (κ × β)
  deriving DecidableEq, Repr

namespace OrderedMap

variable {κ : Type u} {β : Type v} {γ : Type w}

/-- The map without entries. -/
def empty : OrderedMap κ β := ⟨[]⟩

instance : EmptyCollection (OrderedMap κ β) := ⟨empty⟩

instance : Inhabited (OrderedMap κ β) := ⟨empty⟩

/-- Number of entries. -/
def size (m : OrderedMap κ β) : Nat := m.entries.length

/-- Whether there is no entry. -/
def isEmpty (m : OrderedMap κ β) : Bool := m.entries.isEmpty

/-- The keys, in increasing order. -/
def keys (m : OrderedMap κ β) : List κ := m.entries.map Prod.fst

/-- The values, in the order of their keys. -/
def values (m : OrderedMap κ β) : List β := m.entries.map Prod.snd

/-- Apply a function to every value. -/
def mapValues (f : β → γ) (m : OrderedMap κ β) : OrderedMap κ γ :=
  ⟨m.entries.map fun e => (e.1, f e.2)⟩

/-- The value of the first entry with the given key in a list of entries. -/
def find? [DecidableEq κ] (k : κ) : List (κ × β) → Option β
  | [] => none
  | (k', b) :: rest => if k = k' then some b else find? k rest

/-- The value at a key. -/
def get? [DecidableEq κ] (m : OrderedMap κ β) (k : κ) : Option β := find? k m.entries

/-- Whether a key has an entry. -/
def contains [DecidableEq κ] (m : OrderedMap κ β) (k : κ) : Bool := (m.get? k).isSome

/-- Put an entry at its place in an ordered list, replacing one of the same key. -/
def insertEntry [Ord κ] (k : κ) (b : β) : List (κ × β) → List (κ × β)
  | [] => [(k, b)]
  | (k', b') :: rest =>
    match compare k k' with
    | .lt => (k, b) :: (k', b') :: rest
    | .eq => (k, b) :: rest
    | .gt => (k', b') :: insertEntry k b rest

/-- Set the value at a key. -/
def insert [Ord κ] (m : OrderedMap κ β) (k : κ) (b : β) : OrderedMap κ β :=
  ⟨insertEntry k b m.entries⟩

/-- Remove the entry of a key. -/
def erase [DecidableEq κ] (m : OrderedMap κ β) (k : κ) : OrderedMap κ β :=
  ⟨m.entries.filter fun e => !decide (e.1 = k)⟩

/-- Insert entries one after another, so that the last of several with one key stays. -/
def insertAll [Ord κ] (m : OrderedMap κ β) (entries : List (κ × β)) : OrderedMap κ β :=
  entries.foldl (fun m e => m.insert e.1 e.2) m

/-- The map with the given entries, the last of several with one key. -/
def ofList [Ord κ] (entries : List (κ × β)) : OrderedMap κ β := empty.insertAll entries

/-- The distinct members of a list, in increasing order. -/
def distinct [Ord κ] (ks : List κ) : List κ := (ofList (ks.map fun k => (k, ()))).keys

/-! ## Look-up after an operation -/

section Lookup

variable [DecidableEq κ]

/-- The empty map has no entry. -/
@[simp]
theorem get?_empty (k : κ) : (empty : OrderedMap κ β).get? k = none := rfl

variable [Ord κ] [Std.LawfulEqOrd κ]

/-- An inserted entry is found. -/
theorem find?_insertEntry_self (k : κ) (b : β) (l : List (κ × β)) :
    find? k (insertEntry k b l) = some b := by
  induction l with
  | nil => simp [insertEntry, find?]
  | cons e rest ih =>
    obtain ⟨k', b'⟩ := e
    cases h : compare k k' with
    | lt => simp [insertEntry, find?, h]
    | eq => simp [insertEntry, find?, h]
    | gt =>
      have hne : k ≠ k' := fun e => by
        subst e
        rw [Std.ReflOrd.compare_self] at h
        cases h
      simp [insertEntry, find?, h, hne, ih]

/-- The other entries are found as before. -/
theorem find?_insertEntry_of_ne {k j : κ} (hne : j ≠ k) (b : β) (l : List (κ × β)) :
    find? j (insertEntry k b l) = find? j l := by
  induction l with
  | nil => simp [insertEntry, find?, hne]
  | cons e rest ih =>
    obtain ⟨k', b'⟩ := e
    cases h : compare k k' with
    | lt => simp [insertEntry, find?, h, hne]
    | eq =>
      have : k = k' := Std.LawfulEqOrd.eq_of_compare h
      subst this
      simp [insertEntry, find?, hne]
    | gt => simp [insertEntry, find?, h, ih]

/-- A key reads back what was last inserted at it. -/
@[simp]
theorem get?_insert_self (m : OrderedMap κ β) (k : κ) (b : β) : (m.insert k b).get? k = some b :=
  find?_insertEntry_self k b m.entries

/-- Insertion leaves every other key alone. -/
theorem get?_insert_of_ne {k j : κ} (hne : j ≠ k) (m : OrderedMap κ β) (b : β) :
    (m.insert k b).get? j = m.get? j :=
  find?_insertEntry_of_ne hne b m.entries

/-- A look-up after an insertion. -/
theorem get?_insert (m : OrderedMap κ β) (k j : κ) (b : β) :
    (m.insert k b).get? j = if j = k then some b else m.get? j := by
  split
  · next h => subst h; simp
  · next h => exact get?_insert_of_ne h m b

omit [Ord κ] [Std.LawfulEqOrd κ] in
/-- A look-up in two lists is one in the first and then in the second. -/
theorem find?_append (k : κ) (l₁ l₂ : List (κ × β)) :
    find? k (l₁ ++ l₂) = (find? k l₁).or (find? k l₂) := by
  induction l₁ with
  | nil => rfl
  | cons e rest ih =>
    rw [List.cons_append, find?, find?]
    split
    · rfl
    · exact ih

omit [Ord κ] [Std.LawfulEqOrd κ] in
/-- Nothing is found at the keys that are not listed, and only at these. -/
theorem find?_eq_none_iff {k : κ} {l : List (κ × β)} :
    find? k l = none ↔ k ∉ l.map Prod.fst := by
  induction l with
  | nil => simp [find?]
  | cons e rest ih =>
    obtain ⟨k', b⟩ := e
    by_cases h : k = k' <;> simp [find?, h, ih]

/-- Of entries inserted one after another the last one with a key counts. -/
theorem get?_insertAll (m : OrderedMap κ β) (entries : List (κ × β)) (k : κ) :
    (m.insertAll entries).get? k = (find? k entries.reverse).or (m.get? k) := by
  induction entries generalizing m with
  | nil => rfl
  | cons e rest ih =>
    have head : (m.insert e.1 e.2).get? k = (find? k [e]).or (m.get? k) := by
      rw [get?_insert, find?, find?]
      split <;> rfl
    rw [List.reverse_cons, find?_append, Option.or_assoc, ← head]
    exact ih _

/-- Insertion of one value at several keys. -/
theorem get?_insertAll_map (m : OrderedMap κ β) (ks : List κ) (b : β) (k : κ) :
    (m.insertAll (ks.map fun k => (k, b))).get? k = if k ∈ ks then some b else m.get? k := by
  induction ks generalizing m with
  | nil => rfl
  | cons k' rest ih =>
    have step := ih (m.insert k' b)
    rw [get?_insert] at step
    refine step.trans ?_
    by_cases hr : k ∈ rest <;> by_cases hk : k = k' <;> simp [hr, hk]

omit [Ord κ] [Std.LawfulEqOrd κ] in
/-- The keys are those at which there is a value. -/
theorem mem_keys_iff {m : OrderedMap κ β} {k : κ} : k ∈ m.keys ↔ m.get? k ≠ none := by
  rw [Ne, get?, find?_eq_none_iff, Decidable.not_not]
  rfl

/-- The distinct members of a list are its members. -/
theorem mem_distinct {ks : List κ} {k : κ} : k ∈ distinct ks ↔ k ∈ ks := by
  rw [distinct, mem_keys_iff, ofList, get?_insertAll_map]
  split <;> simp_all

end Lookup

/-! ## Order -/

section Order

variable [Ord κ]

/-- The keys increase from each entry to the next. -/
def Sorted (m : OrderedMap κ β) : Prop :=
  m.entries.Pairwise fun a b => compare a.1 b.1 = .lt

/-- The empty map is sorted. -/
theorem sorted_empty : (empty : OrderedMap κ β).Sorted := List.Pairwise.nil

/-- An insertion adds no entry but the one that is given. -/
theorem mem_insertEntry {k : κ} {b : β} {e : κ × β} {l : List (κ × β)}
    (h : e ∈ insertEntry k b l) : e = (k, b) ∨ e ∈ l := by
  induction l with
  | nil => simpa [insertEntry] using h
  | cons e' rest ih =>
    obtain ⟨k', b'⟩ := e'
    cases hc : compare k k' with
    | lt => simpa [insertEntry, hc] using h
    | eq =>
      simp only [insertEntry, hc, List.mem_cons] at h
      rcases h with h | h
      · exact .inl h
      · exact .inr (List.mem_cons_of_mem _ h)
    | gt =>
      simp only [insertEntry, hc, List.mem_cons] at h
      rcases h with h | h
      · exact .inr (h ▸ List.mem_cons_self)
      · rcases ih h with h | h
        · exact .inl h
        · exact .inr (List.mem_cons_of_mem _ h)

variable [Std.TransOrd κ] [Std.LawfulEqOrd κ]

/-- An insertion keeps entries in the order of their keys. -/
theorem pairwise_insertEntry {k : κ} {b : β} {l : List (κ × β)}
    (h : l.Pairwise fun a b => compare a.1 b.1 = .lt) :
    (insertEntry k b l).Pairwise fun a b => compare a.1 b.1 = .lt := by
  induction l with
  | nil => simp [insertEntry]
  | cons e rest ih =>
    obtain ⟨k', b'⟩ := e
    rw [List.pairwise_cons] at h
    obtain ⟨hhead, htail⟩ := h
    cases hc : compare k k' with
    | lt =>
      simp only [insertEntry, hc, List.pairwise_cons]
      refine ⟨?_, hhead, htail⟩
      intro a ha
      rcases List.mem_cons.1 ha with rfl | ha
      · exact hc
      · exact Std.TransCmp.lt_trans hc (hhead a ha)
    | eq =>
      have heq : k = k' := Std.LawfulEqOrd.eq_of_compare hc
      subst heq
      simp only [insertEntry, hc, List.pairwise_cons]
      exact ⟨hhead, htail⟩
    | gt =>
      simp only [insertEntry, hc, List.pairwise_cons]
      refine ⟨?_, ih htail⟩
      intro a ha
      rcases mem_insertEntry ha with rfl | ha
      · exact Std.OrientedCmp.lt_of_gt hc
      · exact hhead a ha

/-- Insertion keeps the order. -/
theorem sorted_insert {m : OrderedMap κ β} (h : m.Sorted) (k : κ) (b : β) :
    (m.insert k b).Sorted :=
  pairwise_insertEntry h

end Order

end OrderedMap

end Cadence
