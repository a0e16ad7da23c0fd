import Cadence.OrderedMap
import Mathlib.Data.List.Perm.Basic
import Mathlib.Data.List.Sort

/-!
# Maps and their entries

An ordered map is told by its entries in any order: maps built from the same entries are equal
(`OrderedMap.ofList_of_perm`), as long as no key comes twice. What an insertion does to the entries
depends on whether the key is new (`insert_perm`) or not (`keys_insert_of_mem`), and look-up at all
keys tells the entries (`entries_perm_of_get?`).
-/

namespace Cadence.OrderedMap

universe u v

variable {κ : Type u} {β : Type v} [Ord κ] [Std.LawfulEqOrd κ]

/-- A key is not less than itself. -/
lemma not_lt_self (k : κ) : compare k k ≠ .lt := by
  rw [Std.ReflOrd.compare_self]
  nofun

/-- A new entry is one more. -/
lemma insertEntry_perm {k : κ} {l : List (κ × β)} (new : k ∉ l.map Prod.fst) (b : β) :
    (insertEntry k b l).Perm ((k, b) :: l) := by
  induction l with
  | nil => exact .refl _
  | cons e rest ih =>
    obtain ⟨k', b'⟩ := e
    rw [List.map_cons, List.mem_cons, not_or] at new
    obtain ⟨ne, new⟩ := new
    rw [insertEntry]
    cases h : compare k k' with
    | lt => exact .refl _
    | eq => exact absurd (Std.LawfulEqOrd.eq_of_compare h) ne
    | gt => exact ((ih new).cons _).trans (.swap _ _ _)

/-- A new entry is one more entry of the map. -/
theorem insert_perm {m : OrderedMap κ β} {k : κ} (new : k ∉ m.keys) (b : β) :
    (m.insert k b).entries.Perm ((k, b) :: m.entries) :=
  insertEntry_perm new b

/-- A sorted map has each key once. -/
lemma Sorted.nodup_keys {m : OrderedMap κ β} (sorted : m.Sorted) : m.keys.Nodup := by
  refine List.pairwise_map.2 (sorted.imp fun {a b} lt same => ?_)
  rw [same] at lt
  exact not_lt_self _ lt

section Trans

variable [Std.TransOrd κ]

/-- To overwrite an entry leaves the keys. -/
lemma keys_insertEntry_of_mem {k : κ} {l : List (κ × β)}
    (sorted : l.Pairwise fun a b => compare a.1 b.1 = .lt) (mem : k ∈ l.map Prod.fst) (b : β) :
    (insertEntry k b l).map Prod.fst = l.map Prod.fst := by
  induction l with
  | nil => cases mem
  | cons e rest ih =>
    obtain ⟨k', b'⟩ := e
    obtain ⟨first, sorted⟩ := List.pairwise_cons.1 sorted
    rw [insertEntry]
    cases h : compare k k' with
    | lt =>
      -- the key cannot stand at a later place, for the keys there are greater still
      exfalso
      rcases List.mem_cons.1 mem with rfl | later
      · exact not_lt_self _ h
      · obtain ⟨e, found, rfl⟩ := List.mem_map.1 later
        exact not_lt_self _ (Std.TransCmp.lt_trans h (first e found))
    | eq =>
      obtain rfl := Std.LawfulEqOrd.eq_of_compare h
      rfl
    | gt =>
      rcases List.mem_cons.1 mem with rfl | later
      · rw [Std.ReflOrd.compare_self] at h
        cases h
      · exact congrArg (k' :: ·) (ih sorted later)

/-- To overwrite an entry of a map leaves its keys. -/
theorem keys_insert_of_mem {m : OrderedMap κ β} (sorted : m.Sorted) {k : κ} (mem : k ∈ m.keys)
    (b : β) : (m.insert k b).keys = m.keys :=
  keys_insertEntry_of_mem sorted mem b

/-- A sorted map stays sorted whatever is inserted. -/
lemma sorted_insertAll {m : OrderedMap κ β} (sorted : m.Sorted) (entries : List (κ × β)) :
    (m.insertAll entries).Sorted := by
  induction entries generalizing m with
  | nil => exact sorted
  | cons e rest ih => exact ih (sorted_insert sorted e.1 e.2)

/-- A map of given entries is sorted. -/
theorem sorted_ofList (entries : List (κ × β)) : (ofList entries).Sorted :=
  sorted_insertAll sorted_empty entries

/-- Maps with the same entries are equal. -/
theorem eq_of_perm {m m' : OrderedMap κ β} (sorted : m.Sorted) (sorted' : m'.Sorted)
    (perm : m.entries.Perm m'.entries) : m = m' := by
  refine congrArg mk (List.Perm.eq_of_pairwise ?_ sorted sorted' perm)
  exact fun a b _ _ lt gt => absurd (Std.TransCmp.lt_trans lt gt) (not_lt_self _)

end Trans

/-- Entries with new keys, no key coming twice, join those that are there. -/
lemma insertAll_perm {m : OrderedMap κ β} {entries : List (κ × β)}
    (new : (m.entries ++ entries).map Prod.fst |>.Nodup) :
    (m.insertAll entries).entries.Perm (m.entries ++ entries) := by
  induction entries generalizing m with
  | nil => rw [List.append_nil]; exact .refl _
  | cons e rest ih =>
    have absent : e.1 ∉ m.keys := fun mem => by
      rw [List.map_append, List.map_cons] at new
      exact (List.nodup_append.1 new).2.2 _ mem _ List.mem_cons_self rfl
    have moved : ((m.insert e.1 e.2).entries ++ rest).Perm (m.entries ++ e :: rest) :=
      ((insert_perm absent e.2).append_right rest).trans List.perm_middle.symm
    exact (ih ((moved.map Prod.fst).nodup_iff.2 new)).trans moved

/-- A map of entries with different keys has exactly these. -/
theorem ofList_perm {entries : List (κ × β)} (nodup : (entries.map Prod.fst).Nodup) :
    (ofList entries).entries.Perm entries :=
  insertAll_perm (m := empty) nodup

/-- Its entries in any order make a map again. -/
theorem ofList_of_perm [Std.TransOrd κ] {m : OrderedMap κ β} (sorted : m.Sorted)
    {entries : List (κ × β)} (perm : entries.Perm m.entries) : ofList entries = m :=
  eq_of_perm (sorted_ofList entries) sorted
    ((ofList_perm ((perm.map Prod.fst).nodup_iff.2 sorted.nodup_keys)).trans perm)

/-! ## Look-up in a map that is built, and after removal -/

/-- Of several entries with one key the last counts. -/
theorem find?_ofList [DecidableEq κ] (l : List (κ × β)) (k : κ) :
    find? k (ofList l).entries = find? k l.reverse := by
  show (ofList l).get? k = _
  rw [ofList, get?_insertAll, get?_empty, Option.or_none]

omit [Ord κ] [Std.LawfulEqOrd κ] in
/-- A look-up after a removal. -/
theorem get?_erase [DecidableEq κ] (m : OrderedMap κ β) (k j : κ) :
    (m.erase k).get? j = if j = k then none else m.get? j := by
  rw [get?, erase, get?]
  induction m.entries with
  | nil => rw [List.filter_nil, find?, ite_self]
  | cons e rest ih =>
    by_cases gone : e.1 = k
    · rw [List.filter_cons_of_neg (by simp [gone]), ih, find?, gone]
      split <;> rfl
    · rw [List.filter_cons_of_pos (by simp [gone]), find?, find?, ih]
      by_cases here : j = e.1
      · rw [if_pos here, if_pos here, if_neg (here ▸ gone)]
      · rw [if_neg here, if_neg here]

/-! ## Entries and look-up -/

section Lookup

variable [DecidableEq κ] {m : OrderedMap κ β}

/-- Every entry is found at its key. -/
theorem get?_of_mem (sorted : m.Sorted) {e : κ × β} (mem : e ∈ m.entries) :
    m.get? e.1 = some e.2 := by
  have nodup := sorted.nodup_keys
  rw [keys] at nodup
  rw [get?]
  generalize m.entries = entries at mem nodup
  induction entries with
  | nil => cases mem
  | cons first rest ih =>
    obtain ⟨new, nodup⟩ := List.nodup_cons.1 nodup
    rw [find?]
    cases mem with
    | head => exact if_pos rfl
    | tail _ later =>
      have other : e.1 ≠ first.1 := fun same => new (same ▸ List.mem_map_of_mem later)
      rw [if_neg other]
      exact ih later nodup

/-- What is found at a key is an entry. -/
theorem mem_of_get? (sorted : m.Sorted) {k : κ} {b : β} (found : m.get? k = some b) :
    (k, b) ∈ m.entries := by
  have there : k ∈ m.keys := mem_keys_iff.2 (by rw [found]; exact Option.some_ne_none b)
  obtain ⟨e, mem, rfl⟩ := List.mem_map.1 there
  rw [get?_of_mem sorted mem] at found
  obtain rfl := Option.some.inj found
  exact mem

/-- A sorted map with the given keys in any order has the entries that are found at them. -/
theorem entries_perm_of_get? (sorted : m.Sorted) {pairs : List (κ × β)}
    (keys : m.keys.Perm (pairs.map Prod.fst)) (found : ∀ p ∈ pairs, m.get? p.1 = some p.2) :
    m.entries.Perm pairs := by
  have nodup := sorted.nodup_keys
  refine (List.perm_ext_iff_of_nodup (.of_map _ nodup) (.of_map _ (keys.nodup_iff.1 nodup))).2
    fun e => ⟨fun mem => ?_, fun mem => ?_⟩
  · obtain ⟨p, listed, same⟩ := List.mem_map.1 (keys.mem_iff.1 (List.mem_map_of_mem mem))
    have value := found p listed
    rw [same, get?_of_mem sorted mem] at value
    obtain rfl : e = p := Prod.ext same.symm (Option.some.inj value)
    exact listed
  · exact mem_of_get? sorted (found e mem)

/-- Maps in which the same is found are equal. -/
theorem eq_of_get? [Std.TransOrd κ] {m' : OrderedMap κ β} (sorted : m.Sorted) (sorted' : m'.Sorted)
    (same : ∀ k, m.get? k = m'.get? k) : m = m' := by
  refine eq_of_perm sorted sorted' ((List.perm_ext_iff_of_nodup
    (.of_map _ sorted.nodup_keys) (.of_map _ sorted'.nodup_keys)).2 fun e => ⟨fun mem => ?_,
      fun mem => ?_⟩)
  · exact mem_of_get? sorted' ((same e.1).symm.trans (get?_of_mem sorted mem))
  · exact mem_of_get? sorted ((same e.1).trans (get?_of_mem sorted' mem))

/-- An insertion at a key that is there replaces one entry and leaves all others. -/
theorem insert_perm_of_get? [Std.TransOrd κ] (sorted : m.Sorted) {k : κ} {old : β}
    (found : m.get? k = some old) (b : β) :
    ∃ rest, m.entries.Perm ((k, old) :: rest) ∧ (m.insert k b).entries.Perm ((k, b) :: rest) := by
  obtain ⟨before, after, split⟩ := List.append_of_mem (mem_of_get? sorted found)
  have perm : m.entries.Perm ((k, old) :: (before ++ after)) := split ▸ List.perm_middle
  have keys : m.keys.Perm (k :: (before ++ after).map Prod.fst) := perm.map Prod.fst
  have new : k ∉ (before ++ after).map Prod.fst :=
    (List.nodup_cons.1 (keys.nodup_iff.1 sorted.nodup_keys)).1
  refine ⟨before ++ after, perm, entries_perm_of_get? (sorted_insert sorted k b) ?_ ?_⟩
  · rw [keys_insert_of_mem sorted (keys.mem_iff.2 (List.mem_cons_self))]
    exact keys
  · intro e mem
    rcases List.mem_cons.1 mem with rfl | other
    · exact get?_insert_self m k b
    · have apart : e.1 ≠ k := fun same => new (same ▸ List.mem_map_of_mem other)
      rw [get?_insert_of_ne apart]
      exact get?_of_mem sorted (perm.mem_iff.2 (List.mem_cons_of_mem _ other))

end Lookup

end Cadence.OrderedMap
