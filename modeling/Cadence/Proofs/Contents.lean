import Cadence.Proofs.Maps
import Cadence.Proofs.Ownership
import Cadence.Proofs.Perform
import Mathlib.Data.Set.Card
import Mathlib.Logic.Function.Basic

/-!
# What a store contains

Shared state is an ordinary map with a rule on who writes where. `Contents.Meets` is this rule: what
each call answers, and what it makes of the map. A store shows a map (`Store.Reflects`), answers
every call as the rule has it, and shows the map after the call (`Store.Reflects.perform_of_meets`);
and the rule has an answer to every call (`Store.Reflects.exists_meets`). So a history of calls is
the one history that the map has (`store_refines_map`).
-/

namespace Cadence

variable {ε : Type}

/-! ## Calls -/

/-- The values on which an update runs its function, one for each time that it runs. -/
def Store.handed (s : Store) (key : StateKey) (caller : HandlerId)
    (f : Option Value → Except ε Value) : List (Option Value) :=
  let traced : Option Value → StateM (List (Option Value)) (Except ε Value) := fun current => do
    modify fun seen => seen ++ [current]
    return f current
  ((s.updateM key caller traced).run []).2

/-- A call on a store. The function of an update may give up with an error of type `ε`. -/
inductive StoreCall (ε : Type) where
  | read (key : StateKey)
  | contains (key : StateKey)
  | size
  | isEmpty
  | snapshot
  | write (key : StateKey) (value : Value) (caller : HandlerId)
  | writeBatch (entries : List (StateKey × Value)) (caller : HandlerId)
  | update (key : StateKey) (caller : HandlerId) (f : Option Value → Except ε Value)

namespace StoreCall

/-- What a store answers to a call. With the answer to an update go the values on which its function
has run. -/
abbrev Reply : StoreCall ε → Type
  | read _ => Except StateError Value
  | contains _ => Bool
  | size => Nat
  | isEmpty => Bool
  | snapshot => OrderedMap StateKey Value
  | write _ _ _ => Except StateError (Option Value)
  | writeBatch _ _ => Except StateError Unit
  | update _ _ _ => Except (UpdateError ε) Value × List (Option Value)

/-- A call, and what it was answered. -/
structure Answered (ε : Type) where
  call : StoreCall ε
  reply : call.Reply

end StoreCall

namespace Store

/-- Make a call: the answer, and the store after it. -/
def perform (s : Store) : (c : StoreCall ε) → c.Reply × Store
  | .read key => (s.read key, s)
  | .contains key => (s.contains key, s)
  | .size => (s.size, s)
  | .isEmpty => (s.isEmpty, s)
  | .snapshot => (s.snapshot, s)
  | .write key value caller => s.write key value caller
  | .writeBatch entries caller => s.writeBatch entries caller
  | .update key caller f =>
    (((s.update key caller f).1, s.handed key caller f), (s.update key caller f).2)

/-- Make calls one after another: the calls with their answers, and the store after them. -/
def performAll : List (StoreCall ε) → Store → List (StoreCall.Answered ε) × Store
  | [], s => ([], s)
  | c :: rest, s =>
    let (others, s') := performAll rest (s.perform c).2
    (⟨c, (s.perform c).1⟩ :: others, s')

end Store

/-! ## The map -/

/-- What stands at which key. -/
abbrev Contents := StateKey → Option Value

namespace Contents

/-- Set values one after another. -/
def setAll (m : Contents) (entries : List (StateKey × Value)) : Contents :=
  entries.foldl (fun m e => Function.update m e.1 (some e.2)) m

/-- Of values that are set one after another the last one at a key counts. -/
lemma setAll_apply (m : Contents) (entries : List (StateKey × Value)) (k : StateKey) :
    m.setAll entries k = (OrderedMap.find? k entries.reverse).or (m k) := by
  induction entries generalizing m with
  | nil => rfl
  | cons e rest ih =>
    have first : Function.update m e.1 (some e.2) k = (OrderedMap.find? k [e]).or (m k) := by
      rw [Function.update_apply, OrderedMap.find?, OrderedMap.find?]
      split <;> rfl
    rw [List.reverse_cons, OrderedMap.find?_append, Option.or_assoc, ← first]
    exact ih _

/-- A call, its answer, and the map after it, where a map stands whose keys have the given
owners. -/
inductive Meets (owner : StateKey → Option HandlerId) (m : Contents) :
    (c : StoreCall ε) → c.Reply → Contents → Prop where
  | found {k v} (there : m k = some v) : Meets owner m (.read k) (.ok v) m
  | missing {k} (absent : m k = none) : Meets owner m (.read k) (.error (.notFound k)) m
  | contains (k) : Meets owner m (.contains k) (m k).isSome m
  | size : Meets owner m .size {k | m k ≠ none}.ncard m
  | isEmpty {b : Bool} (iff : b = true ↔ ∀ k, m k = none) : Meets owner m .isEmpty b m
  | snapshot {all : OrderedMap StateKey Value} (sorted : all.Sorted)
      (same : ∀ k, all.get? k = m k) : Meets owner m .snapshot all m
  | written {k v caller} (owned : owner k = some caller) :
      Meets owner m (.write k v caller) (.ok (m k)) (Function.update m k (some v))
  | unwritten {k v caller} (foreign : owner k ≠ some caller) :
      Meets owner m (.write k v caller) (.error (.unauthorized k caller (owner k))) m
  | batched {entries caller} (owned : ∀ e ∈ entries, owner e.1 = some caller) :
      Meets owner m (.writeBatch entries caller) (.ok ()) (m.setAll entries)
  | unbatched {before k v after caller} (owned : ∀ e ∈ before, owner e.1 = some caller)
      (foreign : owner k ≠ some caller) :
      Meets owner m (.writeBatch (before ++ (k, v) :: after) caller)
        (.error (.unauthorized k caller (owner k))) m
  | updated {k caller f v} (owned : owner k = some caller) (made : f (m k) = .ok v) :
      Meets owner m (.update k caller f) (.ok v, [m k]) (Function.update m k (some v))
  | gaveUp {k caller f e} (owned : owner k = some caller) (failed : f (m k) = .error e) :
      Meets owner m (.update k caller f) (.error (.function e), [m k]) m
  | unapplied {k caller f} (foreign : owner k ≠ some caller) :
      Meets owner m (.update k caller f) (.error (.state (.unauthorized k caller (owner k))), []) m

/-- A history of calls with their answers, from one map to another. -/
inductive Runs (owner : StateKey → Option HandlerId) :
    Contents → List (StoreCall.Answered ε) → Contents → Prop where
  | nil (m : Contents) : Runs owner m [] m
  | cons {m m' m'' c r history} (first : Meets owner m c r m') (rest : Runs owner m' history m'') :
      Runs owner m (⟨c, r⟩ :: history) m''

end Contents

/-- In a list with keys of somebody else there is a first one. -/
lemma exists_first_foreign {owner : StateKey → Option HandlerId} {caller : HandlerId}
    {entries : List (StateKey × Value)} (not : ¬ ∀ e ∈ entries, owner e.1 = some caller) :
    ∃ before e after, entries = before ++ e :: after ∧
      (∀ e ∈ before, owner e.1 = some caller) ∧ owner e.1 ≠ some caller := by
  induction entries with
  | nil => exact absurd (by nofun) not
  | cons e rest ih =>
    by_cases first : owner e.1 = some caller
    · obtain ⟨before, e', after, rfl, owned, foreign⟩ := ih fun all =>
        not (List.forall_mem_cons.2 ⟨first, all⟩)
      exact ⟨e :: before, e', after, rfl, List.forall_mem_cons.2 ⟨first, owned⟩, foreign⟩
    · exact ⟨[], e, rest, rfl, by nofun, first⟩

/-! ## Stores and maps -/

namespace Store

open Contents StoreCall

variable {owners : OrderedMap StateKey HandlerId} {s : Store} {m m' : Contents} {caller : HandlerId}

/-- The store shows a map whose keys have the given owners. -/
structure Reflects (owners : OrderedMap StateKey HandlerId) (s : Store) (m : Contents) : Prop where
  owners : s.owners = owners
  sorted : s.entries.Sorted
  same : ∀ k, s.entries.get? k = m k

/-- Whatever of a store can be read tells the map. -/
structure Shows (s : Store) (m : Contents) : Prop where
  found : ∀ k v, s.read k = .ok v ↔ m k = some v
  missing : ∀ k e, s.read k = .error e ↔ m k = none ∧ e = .notFound k
  contains : ∀ k, s.contains k = (m k).isSome
  size : s.size = {k | m k ≠ none}.ncard
  isEmpty : s.isEmpty = true ↔ ∀ k, m k = none
  sorted : s.snapshot.Sorted
  snapshot : ∀ k, s.snapshot.get? k = m k

/-- A store has as many entries as there are keys with a value. -/
lemma ncard_keys (sorted : s.entries.Sorted) (same : ∀ k, s.entries.get? k = m k) :
    {k | m k ≠ none}.ncard = s.size := by
  have keys : {k | m k ≠ none} = (s.entries.keys.toFinset : Set StateKey) := by
    ext k
    rw [List.coe_toFinset, Set.mem_ofPred_eq, Set.mem_ofPred_eq, OrderedMap.mem_keys_iff, same]
  rw [keys, Set.ncard_coe_finset, List.toFinset_card_of_nodup sorted.nodup_keys, OrderedMap.keys,
    List.length_map]
  rfl

/-- A store is empty exactly if no key has a value. -/
lemma isEmpty_iff (same : ∀ k, s.entries.get? k = m k) :
    s.isEmpty = true ↔ ∀ k, m k = none := by
  have keys : s.isEmpty = true ↔ s.entries.keys = [] := by
    rw [Store.isEmpty, OrderedMap.isEmpty, List.isEmpty_iff, OrderedMap.keys, List.map_eq_nil_iff]
  rw [keys, List.eq_nil_iff_forall_not_mem]
  refine forall_congr' fun k => ?_
  rw [OrderedMap.mem_keys_iff, same, not_not]

/-- Of some keys the first one that the caller does not own is reported. -/
lemma authorizeAll_of_foreign {before after : List StateKey} {k : StateKey}
    (owned : ∀ k ∈ before, s.ownerOf? k = some caller) (foreign : s.ownerOf? k ≠ some caller) :
    s.authorizeAll caller (before ++ k :: after) =
      .error (.unauthorized k caller (s.ownerOf? k)) := by
  induction before with
  | nil => rw [List.nil_append, authorizeAll, authorize_of_ne foreign]
  | cons k' before ih =>
    obtain ⟨first, owned⟩ := List.forall_mem_cons.1 owned
    rw [List.cons_append, authorizeAll, authorize_of_owner first]
    exact ih owned

/-- The owner of all keys writes all values. -/
lemma writeBatch_of_owner {entries : List (StateKey × Value)}
    (owned : ∀ e ∈ entries, s.ownerOf? e.1 = some caller) :
    s.writeBatch entries caller = (.ok (), { s with entries := s.entries.insertAll entries }) := by
  rw [writeBatch, authorizeAll_eq_ok_iff.2 (List.forall_mem_map.2 owned)]

/-- At the first key of somebody else the whole batch is refused. -/
lemma writeBatch_of_foreign {before after : List (StateKey × Value)} {k : StateKey} {v : Value}
    (owned : ∀ e ∈ before, s.ownerOf? e.1 = some caller) (foreign : s.ownerOf? k ≠ some caller) :
    s.writeBatch (before ++ (k, v) :: after) caller =
      (.error (.unauthorized k caller (s.ownerOf? k)), s) := by
  rw [writeBatch, List.map_append, List.map_cons,
    authorizeAll_of_foreign (List.forall_mem_map.2 owned) foreign]

/-- The owner of a key writes its value and is told the old one. -/
lemma write_of_owner {k : StateKey} (owned : s.ownerOf? k = some caller) (v : Value) :
    s.write k v caller = (.ok (s.entries.get? k), s.set k v) := by
  rw [write, authorize_of_owner owned]

/-- The function of the owner is handed the current value. -/
lemma handed_of_owner {k : StateKey} (owned : s.ownerOf? k = some caller)
    (f : Option Value → Except ε Value) : s.handed k caller f = [s.entries.get? k] := by
  rw [handed, updateM, authorize_of_owner owned]
  dsimp only
  cases f (s.entries.get? k) <;> rfl

/-- Any other function is handed nothing. -/
lemma handed_of_ne {k : StateKey} (foreign : s.ownerOf? k ≠ some caller)
    (f : Option Value → Except ε Value) : s.handed k caller f = [] := by
  rw [handed, updateM, authorize_of_ne foreign]
  rfl

namespace Reflects

/-- A new store has no values. -/
lemma start (owners : OrderedMap StateKey HandlerId) :
    Reflects owners (withOwners owners) fun _ => none :=
  ⟨rfl, OrderedMap.sorted_empty, fun _ => rfl⟩

/-- The owner of a key is the one that it has from the start. -/
lemma ownerOf?_eq (h : Reflects owners s m) (k : StateKey) : s.ownerOf? k = owners.get? k := by
  rw [ownerOf?, h.owners]

/-- A store reflects one map only. -/
lemma unique (h : Reflects owners s m) (h' : Reflects owners s m') : m = m' :=
  funext fun k => (h.same k).symm.trans (h'.same k)

/-- To set a value is to change the map there. -/
lemma set (h : Reflects owners s m) (k : StateKey) (v : Value) :
    Reflects owners (s.set k v) (Function.update m k (some v)) where
  owners := h.owners
  sorted := OrderedMap.sorted_insert h.sorted k v
  same j := by
    rw [Store.set, OrderedMap.get?_insert, Function.update_apply, h.same]

/-- To insert values is to change the map at all their keys. -/
lemma insertAll (h : Reflects owners s m) (entries : List (StateKey × Value)) :
    Reflects owners { s with entries := s.entries.insertAll entries } (m.setAll entries) := by
  induction entries generalizing s m with
  | nil => exact h
  | cons e rest ih => exact ih (h.set e.1 e.2)

/-- A store shows the map that it reflects. -/
lemma shows (h : Reflects owners s m) : s.Shows m where
  found k v := by
    rw [read, ← h.same]
    cases s.entries.get? k <;> simp
  missing k e := by
    rw [read, ← h.same]
    cases s.entries.get? k <;> simp [eq_comm]
  contains k := by rw [Store.contains, OrderedMap.contains, h.same]
  size := (ncard_keys h.sorted h.same).symm
  isEmpty := isEmpty_iff h.same
  sorted := h.sorted
  snapshot := h.same

/-- The store answers a call as the map does, and shows the map after the call. -/
lemma perform_of_meets {c : StoreCall ε} {r : c.Reply} (h : Reflects owners s m)
    (meets : Meets owners.get? m c r m') :
    (s.perform c).1 = r ∧ Reflects owners (s.perform c).2 m' := by
  have shows := h.shows
  cases meets with
  | found there => exact ⟨(shows.found _ _).2 there, h⟩
  | missing absent => exact ⟨(shows.missing _ _).2 ⟨absent, rfl⟩, h⟩
  | contains k => exact ⟨shows.contains k, h⟩
  | size => exact ⟨shows.size, h⟩
  | isEmpty iff => exact ⟨Bool.eq_iff_iff.2 (shows.isEmpty.trans iff.symm), h⟩
  | snapshot sorted same =>
    exact ⟨OrderedMap.eq_of_get? h.sorted sorted fun k => (h.same k).trans (same k).symm, h⟩
  | @written k v caller owned =>
    rw [← h.ownerOf?_eq] at owned
    rw [perform, write_of_owner owned]
    exact ⟨congrArg _ (h.same k), h.set k v⟩
  | unwritten foreign =>
    rw [← h.ownerOf?_eq] at foreign ⊢
    rw [perform, write, authorize_of_ne foreign]
    exact ⟨rfl, h⟩
  | @batched entries caller owned =>
    have owned : ∀ e ∈ entries, s.ownerOf? e.1 = some caller := fun e mem =>
      (h.ownerOf?_eq e.1).trans (owned e mem)
    rw [perform, writeBatch_of_owner owned]
    exact ⟨rfl, h.insertAll entries⟩
  | @unbatched before k v after caller owned foreign =>
    have owned : ∀ e ∈ before, s.ownerOf? e.1 = some caller := fun e mem =>
      (h.ownerOf?_eq e.1).trans (owned e mem)
    rw [← h.ownerOf?_eq] at foreign ⊢
    rw [perform, writeBatch_of_foreign owned foreign]
    exact ⟨rfl, h⟩
  | @updated k caller f v owned made =>
    rw [← h.ownerOf?_eq] at owned
    rw [← h.same] at made ⊢
    rw [perform, update_of_ok (authorize_of_owner owned), handed_of_owner owned, made]
    exact ⟨rfl, h.set k v⟩
  | @gaveUp k caller f e owned failed =>
    rw [← h.ownerOf?_eq] at owned
    rw [← h.same] at failed ⊢
    rw [perform, update_of_ok (authorize_of_owner owned), handed_of_owner owned, failed]
    exact ⟨rfl, h⟩
  | unapplied foreign =>
    rw [← h.ownerOf?_eq] at foreign ⊢
    rw [perform, update_of_error (authorize_of_ne foreign), handed_of_ne foreign]
    exact ⟨rfl, h⟩

/-- The map answers every call. -/
lemma exists_meets (h : Reflects owners s m) (c : StoreCall ε) :
    ∃ r m', Meets owners.get? m c r m' := by
  have shows := h.shows
  cases c with
  | read k =>
    cases at_k : m k with
    | none => exact ⟨_, _, .missing at_k⟩
    | some v => exact ⟨_, _, .found at_k⟩
  | contains k => exact ⟨_, _, .contains k⟩
  | size => exact ⟨_, _, .size⟩
  | isEmpty => exact ⟨_, _, .isEmpty shows.isEmpty⟩
  | snapshot => exact ⟨_, _, .snapshot shows.sorted shows.snapshot⟩
  | write k v caller =>
    by_cases owned : owners.get? k = some caller
    · exact ⟨_, _, .written owned⟩
    · exact ⟨_, _, .unwritten owned⟩
  | writeBatch entries caller =>
    by_cases owned : ∀ e ∈ entries, owners.get? e.1 = some caller
    · exact ⟨_, _, .batched owned⟩
    · obtain ⟨before, ⟨k, v⟩, after, rfl, owned, foreign⟩ := exists_first_foreign owned
      exact ⟨_, _, .unbatched owned foreign⟩
  | update k caller f =>
    by_cases owned : owners.get? k = some caller
    · cases made : f (m k) with
      | ok v => exact ⟨_, _, .updated owned made⟩
      | error e => exact ⟨_, _, .gaveUp owned made⟩
    · exact ⟨_, _, .unapplied owned⟩

/-- A history of the map is one of the store. -/
lemma performAll_of_runs {history : List (Answered ε)} (h : Reflects owners s m)
    (runs : Runs owners.get? m history m') :
    (performAll (history.map Answered.call) s).1 = history ∧
      Reflects owners (performAll (history.map Answered.call) s).2 m' := by
  induction runs generalizing s with
  | nil m => exact ⟨rfl, h⟩
  | @cons _ _ _ c r history first rest ih =>
    obtain ⟨answer, reflects⟩ := h.perform_of_meets first
    obtain ⟨answers, reflects⟩ := ih reflects
    refine ⟨?_, reflects⟩
    show ⟨c, (s.perform c).1⟩ :: (performAll (history.map Answered.call) (s.perform c).2).1 = _
    rw [answer, answers]

/-- Whatever calls are made, a history of them runs. -/
lemma exists_runs (h : Reflects owners s m) (calls : List (StoreCall ε)) :
    ∃ history m', history.map Answered.call = calls ∧ Runs owners.get? m history m' := by
  induction calls generalizing s m with
  | nil => exact ⟨[], m, rfl, .nil m⟩
  | cons c rest ih =>
    obtain ⟨r, m₁, first⟩ := h.exists_meets c
    obtain ⟨history, m₂, calls, runs⟩ := ih (h.perform_of_meets first).2
    exact ⟨⟨c, r⟩ :: history, m₂, congrArg (c :: ·) calls, .cons first runs⟩

end Reflects

/-- A batch by the owner of all its keys is its writes one after another. -/
lemma writeBatch_eq_performAll {entries : List (StateKey × Value)}
    (owned : ∀ e ∈ entries, s.ownerOf? e.1 = some caller) :
    (s.writeBatch entries caller).2 =
      (performAll (entries.map fun e => (.write e.1 e.2 caller : StoreCall ε)) s).2 := by
  rw [writeBatch_of_owner owned]
  induction entries generalizing s with
  | nil => rfl
  | cons e rest ih =>
    obtain ⟨first, owned⟩ := List.forall_mem_cons.1 owned
    rw [List.map_cons, performAll, perform, write_of_owner first]
    exact ih (s := s.set e.1 e.2) owned

end Store

open Store StoreCall Contents

/-- Whatever calls are made on a store, by whomever, there is one map such that its histories are
just the history of the store, and the store and its reading side show what is in the map. A batch
by the owner of all its keys is its writes in order, so that the last entry with a key counts. -/
theorem store_refines_map {M : Type} (owners : OrderedMap StateKey HandlerId)
    (calls : List (StoreCall ε)) :
    let made := performAll calls (.withOwners owners)
    let s := made.2
    ∃ m : Contents,
      (∀ history m', history.map Answered.call = calls →
        (Runs owners.get? (fun _ => none) history m' ↔ history = made.1 ∧ m' = m)) ∧
      s.owners = owners ∧ s.Shows m ∧
      (∀ entries caller, (∀ e ∈ entries, owners.get? e.1 = some caller) →
        (s.writeBatch entries caller).2 =
            (performAll (entries.map fun e => (.write e.1 e.2 caller : StoreCall ε)) s).2 ∧
          (s.writeBatch entries caller).2.Shows fun k =>
            (OrderedMap.find? k entries.reverse).or (m k)) ∧
      ∀ w : World M, w.environment.store = s →
        (∀ k, w.perform (StateView.read k) = (s.read k, w)) ∧
        (∀ k, w.perform (StateView.contains k) = (s.contains k, w)) ∧
        w.perform StateView.snapshot = (s.snapshot, w) := by
  intro made s
  have start := Reflects.start owners
  obtain ⟨history, m, same, runs⟩ := start.exists_runs calls
  obtain ⟨answers, reflects⟩ := start.performAll_of_runs runs
  rw [same] at answers reflects
  refine ⟨m, fun history' m' same' => ⟨fun runs' => ?_, ?_⟩, reflects.owners, reflects.shows,
    fun entries caller owned => ?_, ?_⟩
  · obtain ⟨answers', reflects'⟩ := start.performAll_of_runs runs'
    rw [same'] at answers' reflects'
    exact ⟨answers'.symm, reflects'.unique reflects⟩
  · rintro ⟨rfl, rfl⟩
    rwa [← answers] at runs
  · have owned : ∀ e ∈ entries, s.ownerOf? e.1 = some caller := fun e mem =>
      (reflects.ownerOf?_eq e.1).trans (owned e mem)
    refine ⟨writeBatch_eq_performAll owned, ?_⟩
    have last : m.setAll entries = fun k => (OrderedMap.find? k entries.reverse).or (m k) :=
      funext (m.setAll_apply entries)
    rw [writeBatch_of_owner owned, ← last]
    exact (reflects.insertAll entries).shows
  · intro w shown
    rw [← shown]
    exact ⟨w.perform_viewRead, w.perform_viewContains, w.perform_viewSnapshot⟩

end Cadence
