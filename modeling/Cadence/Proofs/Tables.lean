import Cadence.Proofs.Maps
import Cadence.Proofs.Ownership
import Cadence.Proofs.Trail

/-!
# Tables of a database

What becomes of one table of a database when nothing is pending in the others
(`Database.Holds`): an insertion stages a row of it, a commit commits exactly its pending rows and
counts them, and what else can be asked of the database leaves the table alone as long as it has
nothing pending either. The tables are kept in the order of their names, as the shared state is in
the order of its keys, whatever a simulation does (`World.Ordered`).
-/

namespace Cadence

namespace OrderedMap

universe u v w

variable {κ : Type u} {β : Type v} {γ : Type w}

/-- Changing all values of a map changes the one that is found. -/
lemma get?_mapValues [DecidableEq κ] (f : β → γ) (m : OrderedMap κ β) (k : κ) :
    (m.mapValues f).get? k = (m.get? k).map f := by
  obtain ⟨entries⟩ := m
  show find? k (entries.map fun e => (e.1, f e.2)) = (find? k entries).map f
  induction entries with
  | nil => rfl
  | cons e rest ih =>
    rw [List.map_cons, find?, find?, ih]
    split <;> rfl

/-- It leaves the keys in order. -/
lemma Sorted.mapValues [Ord κ] {m : OrderedMap κ β} (sorted : m.Sorted) (f : β → γ) :
    (m.mapValues f).Sorted :=
  List.pairwise_map.2 sorted

end OrderedMap

namespace Database

/-- The database has the table, and nothing is pending in any other one. -/
structure Holds (db : Database) (t : Table) : Prop where
  sorted : db.tables.Sorted
  found : db.tables.get? t.descriptor.name = some t
  others : ∀ e ∈ db.tables.entries, e.1 ≠ t.descriptor.name → e.2.pending = []

variable {db : Database} {t : Table}

/-! ## A database that does not run -/

/-- A database that runs passes the check. -/
lemma checkRunning_of_running (running : db.running = true) : db.checkRunning = .ok () :=
  if_pos running

/-- A database that is stopped fails it. -/
lemma checkRunning_of_stopped (stopped : db.running = false) :
    db.checkRunning = .error .notRunning :=
  if_neg (Bool.eq_false_iff.1 stopped)

/-- A stopped database takes no rows. -/
lemma insert_of_stopped (stopped : db.running = false) (name : String) (scope : RowScope)
    (row : Row) : db.insert name scope row = (.error .notRunning, db) := by
  have refused : db.admits name scope row = .error .notRunning := by
    rw [admits, checkRunning_of_stopped stopped]
    rfl
  rw [insert, refused]

/-- A stopped database commits nothing. -/
lemma commit_of_stopped (stopped : db.running = false) :
    db.commit = (.error .notRunning, db) := by
  rw [commit, checkRunning_of_stopped stopped]

/-- A row that is refused leaves the database as it is. -/
lemma insert_of_error {name : String} {scope : RowScope} {row : Row} {e : DbError}
    (refused : (db.insert name scope row).1 = .error e) : (db.insert name scope row).2 = db := by
  rw [insert] at refused ⊢
  cases admitted : db.admits name scope row with
  | error e => rfl
  | ok t =>
    rw [admitted] at refused
    cases refused

/-- A commit that is refused changes nothing. -/
lemma commit_of_error {e : DbError} (refused : db.commit.1 = .error e) : db.commit.2 = db := by
  rw [commit] at refused ⊢
  cases running : db.checkRunning with
  | error e => rfl
  | ok u =>
    rw [running] at refused
    cases refused

/-! ## A database that has the table -/

namespace Holds

/-- The committed rows of the table are those of the table that is held. -/
lemma rows_eq (h : db.Holds t) : db.rows t.descriptor.name = .ok t.committed := by
  rw [rows, table, h.found]
  rfl

/-- A valid row goes to the rows that are pending in the table, while the database runs. -/
lemma insert (h : db.Holds t) (running : db.running = true) {scope : RowScope} {row : Row}
    (valid : t.descriptor.validate scope row = .ok ()) :
    ∃ db', db.insert t.descriptor.name scope row = (.ok (), db') ∧ db'.running = true ∧
      db'.Holds (t.stage ⟨scope, row⟩) := by
  have admitted : db.admits t.descriptor.name scope row = .ok t := by
    rw [admits, checkRunning_of_running running, table, h.found]
    simp only [bind, Except.bind, valid]
    rfl
  rw [Database.insert, admitted]
  refine ⟨_, rfl, running, OrderedMap.sorted_insert h.sorted _ _, ?_, fun e mem other => ?_⟩
  · exact OrderedMap.get?_insert_self _ _ _
  · rcases OrderedMap.mem_insertEntry mem with rfl | old
    · exact absurd rfl other
    · exact h.others e old other

/-- Nothing is pending elsewhere, so what is pending at all is what is pending in the table. -/
lemma pendingRows_eq (h : db.Holds t) : db.pendingRows = t.pending.length := by
  have nodup := h.sorted.nodup_keys
  have found := h.found
  have others := h.others
  rw [OrderedMap.keys] at nodup
  rw [OrderedMap.get?] at found
  rw [pendingRows, OrderedMap.values]
  generalize db.tables.entries = entries at nodup found others ⊢
  refine congrArg List.length ?_
  induction entries with
  | nil => cases found
  | cons e rest ih =>
    obtain ⟨name, t'⟩ := e
    obtain ⟨new, nodup⟩ := List.nodup_cons.1 nodup
    have later : ∀ e ∈ rest, e.1 ≠ t.descriptor.name → e.2.pending = [] :=
      fun e mem => others e (List.mem_cons_of_mem _ mem)
    rw [List.map_cons, List.flatMap_cons]
    rw [OrderedMap.find?] at found
    split at found
    · next same =>
      obtain rfl := Option.some.inj found
      -- no table later on has the name
      have none : (rest.map Prod.snd).flatMap Table.pending = [] := by
        refine List.flatMap_eq_nil_iff.2 fun t' mem => ?_
        obtain ⟨e, place, rfl⟩ := List.mem_map.1 mem
        refine later e place fun equal => new ?_
        exact List.mem_map.2 ⟨e, place, equal.trans same⟩
      rw [none, List.append_nil]
    · next other =>
      rw [others (name, t') List.mem_cons_self (Ne.symm other), List.nil_append]
      exact ih nodup found later

/-- A change of all tables that keeps the description of this one, and nothing pending in the
others, leaves the database holding the table as it has become. -/
lemma mapValues (h : db.Holds t) {f : Table → Table} (running : Bool)
    (same : (f t).descriptor = t.descriptor)
    (settles : ∀ t' : Table, t'.pending = [] → (f t').pending = []) :
    Holds { running := running, tables := db.tables.mapValues f } (f t) := by
  refine ⟨h.sorted.mapValues f, ?_, fun e mem other => ?_⟩
  · rw [same, OrderedMap.get?_mapValues, h.found]
    rfl
  · rw [same] at other
    obtain ⟨e', place, rfl⟩ := List.mem_map.1 mem
    exact settles e'.2 (h.others e' place other)

/-- A commit counts the pending rows of the table and commits them. -/
lemma commit (h : db.Holds t) (running : db.running = true) :
    ∃ db', db.commit = (.ok t.pending.length, db') ∧ db'.running = true ∧ db'.Holds t.commit := by
  rw [Database.commit, checkRunning_of_running running, h.pendingRows_eq]
  exact ⟨_, rfl, running, h.mapValues db.running rfl fun _ _ => rfl⟩

/-- To start the database leaves the table. -/
lemma start (h : db.Holds t) : db.start.Holds t := ⟨h.sorted, h.found, h.others⟩

/-- To stop it leaves the table, if nothing is pending in it. -/
lemma stop (h : db.Holds t) (settled : t.pending = []) : db.stop.Holds t := by
  have discarded : t.discard = t := by
    rw [Table.discard, ← settled]
  rw [Database.stop]
  split
  · have discards := h.mapValues (f := Table.discard) false rfl fun _ _ => rfl
    rwa [discarded] at discards
  · exact h

/-- To create another table leaves this one. -/
lemma create (h : db.Holds t) (d : TableDescriptor) : (db.create d).2.Holds t := by
  rw [Database.create]
  cases db.checkRunning with
  | error e => exact h
  | ok u =>
    dsimp only
    split
    · exact h
    · next absent =>
      have other : t.descriptor.name ≠ d.name := by
        intro same
        rw [← same, OrderedMap.contains, h.found] at absent
        exact absent rfl
      refine ⟨OrderedMap.sorted_insert h.sorted _ _, ?_, fun e mem unlike => ?_⟩
      · exact (OrderedMap.get?_insert_of_ne other _ _).trans h.found
      · rcases OrderedMap.mem_insertEntry mem with rfl | old
        · rfl
        · exact h.others e old unlike

end Holds

/-- A database in which nothing is pending has a table, and no row in it, once it is created. -/
lemma holds_of_created {d : TableDescriptor} (sorted : db.tables.Sorted)
    (settled : ∀ t ∈ db.tables.values, t.pending = []) (created : (db.create d).1 = .ok ()) :
    (db.create d).2.Holds ⟨d, [], []⟩ := by
  rw [create] at created ⊢
  cases running : db.checkRunning with
  | error e =>
    rw [running] at created
    cases created
  | ok u =>
    rw [running] at created
    dsimp only at created ⊢
    split at created
    · cases created
    · next absent =>
      rw [if_neg absent]
      refine ⟨OrderedMap.sorted_insert sorted _ _, OrderedMap.get?_insert_self _ _ _, ?_⟩
      intro e mem other
      rcases OrderedMap.mem_insertEntry mem with rfl | old
      · rfl
      · exact settled e.2 (List.mem_map_of_mem old)

end Database

/-! ## Maps in order -/

variable {M T : Type}

namespace Store

variable {s : Store}

/-- A write leaves the entries of the store in order. -/
lemma sorted_write (sorted : s.entries.Sorted) (key : StateKey) (value : Value)
    (caller : HandlerId) : (s.write key value caller).2.entries.Sorted := by
  obtain ⟨-, eq⟩ | ⟨e, eq⟩ := s.write_cases key value caller
  · rw [eq]
    exact OrderedMap.sorted_insert sorted key value
  · rw [eq]
    exact sorted

/-- So does a write of several values. -/
lemma sorted_writeBatch (sorted : s.entries.Sorted) (entries : List (StateKey × Value))
    (caller : HandlerId) : (s.writeBatch entries caller).2.entries.Sorted := by
  obtain ⟨-, eq⟩ | ⟨e, eq⟩ := s.writeBatch_cases entries caller
  · rw [eq]
    exact OrderedMap.sorted_insertAll sorted entries
  · rw [eq]
    exact sorted

/-- So does an update. -/
lemma sorted_update {ε : Type} (sorted : s.entries.Sorted) (key : StateKey) (caller : HandlerId)
    (f : Option Value → Except ε Value) : (s.update key caller f).2.entries.Sorted := by
  obtain ⟨value, -, eq⟩ | ⟨e, eq⟩ := s.update_cases key caller f
  · rw [eq]
    exact OrderedMap.sorted_insert sorted key value
  · rw [eq]
    exact sorted

end Store

/-- A call on the database leaves its tables in order. -/
lemma Database.sorted_perform {db : Database} (sorted : db.tables.Sorted) (c : DatabaseCall) :
    (db.perform c).2.tables.Sorted := by
  cases c with
  | start => exact sorted
  | stop =>
    show db.stop.tables.Sorted
    rw [stop]
    split
    · exact sorted.mapValues _
    · exact sorted
  | create d =>
    show (db.create d).2.tables.Sorted
    rw [create]
    cases db.checkRunning with
    | error e => exact sorted
    | ok u =>
      dsimp only
      split
      · exact sorted
      · exact OrderedMap.sorted_insert sorted _ _
  | insert table scope row =>
    show (db.insert table scope row).2.tables.Sorted
    rw [insert]
    cases db.admits table scope row with
    | error e => exact sorted
    | ok t => exact OrderedMap.sorted_insert sorted _ _
  | commit =>
    show db.commit.2.tables.Sorted
    rw [commit]
    cases db.checkRunning with
    | error e => exact sorted
    | ok u => exact sorted.mapValues _

namespace World

/-- The shared state and the tables of the database are in the order of their keys. -/
structure Ordered (w : World M) : Prop where
  store : w.environment.store.entries.Sorted
  tables : w.database.tables.Sorted

/-- A world is in order if its content is. -/
lemma Ordered.of_content {w w' : World M} (content : w'.content = w.content) (h : w.Ordered) :
    w'.Ordered := by
  have store := congrArg (fun w => w.environment.store) content
  have database := congrArg World.database content
  exact ⟨store ▸ h.store, database ▸ h.tables⟩

end World

/-- Every access leaves the world in order. -/
lemma Access.ordered_apply (a : Access M) (w : World M) (h : w.Ordered) :
    (a.apply w).2.Ordered := by
  have others : a.isWrite = false → (a.apply w).2.database = w.database →
      (a.apply w).2.Ordered := by
    intro reads same
    refine ⟨?_, same ▸ h.tables⟩
    rw [(a.apply_frame w).2 reads]
    exact h.store
  cases a with
  | write key value caller => exact ⟨Store.sorted_write h.store key value caller, h.tables⟩
  | writeBatch entries caller => exact ⟨Store.sorted_writeBatch h.store entries caller, h.tables⟩
  | update key caller f => exact ⟨Store.sorted_update h.store key caller f, h.tables⟩
  | database c => exact ⟨h.store, Database.sorted_perform h.tables c⟩
  | _ => exact others rfl rfl

section Histories

variable [Time T]

/-- So does a history. -/
lemma Plan.ordered_after {x : Plan M T} (sorted : x.database.tables.Sorted)
    (history : List (DriverCall M T)) : (x.after history).world.Ordered :=
  x.after_induction (P := fun g => g.world.Ordered) ⟨.nil, sorted⟩
    (fun g _ h => (DriverCall.keeps g.simulation g.world World.Ordered.of_content
      Access.ordered_apply _ h).2) history

end Histories

end Cadence
