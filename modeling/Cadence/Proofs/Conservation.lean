import Cadence.Proofs.Tables
import Mathlib.Algebra.BigOperators.Group.List.Basic
import Mathlib.Algebra.Ring.Nat

/-!
# Rows are conserved

Every row that a database accepts is pending, committed or discarded, and nothing else is in the
tables. `insertions` lists the rows that the calls of a history insert, in that order, each with
what has settled it: the first commit that succeeds after it, or the first time that the running
database is stopped. `Database.Conserves` ties this list to the tables; one call keeps it
(`Database.Conserves.next`), so it holds after every history (`Database.conserves_after`).
-/

namespace Cadence

/-- The error that a call on the database is answered with, if it is. -/
def DatabaseCall.error? : (c : DatabaseCall) → c.Reply → Option DbError
  | .create _, .error e => some e
  | .insert _ _ _, .error e => some e
  | .commit, .error e => some e
  | _, _ => none

/-- Whether a call starts or stops the database. -/
def DatabaseCall.isSwitch : DatabaseCall → Bool
  | .start | .stop => true
  | _ => false

/-- A call, and the database on which it is made. -/
structure DatabaseDeed where
  call : DatabaseCall
  database : Database

/-- What ends the time in which a row is pending. -/
inductive Settlement where
  | committed
  | discarded
  deriving DecidableEq, Repr

namespace DatabaseDeed

/-- The database after it. -/
def after (d : DatabaseDeed) : Database := (d.database.perform d.call).2

/-- The row that the call inserts, with the name of the table, if it succeeds in that. -/
def inserted? (d : DatabaseDeed) : Option (String × StoredRow) :=
  match d.call with
  | .insert table scope row =>
    match (d.database.insert table scope row).1 with
    | .ok () => some (table, ⟨scope, row⟩)
    | .error _ => none
  | _ => none

/-- What becomes of all pending rows: a commit that succeeds commits them, and when a database that
runs is stopped they are discarded. -/
def settles? (d : DatabaseDeed) : Option Settlement :=
  match d.call with
  | .commit =>
    match d.database.commit.1 with
    | .ok _ => some .committed
    | .error _ => none
  | .stop => if d.database.running then some .discarded else none
  | _ => none

end DatabaseDeed

namespace Database

/-- The database after the calls of a history. -/
def after (db : Database) (history : List DatabaseCall) : Database :=
  history.foldl (fun db c => (db.perform c).2) db

/-- What the calls of a history do. -/
def deeds (db : Database) : List DatabaseCall → List DatabaseDeed
  | [] => []
  | c :: rest => ⟨c, db⟩ :: deeds (db.perform c).2 rest

end Database

/-- A row that was inserted into a table, and what has settled it; nothing as long as it is pending.
-/
structure Insertion where
  table : String
  row : StoredRow
  settled? : Option Settlement
  deriving DecidableEq, Repr

/-- The rows that deeds insert, in that order. A row is settled by the first later deed that settles
any. -/
def insertions : List DatabaseDeed → List Insertion
  | [] => []
  | d :: later =>
    (d.inserted?.map fun p => ⟨p.1, p.2, later.findSome? DatabaseDeed.settles?⟩).toList ++
      insertions later

/-- The rows of a table that are settled in one way, or are pending. -/
def rowsOf (is : List Insertion) (table : String) (settled? : Option Settlement) : List StoredRow :=
  (is.filter fun i => i.table == table && i.settled? == settled?).map Insertion.row

namespace Insertion

/-- The row after one more deed. -/
def after (d : DatabaseDeed) (i : Insertion) : Insertion :=
  { i with settled? := i.settled?.or d.settles? }

end Insertion

/-- One more deed settles what is pending, and may insert a row. -/
lemma insertions_concat (ds : List DatabaseDeed) (d : DatabaseDeed) :
    insertions (ds ++ [d]) =
      (insertions ds).map (Insertion.after d) ++
        (d.inserted?.map fun p => ⟨p.1, p.2, none⟩).toList := by
  induction ds with
  | nil => exact List.append_nil _
  | cons first rest ih =>
    rw [List.cons_append, insertions, insertions, ih, List.map_append, ← List.append_assoc,
      List.findSome?_append, List.findSome?_singleton]
    cases first.inserted? <;> rfl

/-! ## What a call does -/

/-- What a deed comes to: the database after it, the row that it inserts, and how it settles those
that are pending. -/
inductive DatabaseDeed.Comes (d : DatabaseDeed) : Prop where
  /-- Nothing changes: the call is refused, or stops a database that does not run. -/
  | idle (after : d.after = d.database) (silent : d.inserted? = none) (settles : d.settles? = none)
  | started (after : d.after = { d.database with running := true }) (silent : d.inserted? = none)
      (settles : d.settles? = none)
  | stopped (after : d.after =
        { running := false, tables := d.database.tables.mapValues Table.discard })
      (silent : d.inserted? = none) (settles : d.settles? = some .discarded)
  | created (t : TableDescriptor) (running : d.database.running = true)
      (absent : d.database.tables.get? t.name = none)
      (after : d.after =
        { d.database with tables := d.database.tables.insert t.name { descriptor := t } })
      (silent : d.inserted? = none) (settles : d.settles? = none)
  | inserted (name : String) (row : StoredRow) (t : Table) (running : d.database.running = true)
      (found : d.database.tables.get? name = some t)
      (valid : t.descriptor.validate row.scope row.row = .ok ())
      (after : d.after = { d.database with tables := d.database.tables.insert name (t.stage row) })
      (inserts : d.inserted? = some (name, row)) (settles : d.settles? = none)
  | committed (running : d.database.running = true)
      (after : d.after =
        { d.database with tables := d.database.tables.mapValues Table.commit })
      (silent : d.inserted? = none) (settles : d.settles? = some .committed)

namespace Database

variable {db : Database} {is : List Insertion}

/-- A database that passes the check runs. -/
lemma running_of_checkRunning (checked : db.checkRunning = .ok ()) : db.running = true := by
  by_contra stopped
  rw [checkRunning_of_stopped (Bool.eq_false_iff.2 stopped)] at checked
  cases checked

/-- A row goes into a table that a running database has, if the table admits it. -/
lemma of_admits {name : String} {scope : RowScope} {row : Row} {t : Table}
    (admitted : db.admits name scope row = .ok t) :
    db.running = true ∧ db.tables.get? name = some t ∧
      t.descriptor.validate scope row = .ok () := by
  simp only [admits, bind, Except.bind] at admitted
  cases checked : db.checkRunning with
  | error e =>
    rw [checked] at admitted
    cases admitted
  | ok u =>
    rw [checked, table] at admitted
    cases found : db.tables.get? name with
    | none =>
      rw [found] at admitted
      cases admitted
    | some t' =>
      rw [found] at admitted
      dsimp only at admitted
      cases valid : t'.descriptor.validate scope row with
      | error e =>
        rw [valid] at admitted
        cases admitted
      | ok u =>
        rw [valid] at admitted
        obtain rfl : t' = t := Except.ok.inj admitted
        exact ⟨running_of_checkRunning checked, rfl, valid⟩

/-- Every call on the database comes to something. -/
theorem comes (db : Database) (c : DatabaseCall) : DatabaseDeed.Comes ⟨c, db⟩ := by
  cases c with
  | start => exact .started rfl rfl rfl
  | stop =>
    have after : DatabaseDeed.after ⟨.stop, db⟩ = db.stop := rfl
    have settles : DatabaseDeed.settles? ⟨.stop, db⟩ =
      if db.running then some .discarded else none := rfl
    rw [stop] at after
    cases running : db.running with
    | true =>
      rw [running, if_pos rfl] at after settles
      exact .stopped after rfl settles
    | false =>
      rw [running, if_neg Bool.false_ne_true] at after settles
      exact .idle after rfl settles
  | create t =>
    have after : DatabaseDeed.after ⟨.create t, db⟩ = (db.create t).2 := rfl
    rw [create] at after
    cases checked : db.checkRunning with
    | error e =>
      rw [checked] at after
      exact .idle after rfl rfl
    | ok u =>
      rw [checked] at after
      dsimp only at after
      split at after
      · exact .idle after rfl rfl
      · next absent =>
        rw [OrderedMap.contains, Bool.not_eq_true, Option.isSome_eq_false_iff,
          Option.isNone_iff_eq_none] at absent
        exact .created t (running_of_checkRunning checked) absent after rfl rfl
  | insert name scope row =>
    have after : DatabaseDeed.after ⟨.insert name scope row, db⟩ = (db.insert name scope row).2 :=
      rfl
    have inserted : DatabaseDeed.inserted? ⟨.insert name scope row, db⟩ =
      match (db.insert name scope row).1 with
      | .ok () => some (name, ⟨scope, row⟩)
      | .error _ => none := rfl
    rw [insert] at after inserted
    cases admitted : db.admits name scope row with
    | error e =>
      rw [admitted] at after inserted
      exact .idle after inserted rfl
    | ok t =>
      rw [admitted] at after inserted
      obtain ⟨running, found, valid⟩ := of_admits admitted
      exact .inserted name ⟨scope, row⟩ t running found valid after inserted rfl
  | commit =>
    have after : DatabaseDeed.after ⟨.commit, db⟩ = db.commit.2 := rfl
    have settles : DatabaseDeed.settles? ⟨.commit, db⟩ =
      match db.commit.1 with
      | .ok _ => some .committed
      | .error _ => none := rfl
    rw [commit] at after settles
    cases checked : db.checkRunning with
    | error e =>
      rw [checked] at after settles
      exact .idle after rfl settles
    | ok u =>
      rw [checked] at after settles
      exact .committed (running_of_checkRunning checked) after rfl settles

/-! ## Rows in their tables -/

/-- The tables hold the rows that were inserted: each the committed and the pending ones of its own,
and nothing else. -/
structure Conserves (is : List Insertion) (db : Database) : Prop where
  sorted : db.tables.Sorted
  valid : ∀ i ∈ is, ∃ t, db.tables.get? i.table = some t ∧
    t.descriptor.validate i.row.scope i.row.row = .ok ()
  rows : ∀ name t, db.tables.get? name = some t →
    t.committed = rowsOf is name (some .committed) ∧ t.pending = rowsOf is name none
  /-- A row that is pending was inserted after all that are settled. -/
  ordered : ∃ old new, is = old ++ new ∧ (∀ i ∈ old, i.settled? ≠ none) ∧
    ∀ i ∈ new, i.settled? = none
  settled : db.running = false → ∀ i ∈ is, i.settled? ≠ none

end Database

/-- The rows of insertions after others come after those of the others. -/
lemma rowsOf_append (is is' : List Insertion) (name : String) (settled? : Option Settlement) :
    rowsOf (is ++ is') name settled? = rowsOf is name settled? ++ rowsOf is' name settled? := by
  rw [rowsOf, List.filter_append, List.map_append]
  rfl

/-- Where no insertion into the table has come to that end, there are no such rows. -/
lemma rowsOf_eq_nil {is : List Insertion} {name : String} {settled? : Option Settlement}
    (other : ∀ i ∈ is, i.table = name → i.settled? ≠ settled?) : rowsOf is name settled? = [] := by
  refine List.map_eq_nil_iff.2 (List.filter_eq_nil_iff.2 fun i mem holds => ?_)
  rw [Bool.and_eq_true, beq_iff_eq, beq_iff_eq] at holds
  exact other i mem holds.1 holds.2

/-- A deed that settles nothing leaves all insertions as they are. -/
lemma map_after_of_none {d : DatabaseDeed} (settles : d.settles? = none) (is : List Insertion) :
    is.map (Insertion.after d) = is := by
  refine (List.map_congr_left fun i _ => ?_).trans (List.map_id is)
  rw [Insertion.after, settles, Option.or_none]
  rfl

/-- What is settled stays so. -/
lemma after_of_settled {d : DatabaseDeed} {i : Insertion} (settled : i.settled? ≠ none) :
    i.after d = i := by
  obtain ⟨g, eq⟩ := Option.ne_none_iff_exists'.1 settled
  rw [Insertion.after, eq, Option.some_or, ← eq]

section Settle

variable {d : DatabaseDeed} {f : Settlement} (settles : d.settles? = some f)
include settles

/-- What is pending is settled as the deed settles it. -/
lemma settled?_after_of_pending {i : Insertion} (pending : i.settled? = none) :
    (i.after d).settled? = some f := by
  rw [Insertion.after, pending, settles]
  rfl

/-- A deed that settles what is pending leaves nothing pending. -/
lemma settled?_after_ne_none (i : Insertion) : (i.after d).settled? ≠ none := by
  by_cases pending : i.settled? = none
  · rw [settled?_after_of_pending settles pending]
    nofun
  · rw [after_of_settled pending]
    exact pending

/-- Rows that are pending are settled behind those that were settled before. -/
lemma rowsOf_map_after {is old new : List Insertion} (split : is = old ++ new)
    (settled : ∀ i ∈ old, i.settled? ≠ none) (pending : ∀ i ∈ new, i.settled? = none)
    (name : String) (g : Settlement) :
    rowsOf (is.map (Insertion.after d)) name (some g) =
      rowsOf is name (some g) ++ if g = f then rowsOf is name none else [] := by
  subst split
  have same : old.map (Insertion.after d) = old :=
    (List.map_congr_left fun i mem => after_of_settled (settled i mem)).trans (List.map_id old)
  have unsettled : rowsOf new name (some g) = [] :=
    rowsOf_eq_nil fun i mem _ => by rw [pending i mem]; nofun
  have spent : rowsOf old name none = [] := rowsOf_eq_nil fun i mem _ => settled i mem
  rw [List.map_append, rowsOf_append, rowsOf_append, rowsOf_append, same, unsettled, spent,
    List.append_nil, List.nil_append]
  refine congrArg (rowsOf old name (some g) ++ ·) ?_
  by_cases way : g = f
  · subst way
    rw [if_pos rfl, rowsOf, List.filter_map, List.map_map, rowsOf]
    refine congrArg (List.map Insertion.row) (List.filter_congr fun i mem => ?_)
    show ((i.after d).table == name && (i.after d).settled? == some g) = _
    rw [settled?_after_of_pending settles (pending i mem), pending i mem, beq_self_eq_true,
      beq_self_eq_true]
    rfl
  · rw [if_neg way]
    refine rowsOf_eq_nil fun i mem _ same => way ?_
    obtain ⟨i', mem', rfl⟩ := List.mem_map.1 mem
    rw [settled?_after_of_pending settles (pending i' mem')] at same
    exact (Option.some.inj same).symm

end Settle

namespace Database.Conserves

variable {is : List Insertion} {d : DatabaseDeed}

/-- An empty database conserves no insertions. -/
lemma of_empty : Conserves [] {} where
  sorted := OrderedMap.sorted_empty
  valid := nofun
  rows := nofun
  ordered := ⟨[], [], rfl, nofun, nofun⟩
  settled := fun _ => nofun

/-- What settles the pending rows changes every table in one way. -/
lemma settle (h : d.database.Conserves is) {f : Settlement} (settles : d.settles? = some f)
    (running : Bool) {g : Table → Table} (same : ∀ t, (g t).descriptor = t.descriptor)
    (spent : ∀ t, (g t).pending = [])
    (kept : ∀ t, (g t).committed = t.committed ++ if .committed = f then t.pending else []) :
    Conserves (is.map (Insertion.after d))
      { running := running, tables := d.database.tables.mapValues g } where
  sorted := h.sorted.mapValues g
  valid := by
    intro i mem
    obtain ⟨i', mem', rfl⟩ := List.mem_map.1 mem
    obtain ⟨t, found, valid⟩ := h.valid i' mem'
    refine ⟨g t, ?_, ?_⟩
    · exact (OrderedMap.get?_mapValues g _ _).trans (congrArg (Option.map g) found)
    · rw [same]
      exact valid
  rows := by
    intro name t found
    rw [OrderedMap.get?_mapValues] at found
    obtain ⟨t', found', rfl⟩ := Option.map_eq_some_iff.1 found
    obtain ⟨committed, staged⟩ := h.rows name t' found'
    obtain ⟨old, new, split, settled, pending⟩ := h.ordered
    refine ⟨?_, ?_⟩
    · rw [kept, rowsOf_map_after settles split settled pending, committed, staged]
    · rw [spent]
      refine (rowsOf_eq_nil fun i mem _ => ?_).symm
      obtain ⟨i', -, rfl⟩ := List.mem_map.1 mem
      exact settled?_after_ne_none settles i'
  ordered := by
    refine ⟨_, [], (List.append_nil _).symm, fun i mem => ?_, nofun⟩
    obtain ⟨i', -, rfl⟩ := List.mem_map.1 mem
    exact settled?_after_ne_none settles i'
  settled := by
    intro _ i mem
    obtain ⟨i', -, rfl⟩ := List.mem_map.1 mem
    exact settled?_after_ne_none settles i'

/-- A new table has no rows, and the other ones keep theirs. -/
lemma create {db : Database} (h : db.Conserves is) {t : TableDescriptor}
    (running : db.running = true) (absent : db.tables.get? t.name = none) :
    Conserves is { db with tables := db.tables.insert t.name { descriptor := t } } := by
  -- a row is only ever inserted into a table that there is
  have unused : ∀ i ∈ is, i.table ≠ t.name := by
    intro i mem same
    obtain ⟨t', found, -⟩ := h.valid i mem
    rw [same, absent] at found
    cases found
  refine ⟨OrderedMap.sorted_insert h.sorted _ _, ?_, ?_, h.ordered, ?_⟩
  · intro i mem
    obtain ⟨t', found, valid⟩ := h.valid i mem
    exact ⟨t', (OrderedMap.get?_insert_of_ne (unused i mem) _ _).trans found, valid⟩
  · intro name t' found
    rw [OrderedMap.get?_insert] at found
    split at found
    · next same =>
      obtain rfl := Option.some.inj found
      have none : ∀ settled?, rowsOf is name settled? = [] :=
        fun _ => rowsOf_eq_nil fun i mem at_name => absurd (at_name.trans same) (unused i mem)
      exact ⟨(none _).symm, (none _).symm⟩
    · exact h.rows name t' found
  · intro stopped
    rw [running] at stopped
    cases stopped

/-- A row that fits is pending behind all others. -/
lemma insert {db : Database} (h : db.Conserves is) {name : String} {row : StoredRow} {t : Table}
    (running : db.running = true) (found : db.tables.get? name = some t)
    (valid : t.descriptor.validate row.scope row.row = .ok ()) :
    Conserves (is ++ [⟨name, row, none⟩])
      { db with tables := db.tables.insert name (t.stage row) } := by
  have staged : (db.tables.insert name (t.stage row)).get? name = some (t.stage row) :=
    OrderedMap.get?_insert_self _ _ _
  have others : ∀ other, other ≠ name →
      (db.tables.insert name (t.stage row)).get? other = db.tables.get? other :=
    fun other ne => OrderedMap.get?_insert_of_ne ne _ _
  refine ⟨OrderedMap.sorted_insert h.sorted _ _, ?_, ?_, ?_, ?_⟩
  · intro i mem
    rcases List.mem_append.1 mem with old | new
    · obtain ⟨t', found', valid'⟩ := h.valid i old
      by_cases same : i.table = name
      · rw [same, found] at found'
        obtain rfl := Option.some.inj found'
        exact ⟨t.stage row, same ▸ staged, valid'⟩
      · exact ⟨t', (others _ same).trans found', valid'⟩
    · obtain rfl := List.mem_singleton.1 new
      exact ⟨t.stage row, staged, valid⟩
  · intro other t' found'
    have uncommitted : rowsOf [⟨name, row, none⟩] other (some .committed) = [] :=
      rowsOf_eq_nil fun i mem _ => by rw [List.mem_singleton.1 mem]; nofun
    rw [rowsOf_append, rowsOf_append, uncommitted, List.append_nil]
    by_cases same : other = name
    · subst same
      obtain rfl := Option.some.inj (staged.symm.trans found')
      obtain ⟨committed, pending⟩ := h.rows other t found
      have one : rowsOf [⟨other, row, none⟩] other none = [row] := by
        rw [rowsOf, List.filter_singleton, beq_self_eq_true, beq_self_eq_true]
        rfl
      rw [one, ← pending]
      exact ⟨committed, rfl⟩
    · have none : rowsOf [⟨name, row, none⟩] other none = [] :=
        rowsOf_eq_nil fun i mem same' => by
          rw [List.mem_singleton.1 mem] at same'
          exact absurd same'.symm same
      rw [none, List.append_nil]
      exact h.rows other t' ((others other same).symm.trans found')
  · obtain ⟨old, new, rfl, settled, pending⟩ := h.ordered
    refine ⟨old, new ++ [⟨name, row, none⟩], List.append_assoc _ _ _, settled, fun i mem => ?_⟩
    rcases List.mem_append.1 mem with before | last
    · exact pending i before
    · rw [List.mem_singleton.1 last]
  · intro stopped
    rw [running] at stopped
    cases stopped

/-- One more call keeps the rows in their tables. -/
theorem next (h : d.database.Conserves is) :
    d.after.Conserves (is.map (Insertion.after d) ++
      (d.inserted?.map fun p => ⟨p.1, p.2, none⟩).toList) := by
  cases d.database.comes d.call with
  | idle after silent settles =>
    rw [after, silent, map_after_of_none settles, Option.map_none, Option.toList_none,
      List.append_nil]
    exact h
  | started after silent settles =>
    rw [after, silent, map_after_of_none settles, Option.map_none, Option.toList_none,
      List.append_nil]
    exact ⟨h.sorted, h.valid, h.rows, h.ordered, nofun⟩
  | stopped after silent settles =>
    rw [after, silent, Option.map_none, Option.toList_none, List.append_nil]
    refine h.settle settles false (g := Table.discard) (fun _ => rfl) (fun _ => rfl) fun t => ?_
    rw [if_neg nofun, List.append_nil]
    rfl
  | created t running absent after silent settles =>
    rw [after, silent, map_after_of_none settles, Option.map_none, Option.toList_none,
      List.append_nil]
    exact h.create running absent
  | inserted name row t running found valid after inserts settles =>
    rw [after, inserts, map_after_of_none settles]
    exact h.insert running found valid
  | committed running after silent settles =>
    rw [after, silent, Option.map_none, Option.toList_none, List.append_nil]
    refine h.settle settles _ (g := Table.commit) (fun _ => rfl) (fun _ => rfl) fun t => ?_
    rw [if_pos rfl]
    rfl

end Database.Conserves

namespace Database

variable {db : Database} {is : List Insertion}

/-- The rows are in their tables after every history. -/
theorem conserves_after (history : List DatabaseCall) :
    (after {} history).Conserves (insertions (deeds {} history)) := by
  suffices all : ∀ (ds : List DatabaseDeed) (db : Database), db.Conserves (insertions ds) →
      (db.after history).Conserves (insertions (ds ++ db.deeds history)) from
    all [] {} .of_empty
  -- on the calls to come, behind any deeds that have been done
  induction history with
  | nil =>
    intro ds db h
    rw [deeds, List.append_nil]
    exact h
  | cons c rest ih =>
    intro ds db h
    have next := Conserves.next (d := ⟨c, db⟩) h
    rw [← insertions_concat] at next
    have later := ih _ _ next
    rw [List.append_assoc] at later
    exact later

/-- The insertions that count are those that were answered well, in order. -/
lemma insertions_deeds (ds : List DatabaseDeed) :
    (insertions ds).map (fun i => (i.table, i.row)) = ds.filterMap DatabaseDeed.inserted? := by
  induction ds with
  | nil => rfl
  | cons d later ih =>
    rw [insertions, List.map_append, ih, List.filterMap_cons]
    cases d.inserted? <;> rfl

/-! ## What can be read -/

/-- The rows of a table that is there are its committed ones. -/
lemma rows_eq_of_found {name : String} {t : Table} (found : db.tables.get? name = some t) :
    db.rows name = .ok t.committed := by
  rw [rows, table, found]
  rfl

/-- Of the rows that satisfy a test, each is in one table. -/
lemma sum_countP (names : List String) (nodup : names.Nodup) (p : Insertion → Bool)
    (known : ∀ i ∈ is, i.table ∈ names) :
    (names.map fun name => is.countP fun i => i.table == name && p i).sum = is.countP p := by
  induction is with
  | nil =>
    refine List.sum_eq_zero fun n mem => ?_
    obtain ⟨name, -, rfl⟩ := List.mem_map.1 mem
    rfl
  | cons i rest ih =>
    -- the row counts for its own table and for no other one
    have one : (names.map fun name => if (i.table == name && p i) = true then 1 else 0).sum =
        if p i = true then 1 else 0 := by
      rw [List.sum_map_eq_nsmul_single i.table, List.count_eq_one_of_mem nodup
        (known i List.mem_cons_self), one_nsmul, beq_self_eq_true, Bool.true_and]
      intro name other _
      rw [beq_eq_false_iff_ne.2 (Ne.symm other), Bool.false_and, if_neg Bool.false_ne_true]
    simp only [List.countP_cons, List.sum_map_add]
    rw [ih fun i mem => known i (List.mem_cons_of_mem _ mem), one]

/-- As many rows are pending as insertions are unsettled. -/
lemma Conserves.pendingRows_eq (h : db.Conserves is) :
    db.pendingRows = is.countP fun i => i.settled? == none := by
  have known : ∀ i ∈ is, i.table ∈ db.tables.keys := by
    intro i mem
    obtain ⟨t, found, -⟩ := h.valid i mem
    rw [OrderedMap.mem_keys_iff, found]
    nofun
  rw [← sum_countP db.tables.keys h.sorted.nodup_keys _ known, pendingRows, OrderedMap.values,
    OrderedMap.keys, List.length_flatMap, List.map_map, List.map_map]
  refine congrArg List.sum (List.map_congr_left fun e mem => ?_)
  have pending := (h.rows e.1 e.2 (OrderedMap.get?_of_mem h.sorted mem)).2
  show e.2.pending.length = is.countP fun i => i.table == e.1 && i.settled? == none
  rw [pending, rowsOf, List.length_map, List.countP_eq_length_filter]

/-! ## What lasts -/

/-- A table that there is stays, with its description and with all rows that are committed. -/
lemma table_after (c : DatabaseCall) {name : String} {t : Table}
    (found : db.tables.get? name = some t) :
    ∃ t', (db.perform c).2.tables.get? name = some t' ∧ t'.descriptor = t.descriptor ∧
      t.committed <+: t'.committed := by
  have mapped : ∀ f : Table → Table, (db.tables.mapValues f).get? name = some (f t) :=
    fun f => (OrderedMap.get?_mapValues f _ _).trans (congrArg (Option.map f) found)
  show ∃ t', (DatabaseDeed.after ⟨c, db⟩).tables.get? name = some t' ∧ _
  cases db.comes c with
  | idle after =>
    rw [after]
    exact ⟨t, found, rfl, List.prefix_rfl⟩
  | started after =>
    rw [after]
    exact ⟨t, found, rfl, List.prefix_rfl⟩
  | stopped after =>
    rw [after]
    exact ⟨t.discard, mapped _, rfl, List.prefix_rfl⟩
  | created d running absent after =>
    rw [after]
    have other : name ≠ d.name := fun same => by
      rw [same, absent] at found
      cases found
    exact ⟨t, (OrderedMap.get?_insert_of_ne other _ _).trans found, rfl, List.prefix_rfl⟩
  | inserted table row t' running found' valid after =>
    rw [after]
    by_cases same : name = table
    · subst same
      obtain rfl := Option.some.inj (found.symm.trans found')
      exact ⟨t.stage row, OrderedMap.get?_insert_self _ _ _, rfl, List.prefix_rfl⟩
    · exact ⟨t, (OrderedMap.get?_insert_of_ne same _ _).trans found, rfl, List.prefix_rfl⟩
  | committed running after =>
    rw [after]
    exact ⟨t.commit, mapped _, rfl, List.prefix_append _ _⟩

/-- So it does whatever calls follow. -/
theorem table_lasts (later : List DatabaseCall) {name : String} {t : Table}
    (found : db.tables.get? name = some t) :
    ∃ t', (db.after later).tables.get? name = some t' ∧ t'.descriptor = t.descriptor ∧
      t.committed <+: t'.committed := by
  induction later generalizing db t with
  | nil => exact ⟨t, found, rfl, List.prefix_rfl⟩
  | cons c rest ih =>
    obtain ⟨t₁, found₁, same₁, grown₁⟩ := table_after c found
    obtain ⟨t₂, found₂, same₂, grown₂⟩ := ih found₁
    exact ⟨t₂, found₂, same₂.trans same₁, grown₁.trans grown₂⟩

/-- Two databases show the same tables and the same committed rows. -/
structure Alike (db db' : Database) : Prop where
  names : db'.tableNames = db.tableNames
  descriptors : ∀ name, db'.descriptor? name = db.descriptor? name
  rows : ∀ name, db'.rows name = db.rows name

/-- A database is alike itself. -/
lemma Alike.refl (db : Database) : db.Alike db := ⟨rfl, fun _ => rfl, fun _ => rfl⟩

/-- Databases alike a third one are alike. -/
lemma Alike.trans {a b c : Database} (ab : a.Alike b) (bc : b.Alike c) : a.Alike c where
  names := bc.names.trans ab.names
  descriptors := fun name => (bc.descriptors name).trans (ab.descriptors name)
  rows := fun name => (bc.rows name).trans (ab.rows name)

/-- A stopped database is like the one before, but that it is stopped. -/
lemma alike_stop (db : Database) : db.Alike db.stop := by
  rw [stop]
  split
  · refine ⟨?_, fun name => ?_, fun name => ?_⟩
    · show (db.tables.entries.map _).map Prod.fst = db.tables.entries.map Prod.fst
      rw [List.map_map]
      rfl
    · rw [descriptor?, descriptor?, OrderedMap.get?_mapValues]
      cases db.tables.get? name <;> rfl
    · rw [rows, rows, table, table, OrderedMap.get?_mapValues]
      cases db.tables.get? name <;> rfl
  · exact .refl db

/-- Starting and stopping a database changes neither its tables nor the committed rows. -/
theorem alike_of_switches {later : List DatabaseCall} (switches : ∀ c ∈ later, c.isSwitch = true) :
    db.Alike (db.after later) := by
  induction later generalizing db with
  | nil => exact .refl db
  | cons c rest ih =>
    obtain ⟨switch, others⟩ := List.forall_mem_cons.1 switches
    have first : db.Alike (db.perform c).2 := by
      cases c with
      | start => exact ⟨rfl, fun _ => rfl, fun _ => rfl⟩
      | stop => exact db.alike_stop
      | create | insert | commit => cases switch
    exact first.trans (ih others)

/-- A table that cannot be created changes nothing. -/
lemma create_of_error {descriptor : TableDescriptor} {e : DbError}
    (refused : (db.create descriptor).1 = .error e) : (db.create descriptor).2 = db := by
  rw [create] at refused ⊢
  cases running : db.checkRunning with
  | error e => rfl
  | ok u =>
    rw [running] at refused
    by_cases taken : db.tables.contains descriptor.name = true
    · exact congrArg Prod.snd (if_pos taken)
    · have created := (congrArg Prod.fst (if_neg taken)).symm.trans refused
      cases created

/-- A call that is answered with an error leaves the database as it is. -/
theorem perform_of_error (c : DatabaseCall) {e : DbError}
    (refused : c.error? (db.perform c).1 = some e) : (db.perform c).2 = db := by
  cases c with
  | start | stop => cases refused
  | create t =>
    replace refused : DatabaseCall.error? (.create t) (db.create t).1 = some e := refused
    cases answer : (db.create t).1 with
    | error e => exact create_of_error answer
    | ok u =>
      rw [answer] at refused
      cases refused
  | insert name scope row =>
    replace refused : DatabaseCall.error? (.insert name scope row) (db.insert name scope row).1 =
      some e := refused
    cases answer : (db.insert name scope row).1 with
    | error e => exact insert_of_error answer
    | ok u =>
      rw [answer] at refused
      cases refused
  | commit =>
    replace refused : DatabaseCall.error? .commit db.commit.1 = some e := refused
    cases answer : db.commit.1 with
    | error e => exact commit_of_error answer
    | ok n =>
      rw [answer] at refused
      cases refused

/-! ## The conservation of rows -/

/-- After every history of a database each row that was inserted is committed, discarded or pending,
as the later calls have it. The rows that are read from a table are the committed ones of those that
were inserted into it, in that order; a commit counts the pending ones of all tables; nothing that
is committed is lost, and nothing is changed by a call that is refused. -/
theorem inserted_rows_conserved (history : List DatabaseCall) :
    let db := after {} history
    let is := insertions (deeds {} history)
    is.map (fun i => (i.table, i.row)) = (deeds {} history).filterMap DatabaseDeed.inserted? ∧
    (∀ i ∈ is, i.table ∈ db.tableNames) ∧
    (∀ name, db.rows name =
      if name ∈ db.tableNames then .ok (rowsOf is name (some .committed))
      else .error (.unknownTable name)) ∧
    (∀ name t, db.tables.get? name = some t → t.pending = rowsOf is name none) ∧
    (∀ name d rows, db.descriptor? name = some d → db.rows name = .ok rows →
      ∀ r ∈ rows, d.validate r.scope r.row = .ok ()) ∧
    db.pendingRows = is.countP (fun i => i.settled? == none) ∧
    db.commit.1 = (if db.running then .ok db.pendingRows else .error .notRunning) ∧
    (db.running = false → db.pendingRows = 0) ∧
    (∀ later, (∀ c ∈ later, c.isSwitch = true) → db.Alike (db.after later)) ∧
    (∀ later name d rows, db.descriptor? name = some d → db.rows name = .ok rows →
      ∃ more, (db.after later).descriptor? name = some d ∧
        (db.after later).rows name = .ok (rows ++ more)) ∧
    ∀ c e, c.error? (db.perform c).1 = some e → (db.perform c).2 = db := by
  intro db is
  have h : db.Conserves is := conserves_after history
  have named : ∀ name, name ∈ db.tableNames ↔ ∃ t, db.tables.get? name = some t := fun name =>
    OrderedMap.mem_keys_iff.trans Option.ne_none_iff_exists'
  have described : ∀ {name d}, db.descriptor? name = some d →
      ∃ t, db.tables.get? name = some t ∧ t.descriptor = d := Option.map_eq_some_iff.1
  have known : ∀ i ∈ is, i.table ∈ db.tableNames := by
    intro i mem
    obtain ⟨t, found, -⟩ := h.valid i mem
    exact (named _).2 ⟨t, found⟩
  refine ⟨insertions_deeds _, known, ?_, fun name t found => (h.rows name t found).2, ?_,
    h.pendingRows_eq, ?_, ?_, fun _ => alike_of_switches, ?_, fun c e => perform_of_error c⟩
  · intro name
    split
    · next mem =>
      obtain ⟨t, found⟩ := (named name).1 mem
      rw [rows_eq_of_found found, (h.rows name t found).1]
    · next absent =>
      rw [named, not_exists] at absent
      rw [rows, table, Option.eq_none_iff_forall_ne_some.2 absent]
      rfl
  · intro name d rows there read r mem
    obtain ⟨t, found, rfl⟩ := described there
    rw [rows_eq_of_found found, (h.rows name t found).1] at read
    obtain rfl := Except.ok.inj read
    obtain ⟨i, listed, rfl⟩ := List.mem_map.1 mem
    obtain ⟨inserted, holds⟩ := List.mem_filter.1 listed
    rw [Bool.and_eq_true, beq_iff_eq] at holds
    obtain ⟨t', found', valid⟩ := h.valid i inserted
    rw [holds.1, found] at found'
    obtain rfl := Option.some.inj found'
    exact valid
  · rw [commit]
    cases running : db.running with
    | true =>
      rw [checkRunning_of_running running]
      rfl
    | false =>
      rw [checkRunning_of_stopped running]
      rfl
  · intro stopped
    rw [h.pendingRows_eq, List.countP_eq_zero]
    intro i mem pending
    exact h.settled stopped i mem (beq_iff_eq.1 pending)
  · intro later name d rows there read
    obtain ⟨t, found, rfl⟩ := described there
    rw [rows_eq_of_found found] at read
    obtain rfl := Except.ok.inj read
    obtain ⟨t', found', same, more, grown⟩ := table_lasts later found
    refine ⟨more, ?_, ?_⟩
    · rw [descriptor?, found', Option.map_some, same]
    · rw [rows_eq_of_found found', grown]

end Database

end Cadence
