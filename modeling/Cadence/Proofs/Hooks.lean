import Cadence.Proofs.Perform
import Cadence.Scenario.Basic

/-!
# The hooks of the demonstration

How the hooks of walkers, of the reporter and of the recorder end, and what they leave, as long as
nothing is refused to them: a walker keeps its handle and its stream, the reporter only reports
events, and the recorder commits one row for every entry of the shared state. `Recorder.Starts`
also tells how a recorder is refused when it starts.
-/

namespace Cadence

variable {M T : Type}

open World

/-! ## Walkers -/

namespace Walker

variable {place : Place M WalkerState} {name : String} {handle : Handle} {w : World M}

/-- A walker that may enter keeps its handle, and its stream goes on. -/
theorem perform_initialise (place : Place M WalkerState) (name : String) (handle : Handle)
    (w : World M) {stream : RandomStream} {size : UInt32} {e : Environment} {v : Value}
    (remembers : (place.get w.memory).stream = stream) (ring : size ≠ 0)
    (entered : w.environment.act (enterAction (UInt32.ofNat (stream.below size.toNat).1)) handle.id
      handle.key = (.ok (.applied v), e)) :
    ∃ state events, w.perform (initialise place name size handle) =
      (.fine, { w with
        environment := e
        memory := place.put ⟨(stream.below size.toNat).2, some handle⟩ (place.put state w.memory)
        events := events }) := by
  rw [initialise, if_neg ring]
  simp only [perform_bind, perform_read, perform_write, perform_act, inEnvironment, remembers]
  rw [entered]
  exact ⟨_, _, rfl⟩

/-- A walker whose actions are applied keeps its handle, and its stream goes on. -/
theorem perform_step {stream : RandomStream} {e₁ e₂ : Environment} {v₁ v₂ : Value}
    (ctx : TickContext T) (remembers : place.get w.memory = ⟨stream, some handle⟩)
    (moved : w.environment.act (moveAction (Int8.ofInt (((stream.below 3).1 : Int) - 1))) handle.id
      handle.key = (.ok (.applied v₁), e₁))
    (tallied : e₁.act (.bare Tally.tag) handle.id handle.key = (.ok (.applied v₂), e₂)) :
    w.perform (step place name ctx) =
      (.fine, { w with
        environment := e₂
        memory := place.put ⟨(stream.below 3).2, some handle⟩ w.memory }) := by
  rw [step]
  simp only [perform_bind, perform_read, perform_write, perform_act, perform_pure, inEnvironment,
    remembers, moved, tallied]

end Walker

/-! ## The reporter -/

namespace Reporter

variable {place : Place M (Option Roster)} {roster : Roster} {ring : Ring} {w : World M}

/-- The reporter keeps the members list. -/
theorem perform_initialise (place : Place M (Option Roster)) {service : Service}
    (view : w.environment.globalService .view = .ok service)
    (members : w.environment.globalService .members = .ok (.members roster)) :
    w.perform (initialise place) =
      (.fine, { w with memory := place.put (some roster) w.memory }) := by
  rw [initialise]
  simp only [perform_bind, perform_request, call_globalService, perform_write, perform_pure, view,
    members]

/-- A readable ring is read. -/
lemma perform_readRing
    (readable : Ring.load (w.environment.store.entries.get? Ring.key) = .ok ring) :
    w.perform readRing = (.ok ring, w) := by
  rw [readRing]
  simp only [perform_bind, perform_request, call_snapshot, Store.snapshot, readable, perform_pure]

/-- To count comes to a number and changes nothing. -/
lemma perform_count (roster : Roster) (w : World M) :
    ∃ n, w.perform (count roster) = (n, w) := by
  cases roster with
  | environment => exact ⟨_, rfl⟩
  | unattended => exact ⟨_, rfl⟩

/-- A reporter that can read the ring only reports an event. -/
theorem perform_execute (place : Place M (Option Roster)) (ctx : TickContext T)
    (remembers : place.get w.memory = some roster)
    (readable : Ring.load (w.environment.store.entries.get? Ring.key) = .ok ring) :
    ∃ events, w.perform (execute place ctx) = (.fine, { w with events := events }) := by
  obtain ⟨n, counts⟩ := perform_count roster w
  rw [execute]
  simp only [perform_bind, perform_read, remembers, perform_readRing readable, counts,
    perform_request, call_report, perform_pure]
  exact ⟨_, rfl⟩

/-- The reporter completes well on a ring that is readable. -/
theorem perform_complete (place : Place M (Option Roster))
    (remembers : place.get w.memory = some roster)
    (readable : Ring.load (w.environment.store.entries.get? Ring.key) = .ok ring) :
    ∃ events, w.perform (complete place) = (.fine, { w with events := events }) := by
  rw [complete]
  simp only [perform_bind, perform_read, remembers, perform_readRing readable, perform_request,
    call_snapshot, call_report, perform_pure]
  exact ⟨_, rfl⟩

end Reporter

/-! ## The recorder -/

namespace Recorder

variable {table : String}

/-- A database in which there is the recorder's table and nothing else. -/
def database (running : Bool) (table : String) (pending committed : List StoredRow) : Database where
  running := running
  tables := ⟨[(table, ⟨describe table, pending, committed⟩)]⟩

/-- The fields of a row of the record. -/
lemma get?_row (time : String) (key : StateKey) (value : Value) (field : String) :
    (row time key value).get? field =
      if field = "time" then some (.string time)
      else if field = "value" then some value
      else if field = "key" then some key.encode else none := by
  rw [row, Row.put, Row.get?, OrderedMap.get?_insert, Row.put, OrderedMap.get?_insert, Row.put,
    OrderedMap.get?_insert]
  rfl

/-- The rows of a recorder fit its table. -/
lemma validate_row (table : String) (tick : UInt64) (time : String) (key : StateKey)
    (value : Value) :
    (describe table).validate (.atTick tick) (row time key value) = .ok () := by
  have declared : (row time key value).values.keys.find?
      (fun field => !(describe table).declares field) = none := by
    refine List.find?_eq_none.2 fun field mem undeclared => ?_
    have found := OrderedMap.mem_keys_iff.1 mem
    rw [← Row.get?, get?_row] at found
    simp only [TableDescriptor.declares, describe, List.any_cons, List.any_nil, Bool.or_false,
      Bool.not_or, Bool.and_eq_true, Bool.not_eq_true', beq_eq_false_iff_ne] at undeclared
    obtain ⟨key, value, time⟩ := undeclared
    rw [if_neg (Ne.symm time), if_neg (Ne.symm value), if_neg (Ne.symm key)] at found
    exact found rfl
  have accepted : FieldType.accepts .json value = true := by
    cases value with
    | number n => cases n <;> rfl
    | null | bool | string | array | object => rfl
  have ofKey : (row time key value).get? "key" = some (.string key.text) := by
    rw [get?_row, if_neg (by decide), if_neg (by decide), if_pos rfl]
    rfl
  have ofValue : (row time key value).get? "value" = some value := by
    rw [get?_row, if_neg (by decide), if_pos rfl]
  have ofTime : (row time key value).get? "time" = some (.string time) := by
    rw [get?_row, if_pos rfl]
  have textual : ∀ s, FieldType.accepts .text (.string s) = true := fun s => rfl
  rw [TableDescriptor.validate, declared]
  show TableDescriptor.checkFields table (row time key value)
    [⟨"key", .text⟩, ⟨"value", .json⟩, ⟨"time", .text⟩] = .ok ()
  simp only [TableDescriptor.checkFields, ofKey, ofValue, ofTime, textual, accepted, if_true]

variable (pending committed : List StoredRow)

/-- A row of the record is inserted. -/
lemma insert_row (tick : UInt64) (time : String) (key : StateKey) (value : Value) :
    (database true table pending committed).insert table (.atTick tick) (row time key value) =
      (.ok (),
        database true table (pending ++ [⟨.atTick tick, row time key value⟩]) committed) := by
  have found : (database true table pending committed).tables.get? table =
      some ⟨describe table, pending, committed⟩ := if_pos rfl
  have admitted : (database true table pending committed).admits table (.atTick tick)
      (row time key value) = .ok ⟨describe table, pending, committed⟩ := by
    have running : (database true table pending committed).checkRunning = .ok () := rfl
    have valid := validate_row table tick time key value
    simp only [Database.admits, running, Database.table, found, bind, Except.bind, valid]
    rfl
  rw [Database.insert, admitted]
  simp only [database, OrderedMap.insert, OrderedMap.insertEntry, Std.ReflOrd.compare_self,
    Table.stage]

/-- Pending rows are committed. -/
lemma commit_rows :
    (database true table pending committed).commit =
      (.ok pending.length, database true table [] (committed ++ pending)) := by
  have count : (database true table pending committed).pendingRows = pending.length :=
    congrArg List.length (List.append_nil pending)
  rw [Database.commit, count]
  rfl

variable {pending committed} {place : Place M RecorderState} {w : World M}

/-- A table without a name is refused. -/
lemma build_of_blank (blank : Text.blank table = true) :
    (describe table).build = .error (.invalidTable table .blankName) := by
  rw [TableDescriptor.build, TableDescriptor.fault?, describe, if_pos blank]

/-- A table with a name is built as it is described. -/
lemma build_of_named (named : Text.blank table = false) :
    (describe table).build = .ok (describe table) := by
  rw [TableDescriptor.build, TableDescriptor.fault?, describe, if_neg (Bool.eq_false_iff.1 named)]
  rfl

/-- A recorder starts the database and creates its table. -/
theorem perform_initialise (place : Place M RecorderState) (w : World M) {service : Service}
    (named : ¬Text.blank table = true)
    (view : w.environment.globalService .view = .ok service) (unused : w.database = {}) :
    w.perform (initialise place table) =
      (.fine, { w with
        memory := place.put { place.get w.memory with ready := true } w.memory
        database := database true table [] [] }) := by
  have described := build_of_named (Bool.eq_false_iff.2 named)
  rw [initialise]
  simp only [perform_bind, perform_request, call_globalService, view, perform_read, perform_write,
    described, call_database, call, unused]
  rfl

/-- The world of a recorder that remembers to have been initialised. -/
def readied (place : Place M RecorderState) (w : World M) : World M :=
  { w with memory := place.put { place.get w.memory with ready := true } w.memory }

/-- How a recorder starts: how its hook ends in a world, and the world that it leaves. -/
inductive Starts (place : Place M RecorderState) (table : String) (w : World M) :
    HookEnd → World M → Prop where
  | blind {e : EnvironmentError} (view : w.environment.globalService .view = .error e) :
      Starts place table w (.failed (.environment e)) w
  | nameless {service : Service} (view : w.environment.globalService .view = .ok service)
      (blank : Text.blank table = true) :
      Starts place table w (.failed (.other (DbError.invalidTable table .blankName).message))
        (readied place w)
  | taken {service : Service} (view : w.environment.globalService .view = .ok service)
      (named : Text.blank table = false) (taken : w.database.tables.contains table = true) :
      Starts place table w (.failed (.other (DbError.tableExists table).message))
        { readied place w with database := w.database.start }
  | fine {service : Service} (view : w.environment.globalService .view = .ok service)
      (named : Text.blank table = false) (free : w.database.tables.contains table = false) :
      Starts place table w .fine
        { readied place w with database := (w.database.start.create (describe table)).2 }

/-- A table whose name is free is created. -/
lemma create_of_free (free : w.database.tables.contains table = false) :
    (w.database.start.create (describe table)).1 = .ok () :=
  congrArg Prod.fst (if_neg (Bool.eq_false_iff.1 free))

/-- A recorder sees the shared state and has a name for its table before it starts the database, and
it finds out only then whether there is a table of that name. -/
theorem initialise_starts (place : Place M RecorderState) (table : String) (w : World M) :
    Starts place table w (w.perform (initialise place table)).1
      (w.perform (initialise place table)).2 := by
  rw [initialise]
  simp only [perform_bind, perform_request, call_globalService]
  cases view : w.environment.globalService .view with
  | error e => exact .blind view
  | ok service =>
    simp only [perform_bind, perform_read, perform_write]
    cases named : Text.blank table with
    | true =>
      rw [build_of_blank named]
      exact .nameless view named
    | false =>
      rw [build_of_named named]
      simp only [perform_bind, perform_request, call_database, call, id_eq]
      cases known : w.database.tables.contains table with
      | true =>
        have refused : (w.database.perform .start).2.perform (.create (describe table)) =
            (.error (.tableExists table), w.database.start) := if_pos known
        rw [refused]
        exact .taken view named known
      | false =>
        have created : ((w.database.perform .start).2.perform (.create (describe table))).1 =
            .ok () := create_of_free known
        rw [created]
        exact .fine view named known

/-- All entries of the shared state are inserted, in their order. -/
lemma perform_insertAll (tick : UInt64) (time : String) (entries : List (StateKey × Value))
    (kept : w.database = database true table pending committed) :
    w.perform (insertAll table (.atTick tick) time entries) =
      (.ok (), { w with
        database := database true table
          (pending ++ entries.map fun e => ⟨.atTick tick, row time e.1 e.2⟩) committed }) := by
  induction entries generalizing w pending with
  | nil =>
    rw [List.map_nil, List.append_nil, ← kept]
    rfl
  | cons e rest ih =>
    obtain ⟨key, value⟩ := e
    have inserted : w.database.perform (.insert table (.atTick tick) (row time key value)) =
        (.ok (), database true table (pending ++ [⟨.atTick tick, row time key value⟩])
          committed) := by
      rw [kept]
      exact insert_row pending committed tick time key value
    rw [insertAll]
    simp only [perform_bind, call, perform_request, call_database, inserted, id_eq, perform_pure]
    rw [ih rfl, List.append_assoc]
    rfl

/-- A recorder commits one row for every entry of the shared state. -/
theorem perform_execute [Time T] (place : Place M RecorderState) (w : World M)
    (ctx : TickContext T) (ready : (place.get w.memory).ready = true)
    (kept : w.database = database true table [] committed) :
    ∃ state rows, w.perform (execute place table ctx) =
        (.fine, { w with
          memory := place.put state w.memory
          database := database true table [] (committed ++ rows) }) ∧
      state.ready = true ∧ rows.length = w.environment.store.entries.size := by
  have recorded := perform_insertAll ctx.tick (Time.text ctx.time)
    w.environment.store.entries.entries kept
  rw [execute]
  simp only [perform_bind, perform_read, ready, if_true, perform_request, call_snapshot,
    Store.snapshot, recorded, call, call_database, Database.perform, commit_rows, id_eq,
    perform_pure, perform_write]
  exact ⟨_, _, rfl, rfl, List.length_map _⟩

/-- A recorder stops the database in the end. -/
theorem perform_complete (w : World M) :
    w.perform complete = (.fine, { w with database := w.database.stop }) := rfl

end Recorder

end Cadence
