import Cadence.Proofs.Hooks
import Cadence.Proofs.Places
import Cadence.Proofs.Tables

/-!
# The record of a run

A recorder that nobody interferes with keeps the history of the shared state: the rows of its table
are those of the turns in which it has recorded, one after another. `Recorder.Keeps` says how its
table and its memory stand. Whatever others do leaves that alone, as long as they put nothing into
the database (`Deed.Spares`), and a turn of the recorder adds the rows of the state that it finds
(`Recorder.Keeps.turn`). So it does over a whole run (`recorder_keeps_history`).
-/

namespace Cadence

variable {M T σ : Type}

open Simulation

/-! ## What others leave alone -/

/-- The deed puts nothing into the database, neither pending nor committed, and leaves alone what a
place holds. It may start and stop the database, and create tables. -/
def Deed.Spares (place : Place M σ) (d : Deed M) : Prop :=
  match d.access with
  | .keep f => place.get (f d.world.memory) = place.get d.world.memory
  | .database (.insert table scope row) =>
    (d.world.database.insert table scope row).1.toOption = none
  | .database .commit => d.world.database.commit.1.toOption = none
  | _ => True

instance [DecidableEq σ] (place : Place M σ) (d : Deed M) : Decidable (d.Spares place) := by
  unfold Deed.Spares
  split <;> infer_instance

namespace Recorder

section Recorder

variable {place : Place M RecorderState} {table : String} {rows : List StoredRow}
  {w w' : World M}

/-- The table of a recorder has these rows and none pending, nothing is pending in another table,
and the recorder remembers how many rows it has recorded. -/
structure Keeps (place : Place M RecorderState) (table : String) (rows : List StoredRow)
    (w : World M) : Prop where
  holds : w.database.Holds ⟨describe table, [], rows⟩
  ready : (place.get w.memory).ready = true
  counted : (place.get w.memory).rowsRecorded = rows.length

/-- The record is kept as long as database and memory are the same. -/
lemma Keeps.of_eq (h : Keeps place table rows w) (database : w'.database = w.database)
    (memory : w'.memory = w.memory) : Keeps place table rows w' := by
  refine ⟨?_, ?_, ?_⟩
  · rw [database]
    exact h.holds
  · rw [memory]
    exact h.ready
  · rw [memory]
    exact h.counted

/-- It is kept as long as the content is the same. -/
lemma Keeps.of_content (h : Keeps place table rows w) (content : w'.content = w.content) :
    Keeps place table rows w' := by
  have database := congrArg World.database content
  have memory := congrArg World.memory content
  exact h.of_eq database memory

/-- Whatever spares the recorder leaves its record as it is. -/
lemma Keeps.spared {d : Deed M} (h : Keeps place table rows d.world) (spares : d.Spares place) :
    Keeps place table rows d.after := by
  obtain ⟨access, w⟩ := d
  have others : (access.apply w).2.database = w.database → (access.apply w).2.memory = w.memory →
      Keeps place table rows (access.apply w).2 := h.of_eq
  cases access with
  | keep f =>
    have same : place.get (f w.memory) = place.get w.memory := spares
    refine ⟨h.holds, ?_, ?_⟩
    · show (place.get (f w.memory)).ready = true
      rw [same]
      exact h.ready
    · show (place.get (f w.memory)).rowsRecorded = rows.length
      rw [same]
      exact h.counted
  | database c =>
    cases c with
    | start => exact ⟨h.holds.start, h.ready, h.counted⟩
    | stop => exact ⟨h.holds.stop rfl, h.ready, h.counted⟩
    | create d => exact ⟨h.holds.create d, h.ready, h.counted⟩
    | insert name scope row =>
      have refused : (w.database.insert name scope row).1.toOption = none := spares
      refine others ?_ rfl
      show (w.database.insert name scope row).2 = w.database
      cases reply : (w.database.insert name scope row).1 with
      | error e => exact Database.insert_of_error reply
      | ok u =>
        rw [reply] at refused
        cases refused
    | commit =>
      have refused : w.database.commit.1.toOption = none := spares
      refine others ?_ rfl
      show w.database.commit.2 = w.database
      cases reply : w.database.commit.1 with
      | error e => exact Database.commit_of_error reply
      | ok n =>
        rw [reply] at refused
        cases refused
  | _ => exact others rfl rfl

/-- It is kept along deeds that spare it. -/
lemma Keeps.along {ds : List (Deed M)} (h : Keeps place table rows w) (along : w.Along ds w')
    (spares : ∀ d ∈ ds, d.Spares place) : Keeps place table rows w' := by
  induction ds generalizing w with
  | nil => exact along ▸ h
  | cons d rest ih =>
    obtain ⟨rfl, along⟩ := along
    obtain ⟨first, later⟩ := List.forall_mem_cons.1 spares
    exact ih (h.spared first) along later

/-! ## Hooks of the recorder -/

/-- A recorder that is new and that has been initialised has an empty table. -/
lemma keeps_of_initialised {ending : HookEnd} (ordered : w.Ordered)
    (settled : ∀ t ∈ w.database.tables.values, t.pending = [])
    (new : place.get w.memory = {})
    (initialised : w.perform (initialise place table) = (ending, w'))
    (fine : ending.guarded = .ok ()) : Keeps place table [] w' := by
  have starts := initialise_starts place table w
  rw [initialised] at starts
  cases starts with
  | blind | nameless | taken => cases fine
  | fine view named free =>
    have holds : (w.database.start.create (describe table)).2.Holds ⟨describe table, [], []⟩ :=
      Database.holds_of_created ordered.tables settled (create_of_free free)
    refine ⟨holds, ?_, ?_⟩
    · exact congrArg RecorderState.ready (place.get_put _ _)
    · refine (congrArg RecorderState.rowsRecorded (place.get_put _ _)).trans ?_
      exact congrArg RecorderState.rowsRecorded new

variable [Time T]

/-- The row of an entry of the shared state in a tick: about the tick and no participant, with the
key, the value, and the time as it is shown. -/
def stored (ctx : TickContext T) (e : StateKey × Value) : StoredRow where
  scope := { participant := none, tick := some ctx.tick }
  row := ⟨.ofList
    [("key", .string e.1.text), ("value", e.2), ("time", .string (Time.text ctx.time))]⟩

/-- The rows that a turn of the recorder adds: one for every entry of the shared state that it
finds, unless the turn fails or is not in a tick. -/
def recorded (t : PluginTurn M T) : List StoredRow :=
  match t.call.context, t.call.failure? with
  | some ctx, none => t.world.environment.store.entries.entries.map (stored ctx)
  | _, _ => []

omit [Time T] in
/-- The recorder inserts rows into a table that holds others. -/
lemma perform_insertAll_of_holds (running : w.database.running = true) {pending : List StoredRow}
    (holds : w.database.Holds ⟨describe table, pending, rows⟩) (tick : UInt64) (time : String)
    (entries : List (StateKey × Value)) :
    ∃ db : Database, w.perform (insertAll table (.atTick tick) time entries) =
        (.ok (), { w with database := db }) ∧ db.running = true ∧
      db.Holds ⟨describe table,
        pending ++ entries.map fun e => ⟨.atTick tick, row time e.1 e.2⟩, rows⟩ := by
  induction entries generalizing w pending with
  | nil =>
    rw [List.map_nil, List.append_nil]
    exact ⟨w.database, rfl, running, holds⟩
  | cons e rest ih =>
    obtain ⟨key, value⟩ := e
    obtain ⟨db, inserts, runs, staged⟩ :=
      holds.insert running (validate_row table tick time key value)
    obtain ⟨db', others, runs', staged'⟩ := ih (w := { w with database := db }) runs staged
    refine ⟨db', ?_, runs', ?_⟩
    · have inserts : w.database.perform (.insert table (.atTick tick) (row time key value)) =
          (.ok (), db) := inserts
      rw [insertAll]
      simp only [World.perform_bind, call, World.perform_request, World.call_database, inserts,
        id_eq, World.perform_pure]
      exact others
    · rw [List.map_cons, List.append_cons]
      exact staged'

/-- A recorder whose database runs commits one row for every entry of the shared state. -/
lemma Keeps.execute (h : Keeps place table rows w) (running : w.database.running = true)
    (ctx : TickContext T) :
    ∃ w', w.perform (execute place table ctx) = (.fine, w') ∧ Keeps place table
      (rows ++ w.environment.store.entries.entries.map (stored ctx)) w' := by
  obtain ⟨db, inserts, runs, staged⟩ := perform_insertAll_of_holds running h.holds ctx.tick
    (Time.text ctx.time) w.environment.store.entries.entries
  obtain ⟨db', commits, -, holds⟩ := staged.commit runs
  have commits : db.perform .commit = (.ok _, db') := commits
  rw [Recorder.execute]
  simp only [World.perform_bind, World.perform_read, h.ready, if_true, World.perform_request,
    World.call_snapshot, Store.snapshot, inserts, call, World.call_database, commits, id_eq,
    World.perform_pure, World.perform_write]
  refine ⟨_, rfl, holds, ?_, ?_⟩
  · exact congrArg RecorderState.ready (place.get_put _ _)
  · refine (congrArg RecorderState.rowsRecorded (place.get_put _ _)).trans ?_
    rw [List.nil_append, List.length_append, ← h.counted]
    rfl

/-- A recorder whose database does not run fails and does nothing. -/
lemma Keeps.execute_stopped (h : Keeps place table rows w) (stopped : w.database.running = false)
    (ctx : TickContext T) :
    ∃ e, w.perform (Recorder.execute place table ctx) = (.failed e, w) := by
  have commits : w.database.perform .commit = (.error .notRunning, w.database) :=
    Database.commit_of_stopped stopped
  rw [Recorder.execute]
  simp only [World.perform_bind, World.perform_read, h.ready, if_true, World.perform_request,
    World.call_snapshot, Store.snapshot]
  cases w.environment.store.entries.entries with
  | nil =>
    simp only [insertAll, World.perform_pure, World.perform_bind, call, World.perform_request,
      World.call_database, commits, id_eq]
    exact ⟨_, rfl⟩
  | cons e rest =>
    obtain ⟨key, value⟩ := e
    have refuses : w.database.perform (.insert table (.atTick ctx.tick)
        (row (Time.text ctx.time) key value)) = (.error .notRunning, w.database) :=
      Database.insert_of_stopped stopped _ _ _
    simp only [insertAll, World.perform_pure, World.perform_bind, call, World.perform_request,
      World.call_database, refuses, id_eq]
    exact ⟨_, rfl⟩

omit [Time T] in
/-- The entry of which a row tells. -/
def told? (r : StoredRow) : Option (StateKey × Value) :=
  match r.row.get? "key", r.row.get? "value" with
  | some key, some value => (StateKey.decode key).toOption.map fun key => (key, value)
  | _, _ => none

/-- A row tells of the entry that it was made of. -/
lemma told?_stored (ctx : TickContext T) (e : StateKey × Value) :
    told? (stored ctx e) = some e := by
  have key : (stored ctx e).row.get? "key" = some (.string e.1.text) :=
    (get?_row (Time.text ctx.time) e.1 e.2 "key").trans <| by
      rw [if_neg (by decide), if_neg (by decide), if_pos rfl, StateKey.encode]
  have value : (stored ctx e).row.get? "value" = some e.2 :=
    (get?_row (Time.text ctx.time) e.1 e.2 "value").trans <| by
      rw [if_neg (by decide), if_pos rfl]
  rw [told?, key, value]
  rfl

/-- A row that is recorded has the tick of the call. -/
lemma tick_of_mem_recorded {t : PluginTurn M T} {r : StoredRow} (mem : r ∈ recorded t) :
    ∃ ctx, t.call.context = some ctx ∧ r.scope.tick = some ctx.tick := by
  rw [recorded] at mem
  split at mem
  · next ctx context fine =>
    obtain ⟨e, -, rfl⟩ := List.mem_map.1 mem
    exact ⟨ctx, context, rfl⟩
  · cases mem

/-- The rows of one tick are those of the turn in it. -/
lemma filter_recorded {ts : List (PluginTurn M T)}
    (order : ts.Pairwise fun a b => ∀ ctx ctx', a.call.context = some ctx →
      b.call.context = some ctx' → ctx.tick < ctx'.tick)
    {t : PluginTurn M T} (mem : t ∈ ts) {ctx : TickContext T}
    (context : t.call.context = some ctx) :
    (ts.flatMap recorded).filter (fun r => r.scope.tick == some ctx.tick) = recorded t := by
  obtain ⟨earlier, later, rfl⟩ := List.append_of_mem mem
  obtain ⟨-, order, before⟩ := List.pairwise_append.1 order
  have after := (List.pairwise_cons.1 order).1
  -- turns in other ticks have no such rows, and those before and after are in other ticks
  have others : ∀ ts : List (PluginTurn M T),
      (∀ t' ∈ ts, ∀ ctx', t'.call.context = some ctx' → ctx'.tick ≠ ctx.tick) →
      (ts.flatMap recorded).filter (fun r => r.scope.tick == some ctx.tick) = [] := by
    intro ts differs
    refine List.filter_eq_nil_iff.2 fun r mem => ?_
    obtain ⟨t', turn, mem⟩ := List.mem_flatMap.1 mem
    obtain ⟨ctx', context', tick⟩ := tick_of_mem_recorded mem
    rw [tick, beq_iff_eq]
    exact fun same => differs t' turn ctx' context' (Option.some.inj same)
  have own : (recorded t).filter (fun r => r.scope.tick == some ctx.tick) = recorded t := by
    refine List.filter_eq_self.2 fun r mem => ?_
    obtain ⟨ctx', context', tick⟩ := tick_of_mem_recorded mem
    obtain rfl := Option.some.inj (context.symm.trans context')
    rw [tick, beq_self_eq_true]
  rw [List.flatMap_append, List.flatMap_cons, List.filter_append, List.filter_append, own,
    others earlier, others later, List.nil_append, List.append_nil]
  · intro t' turn ctx' context' same
    have less := after t' turn ctx ctx' context context'
    rw [same] at less
    exact UInt64.lt_irrefl _ less
  · intro t' turn ctx' context' same
    have less := before t' turn t List.mem_cons_self ctx' ctx context' context
    rw [same] at less
    exact UInt64.lt_irrefl _ less

/-! ## Turns of the recorder -/

variable {s : Simulation M T} {w₀ : World M} {c : DriverCall M T} {slot : PluginSlot M T}
  {t : PluginTurn M T}

/-- A turn of the recorder is at the end of the run, or it records because its database runs, or it
fails and does nothing. -/
lemma Keeps.turn_cases (h : Keeps place table rows t.world) (takes : c.Takes s w₀ slot t)
    (mine : slot.plugin = plugin place table) :
    (t.call.executes = false ∧ recorded t = [] ∧ Keeps place table rows t.after) ∨
    (t.world.database.running = true ∧ t.call.failure? = none ∧
      Keeps place table (rows ++ recorded t) t.after) ∨
    (t.world.database.running = false ∧ t.call.failure? ≠ none ∧ recorded t = [] ∧
      t.after = t.world) := by
  cases takes with
  | completes finishes hook call =>
    rw [mine] at hook
    refine .inl ⟨?_, ?_, ?_⟩
    · rw [call]
      rfl
    · rw [recorded, call]
      rfl
    · rw [PluginTurn.after, hook]
      exact ⟨h.holds.stop rfl, h.ready, h.counted⟩
  | @executes clock ticks opens hook call =>
    rw [mine] at hook
    cases running : t.world.database.running with
    | true =>
      obtain ⟨w', performed, keeps⟩ := h.execute running clock.context
      have performed : t.world.perform t.hook = (.fine, w') := hook ▸ performed
      have fine : t.call.failure? = none := by
        rw [call, performed]
        exact slot.failure?_executed_fine _ rfl
      refine .inr (.inl ⟨rfl, fine, ?_⟩)
      rw [PluginTurn.after, recorded, fine, call, performed]
      exact keeps
    | false =>
      obtain ⟨e, performed⟩ := h.execute_stopped running clock.context
      have performed : t.world.perform t.hook = (.failed e, t.world) := hook ▸ performed
      have bad : t.call.failure? = some (slot.component, e) := by
        rw [call, performed]
        exact slot.failure?_executed_bad _ rfl
      refine .inr (.inr ⟨rfl, ?_, ?_, ?_⟩)
      · rw [bad]
        exact Option.some_ne_none _
      · rw [recorded, bad, call]
        rfl
      · rw [PluginTurn.after, performed]

/-- An execution of the recorder succeeds exactly if its database runs; one that fails does nothing.
-/
lemma Keeps.fails_iff (h : Keeps place table rows t.world) (takes : c.Takes s w₀ slot t)
    (mine : slot.plugin = plugin place table) (executes : t.call.executes = true) :
    (t.call.failure? ≠ none ↔ t.world.database.running = false) ∧
      (t.call.failure? ≠ none → t.after = t.world) := by
  rcases h.turn_cases takes mine with ⟨ends, -, -⟩ | ⟨running, fine, -⟩ | ⟨stopped, bad, -, same⟩
  · cases ends.symm.trans executes
  · rw [running, fine]
    exact ⟨⟨fun bad => absurd rfl bad, nofun⟩, fun bad => absurd rfl bad⟩
  · exact ⟨iff_of_true bad stopped, fun _ => same⟩

/-- A turn of the recorder adds what it records to its rows. -/
lemma Keeps.turn (h : Keeps place table rows t.world) (takes : c.Takes s w₀ slot t)
    (mine : slot.plugin = plugin place table) :
    Keeps place table (rows ++ recorded t) t.after := by
  rcases h.turn_cases takes mine with ⟨-, none, keeps⟩ | ⟨-, -, keeps⟩ | ⟨-, -, none, same⟩
  · rw [none, List.append_nil]
    exact keeps
  · exact keeps
  · rw [none, List.append_nil, same]
    exact h

end Recorder

end Recorder

/-- Deeds without a write leave the shared state as it is. -/
lemma World.Along.store_eq {w w' : World M} {ds : List (Deed M)} (h : w.Along ds w')
    (reads : ∀ d ∈ ds, d.access.isWrite = false) :
    w'.environment.store = w.environment.store := by
  induction ds generalizing w with
  | nil =>
    obtain rfl : w = w' := h
    rfl
  | cons d rest ih =>
    obtain ⟨rfl, rest⟩ := h
    obtain ⟨first, later⟩ := List.forall_mem_cons.1 reads
    exact (ih rest later).trans ((d.access.apply_frame d.world).2 first)

/-! ## Histories -/

section Histories

variable [Time T]

namespace Recorder

variable {place : Place M RecorderState} {table : String} {rows : List StoredRow} {n : Nat}
  {g : Progress M T} {slot : PluginSlot M T}

/-- A call of the driver in which others spare the recorder adds what the recorder records in it. -/
lemma Keeps.next (h : Keeps place table rows g.world) (mine : slot.plugin = plugin place table)
    (at_place : g.simulation.plugins[n]? = some slot) (c : DriverCall M T)
    (alone : ∀ d ∈ c.besides n g.simulation g.world, d.Spares place) :
    Keeps place table
      (rows ++ (c.turns g.simulation g.world)[n]?.join.toList.flatMap recorded)
      (g.next c).world := by
  have entered := h.of_content (c.content_entered g.simulation g.world)
  cases turn : (c.turns g.simulation g.world)[n]?.join with
  | none =>
    rw [DriverCall.besides_of_none turn] at alone
    obtain ⟨w', along, content⟩ := c.content_along g.simulation g.world
    exact (List.append_nil rows).symm ▸ (entered.along along alone).of_content content
  | some t =>
    obtain ⟨before, after, w', others, arrives, leaves, content⟩ := c.around turn
    rw [others, List.forall_mem_append] at alone
    obtain ⟨⟨slot', same, takes⟩, -⟩ := DriverCall.takes turn
    obtain rfl := Option.some.inj (at_place.symm.trans same)
    have added := ((entered.along arrives alone.1).turn takes mine).along leaves alone.2
    rw [Option.toList_some, List.flatMap_singleton]
    exact added.of_content content

/-- So does a history. -/
theorem Keeps.foldl (h : Keeps place table rows g.world) (mine : slot.plugin = plugin place table)
    (at_place : g.simulation.plugins[n]? = some slot) (history : List (DriverCall M T))
    (alone : ∀ d ∈ g.besides n history, d.Spares place) :
    Keeps place table (rows ++ (g.turnsOf n history).flatMap recorded)
      (history.foldl Progress.next g).world := by
  induction history generalizing g rows slot with
  | nil => exact (List.append_nil rows).symm ▸ h
  | cons c rest ih =>
    rw [Progress.besides, List.forall_mem_append] at alone
    obtain ⟨slot', at_place', same⟩ := (g.serves c).plugin at_place
    rw [Progress.turnsOf, List.flatMap_append, ← List.append_assoc]
    exact ih (h.next mine at_place c alone.1) (same.trans mine) at_place' alone.2

/-- What an execution of the recorder, at its place among the plugins, tells in a tick: the context
of the tick, and the shared state that it finds. That is the state at the end of the steps if no
plugin before it writes, as one can that has come by the key of a participant. The execution fails
exactly if the database does not run, and then does nothing; otherwise the rows of the tick tell the
whole shared state. -/
structure Records (rows : List StoredRow) (n : Nat) (s : Simulation M T) (w : World M)
    (clock : Clock T) (t : PluginTurn M T) : Prop where
  turn : (s.executionsIn w clock)[n]?.join = some t
  context : t.call.context = some clock.context
  observed : (∀ d ∈ ((s.executionsIn w clock).take n).reduceOption.flatMap PluginTurn.deeds,
      d.access.isWrite = false) →
    t.world.environment.store = (s.stepsIn w clock).2.environment.store
  sorted : t.world.environment.store.entries.Sorted
  fails : t.call.failure? ≠ none ↔ t.world.database.running = false
  idle : t.call.failure? ≠ none → t.after = t.world
  readBack : t.call.failure? = none →
    (rows.filter fun r => r.scope.tick == some clock.ticks).filterMap told? =
      t.world.environment.store.entries.entries

/-- An execution of the recorder, in a call of the driver in which others spare the recorder. -/
lemma Keeps.records {kept : List StoredRow} (h : Keeps place table kept g.world)
    (ordered : g.world.Ordered) (mine : slot.plugin = plugin place table)
    (at_place : g.simulation.plugins[n]? = some slot) {c : DriverCall M T}
    (alone : ∀ d ∈ c.besides n g.simulation g.world, d.Spares place) {t : PluginTurn M T}
    (turn : (c.turns g.simulation g.world)[n]?.join = some t) (executes : t.call.executes = true)
    (own : ∀ ctx, t.call.context = some ctx →
      rows.filter (fun r => r.scope.tick == some ctx.tick) = recorded t) :
    ∃ clock, c = .tick ∧ g.simulation.opens? = some clock ∧
      Records rows n g.simulation g.world clock t := by
  obtain ⟨⟨slot', same, takes⟩, arrives⟩ := DriverCall.takes turn
  obtain rfl := Option.some.inj (at_place.symm.trans same)
  have keeps : Keeps place table kept t.world := by
    obtain ⟨before, after, w', others, arrives, -⟩ := c.around turn
    rw [others, List.forall_mem_append] at alone
    exact (h.of_content (c.content_entered _ _)).along arrives alone.1
  obtain ⟨fails, idle⟩ := keeps.fails_iff takes mine executes
  have entered : (c.entered g.simulation g.world).Ordered :=
    ordered.of_content (c.content_entered _ _)
  have sorted := (arrives.reaches.keeps Access.ordered_apply entered).store
  cases takes with
  | completes finishes hook call =>
    rw [call] at executes
    cases executes
  | @executes clock ticks opens hook call =>
    subst ticks
    have context : t.call.context = some clock.context := by
      rw [call]
      rfl
    have turn : (g.simulation.executionsIn g.world clock)[n]?.join = some t := by
      rwa [DriverCall.turns, opens] at turn
    refine ⟨clock, rfl, opens, turn, context, fun reads => ?_, sorted, fails, idle, fun fine => ?_⟩
    · by_cases aborts : g.simulation.StepsAbort g.world clock
      · rw [executionsIn, if_pos aborts] at turn
        cases turn
      · exact ((executionsIn_of_goesOn aborts).along turn).store_eq reads
    · have told : recorded t =
          t.world.environment.store.entries.entries.map (stored clock.context) := by
        rw [recorded, context, fine]
      have entries : told? ∘ stored clock.context = some := funext (told?_stored clock.context)
      have rows_eq : (rows.filter fun r => r.scope.tick == some clock.ticks) = recorded t :=
        own clock.context context
      rw [rows_eq, told, List.filterMap_map, entries, List.filterMap_some]

end Recorder

end Histories

/-- A recorder that is new and has been added has an empty table, and its place. -/
lemma Recorder.keeps_of_added [Time T] {s : Simulation M T} {w : World M}
    {place : Place M RecorderState} {table : String} {id : PluginId} (ordered : w.Ordered)
    (settled : ∀ t ∈ w.database.tables.values, t.pending = [])
    (new : place.get w.memory = {})
    (added : (s.addPlugin w (plugin place table)).result = .ok id) :
    Keeps place table [] (s.addPlugin w (plugin place table)).world ∧
      ∃ slot, (s.addPlugin w (plugin place table)).simulation.plugins[s.plugins.length]? =
        some slot ∧ slot.plugin = plugin place table := by
  have adds := s.addPlugin_adds w (plugin place table)
  generalize s.addPlugin w (plugin place table) = out at adds added ⊢
  cases adds with
  | unrunnable | failed => cases added
  | joined initialised fine =>
    exact ⟨keeps_of_initialised ordered settled new initialised fine,
      ⟨s.pluginIds s.pluginsMade, plugin place table, false⟩, List.getElem?_concat_length, rfl⟩

/-- The record of a run. A recorder that is new is added over a database in which nothing is
pending, and from then on nobody else puts anything into the database or meddles with the recorder;
the database may be stopped and started by anyone. Then the rows of its table are those of the turns
in which it has recorded, one after another; none is pending, and the recorder has counted them.
Each of its executions is in a tick that opens, and tells the shared state that it finds: what the
steps have left, unless plugins write that execute before it. -/
theorem recorder_keeps_history [Time T] (x : Plan M T) (sorted : x.database.tables.Sorted)
    (place : Place M RecorderState) (table : String) (before after : List (DriverCall M T))
    {id : PluginId}
    (settled : ∀ t ∈ (x.after before).world.database.tables.values, t.pending = [])
    (new : place.get (x.after before).world.memory = {})
    (added : ((x.after before).simulation.addPlugin (x.after before).world
      (Recorder.plugin place table)).result = .ok id)
    (alone : ∀ d ∈ (x.after (before ++ [.addPlugin (Recorder.plugin place table)])).besides
      (x.after before).simulation.plugins.length after, d.Spares place) :
    let n := (x.after before).simulation.plugins.length
    let start := before ++ [.addPlugin (Recorder.plugin place table)]
    let g := x.after (start ++ after)
    let turns := (x.after start).turnsOf n after
    let rows := turns.flatMap Recorder.recorded
    g.world.database.rows table = .ok rows ∧
    g.world.database.pendingRows = 0 ∧
    (place.get g.world.memory).rowsRecorded = rows.length ∧
    ∀ t ∈ turns, t.call.executes = true →
      ∃ earlier later clock, after = earlier ++ .tick :: later ∧
        let g' := x.after (start ++ earlier)
        g'.simulation.opens? = some clock ∧
          Recorder.Records rows n g'.simulation g'.world clock t := by
  intro n start g turns rows
  have after_start : ∀ history, x.after (start ++ history) =
      history.foldl Progress.next (x.after start) := x.after_append start
  obtain ⟨begins, slot, at_place, mine⟩ := Recorder.keeps_of_added (x.ordered_after sorted before)
    settled new added
  have begins : Recorder.Keeps place table [] (x.after start).world := by
    rw [x.after_append before]
    exact begins
  have at_place : (x.after start).simulation.plugins[n]? = some slot := by
    rw [x.after_append before]
    exact at_place
  have keeps : Recorder.Keeps place table rows g.world := by
    have keeps := begins.foldl mine at_place after alone
    rwa [← after_start] at keeps
  refine ⟨keeps.holds.rows_eq, keeps.holds.pendingRows_eq, keeps.counted, fun t mem executes => ?_⟩
  obtain ⟨earlier, c, later, split, turn⟩ := Progress.mem_turnsOf mem
  -- others spare the recorder before that call and in it
  rw [split, Progress.besides_append, List.forall_mem_append] at alone
  obtain ⟨spared, others⟩ := alone
  rw [Progress.besides, List.forall_mem_append] at others
  have so_far := begins.foldl mine at_place earlier spared
  obtain ⟨slot', at_place', same⟩ := Progress.plugin_foldl at_place earlier
  rw [← after_start] at turn others so_far at_place'
  obtain ⟨clock, rfl, opens, records⟩ := so_far.records (x.ordered_after sorted _)
    (same.trans mine) at_place' others.1 turn executes fun ctx context =>
      Recorder.filter_recorded (Progress.pairwise_turnsOf n _ after) mem context
  exact ⟨earlier, later, clock, split, opens, records⟩

section Diary

/-- A handler that writes the payload of an action to its key. -/
def scribe : Handler where
  name := "scribe"
  tags := [⟨"note"⟩]
  keys := [⟨"page"⟩]
  handle _ action _ :=
    .write ⟨"page"⟩ action.payload fun _ => .stop (.finished (.applied .null))

/-- A participant that notes the tick in each step. -/
def diarist : Participant (Key × RecorderState) IntegerTime where
  id := ⟨1⟩
  name := "diarist"
  initialise handle := .ask (.keep fun m => (handle.key, m.2)) fun _ => .done .fine
  step ctx := .ask .remembered fun m =>
    .ask (.act ⟨⟨"note"⟩, .nat ctx.tick.toNat⟩ ⟨1⟩ m.1) fun _ => .done .fine

/-- What a recorder remembers beside the key. -/
def besideKey : Place (Key × RecorderState) RecorderState where
  get m := m.2
  put s m := (m.1, s)
  get_put _ _ := rfl

/-- A world in which that handler takes actions. -/
def diary : Plan (Key × RecorderState) IntegerTime where
  registry := Registry.add {} scribe
  services := {}
  supply := .counting
  generators := []
  nesting := 1
  database := {}
  operator := {}
  memory := (⟨0⟩, {})
  clock := .new
  driver := {}
  schedule _ := []
  participantIds n := ⟨n⟩
  pluginIds n := ⟨n⟩

/-- The history of the diary up to the recorder. -/
def diaryStart : List (DriverCall (Key × RecorderState) IntegerTime) := [.add diarist]

/-- Two ticks, then somebody stops the database, and a third tick. -/
def diaryDays : List (DriverCall (Key × RecorderState) IntegerTime) :=
  [.tick, .tick, .outside (.ask (.database .stop) fun _ => .done ()), .tick]

/-- Two ticks are recorded; then the database is stopped, and the third is not. -/
theorem recorder_keeps_history_stopped :
    let start := diaryStart ++ [.addPlugin (Recorder.plugin besideKey "pages")]
    let n := (diary.after diaryStart).simulation.plugins.length
    let page := fun n : UInt64 =>
      Recorder.stored (⟨n, ⟨n⟩⟩ : TickContext IntegerTime) (⟨"page"⟩, .nat n.toNat)
    diary.database.tables.Sorted ∧
    (∀ t ∈ (diary.after diaryStart).world.database.tables.values, t.pending = []) ∧
    besideKey.get (diary.after diaryStart).world.memory = {} ∧
    ((diary.after diaryStart).simulation.addPlugin (diary.after diaryStart).world
      (Recorder.plugin besideKey "pages")).result = .ok ⟨0⟩ ∧
    (∀ d ∈ (diary.after start).besides n diaryDays, d.Spares besideKey) ∧
    (diary.after (start ++ diaryDays)).world.database.rows "pages" = .ok [page 1, page 2] := by
  intro start n page
  have settled : ∀ t ∈ (diary.after diaryStart).world.database.tables.values, t.pending = [] := by
    decide +kernel
  have new : besideKey.get (diary.after diaryStart).world.memory = {} := by
    decide +kernel
  have added : ((diary.after diaryStart).simulation.addPlugin (diary.after diaryStart).world
      (Recorder.plugin besideKey "pages")).result = .ok ⟨0⟩ := by
    decide +kernel
  have alone : ∀ d ∈ (diary.after start).besides n diaryDays, d.Spares besideKey := by
    decide +kernel
  have pages : ((diary.after start).turnsOf n diaryDays).flatMap Recorder.recorded =
      [page 1, page 2] := by
    decide +kernel
  obtain ⟨rows, -⟩ := recorder_keeps_history diary .nil besideKey "pages" diaryStart diaryDays
    settled new added alone
  exact ⟨.nil, settled, new, added, alone, rows.trans (congrArg Except.ok pages)⟩

/-- A plugin that submits an action in the name of a participant whose key it finds. -/
def editor : Plugin (Key × RecorderState) IntegerTime where
  name := "editor"
  execute _ := .ask .remembered fun m =>
    .ask (.act ⟨⟨"note"⟩, .string "edited"⟩ ⟨1⟩ m.1) fun _ => .done .fine

/-- A plugin that executes before the recorder can still write in the name of a participant. What is
recorded is then not what there was when the steps ended. -/
theorem record_shows_earlier_plugin :
    let before := diaryStart ++ [.addPlugin editor]
    let start := before ++ [.addPlugin (Recorder.plugin besideKey "pages")]
    let g := diary.after start
    let n := (diary.after before).simulation.plugins.length
    let ctx : TickContext IntegerTime := ⟨1, ⟨1⟩⟩
    (∀ t ∈ (diary.after before).world.database.tables.values, t.pending = []) ∧
    besideKey.get (diary.after before).world.memory = {} ∧
    ((diary.after before).simulation.addPlugin (diary.after before).world
      (Recorder.plugin besideKey "pages")).result = .ok ⟨1⟩ ∧
    (∀ d ∈ g.besides n [.tick], d.Spares besideKey) ∧
    g.simulation.opens? = some ⟨⟨1⟩, 1⟩ ∧
    (g.simulation.stepsIn g.world ⟨⟨1⟩, 1⟩).2.environment.store.entries.entries =
      [(⟨"page"⟩, .nat 1)] ∧
    (diary.after (start ++ [.tick])).world.database.rows "pages" =
      .ok [Recorder.stored ctx (⟨"page"⟩, .string "edited")] := by
  intro before start g n ctx
  exact ⟨by decide +kernel, by decide +kernel, by decide +kernel, by decide +kernel,
    by decide +kernel, by decide +kernel, by decide +kernel⟩

end Diary

end Cadence
