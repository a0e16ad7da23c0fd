import Cadence.Proofs.Conservation
import Mathlib.Logic.Function.Basic

/-!
# Database calls that overlap

A call of the database takes two steps. It looks at the flag that tells whether the database runs,
which starting sets and stopping clears on the way; then, if there is something to do, it acts on
the tables, whatever the flag is by then. Made at once the two steps come to the call as a whole
(`DatabaseCall.perform_eq`), but other calls can come between them. `Usage.follow` goes through the
steps of any number of calls in any order; where no two calls overlap, it does what their history
does (`Usage.follow_whole`). Whoever acts has looked and found the database running
(`Usage.Runs.inside`), and that takes a start if the database was stopped (`Usage.Runs.began`).
-/

namespace Cadence

/-! ## The two steps of a call -/

namespace DatabaseCall

/-- The database once the call has looked at the flag. -/
def look : DatabaseCall → Database → Database
  | start, db => { db with running := true }
  | stop, db => { db with running := false }
  | _, db => db

/-- Whether the call goes on to the tables: it has to find the database running. -/
def goesOn : DatabaseCall → Database → Bool
  | start, _ => false
  | _, db => db.running

/-- The answer to a call that does not go on. -/
def turnedAway : (c : DatabaseCall) → c.Reply
  | start => ()
  | stop => ()
  | create _ => .error .notRunning
  | insert _ _ _ => .error .notRunning
  | commit => .error .notRunning

/-- Act on the tables as on those of a database that runs; the flag stays as it is. -/
def act (c : DatabaseCall) (db : Database) : c.Reply × Database :=
  ((db.start.perform c).1, { db with tables := (db.start.perform c).2.tables })

/-- A call that goes on behind its check has seen the database running, or does not ask. -/
lemma running_of_goesOn {c : DatabaseCall} {db : Database} (goesOn : c.goesOn db = true) :
    db.running = true := by
  cases c with
  | start => cases goesOn
  | _ => exact goesOn

/-- Only what switches the database changes the flag. -/
lemma perform_of_not_switch {c : DatabaseCall} (other : c.isSwitch = false) (db : Database) :
    (db.perform c).2 = { db with tables := (db.perform c).2.tables } := by
  cases c with
  | start | stop => cases other
  | create d =>
    show (db.create d).2 = { db with tables := (db.create d).2.tables }
    rw [Database.create]
    cases db.checkRunning with
    | error e => rfl
    | ok u =>
      dsimp only
      split <;> rfl
  | insert table scope row =>
    show (db.insert table scope row).2 =
      { db with tables := (db.insert table scope row).2.tables }
    rw [Database.insert]
    cases db.admits table scope row <;> rfl
  | commit =>
    show db.commit.2 = { db with tables := db.commit.2.tables }
    rw [Database.commit]
    cases db.checkRunning <;> rfl

/-- A call comes to its two steps when nothing comes between them. -/
theorem perform_eq (c : DatabaseCall) (db : Database) :
    db.perform c = if c.goesOn db then c.act (c.look db) else (c.turnedAway, c.look db) := by
  obtain ⟨running, tables⟩ := db
  cases running with
  | true =>
    -- a call that is no switch acts on the database that it has found
    have whole : ∀ {c : DatabaseCall}, c.isSwitch = false →
        Database.perform ⟨true, tables⟩ c = c.act ⟨true, tables⟩ :=
      fun other => Prod.ext rfl (perform_of_not_switch other _)
    cases c with
    | start | stop => rfl
    | create | insert | commit => exact whole rfl
  | false =>
    have stopped : (Database.mk false tables).running = false := rfl
    cases c with
    | start | stop | create | commit => rfl
    | insert table scope row => exact Database.insert_of_stopped stopped table scope row

end DatabaseCall

/-! ## What a call does to the rows of a table -/

namespace Database

/-- The committed rows of a table; none if there is no such table. -/
def committedIn (db : Database) (name : String) : List StoredRow :=
  (db.tables.get? name).elim [] Table.committed

/-- The pending rows of a table; none if there is no such table. -/
def pendingIn (db : Database) (name : String) : List StoredRow :=
  (db.tables.get? name).elim [] Table.pending

/-- To discard leaves committed rows and no pending ones. -/
lemma rows_of_discarded {db db' : Database}
    (discarded : db'.tables = db.tables.mapValues Table.discard) (name : String) :
    db'.committedIn name = db.committedIn name ∧ db'.pendingIn name = [] := by
  rw [committedIn, pendingIn, discarded, OrderedMap.get?_mapValues, committedIn]
  cases db.tables.get? name <;> exact ⟨rfl, rfl⟩

end Database

namespace DatabaseCall

/-- The rows that a call puts into a table as it acts: one, if it inserts one there. -/
def lands (c : DatabaseCall) (db : Database) (name : String) : List StoredRow :=
  match DatabaseDeed.inserted? ⟨c, db.start⟩ with
  | some (table, row) => if table = name then [row] else []
  | none => []

/-- What acting comes to for the rows of a table. -/
inductive Turns (name : String) (db db' : Database) (rows : List StoredRow) : Prop where
  | staged (committed : db'.committedIn name = db.committedIn name)
      (pending : db'.pendingIn name = db.pendingIn name ++ rows)
  | discarded (committed : db'.committedIn name = db.committedIn name)
      (pending : db'.pendingIn name = []) (none : rows = [])
  | committed (committed : db'.committedIn name = db.committedIn name ++ db.pendingIn name)
      (pending : db'.pendingIn name = []) (none : rows = [])

namespace Turns

variable {name : String} {db db' : Database}

/-- What leaves a table as it is lands no rows in it. -/
lemma of_same (same : db'.tables.get? name = db.tables.get? name) : Turns name db db' [] := by
  refine .staged ?_ ?_
  · rw [Database.committedIn, same, Database.committedIn]
  · rw [Database.pendingIn, same, Database.pendingIn, List.append_nil]

/-- To discard lands no rows. -/
lemma of_discarded (discarded : db'.tables = db.tables.mapValues Table.discard) :
    Turns name db db' [] := by
  obtain ⟨committed, pending⟩ := Database.rows_of_discarded discarded name
  exact .discarded committed pending rfl

/-- To commit lands no rows. -/
lemma of_committed (committed : db'.tables = db.tables.mapValues Table.commit) :
    Turns name db db' [] := by
  refine .committed ?_ ?_ rfl
  · rw [Database.committedIn, committed, OrderedMap.get?_mapValues, Database.committedIn,
      Database.pendingIn]
    cases db.tables.get? name <;> rfl
  · rw [Database.pendingIn, committed, OrderedMap.get?_mapValues]
    cases db.tables.get? name <;> rfl

/-- To create a table lands no rows. -/
lemma of_created {d : TableDescriptor} (absent : db.tables.get? d.name = none)
    (created : db'.tables = db.tables.insert d.name { descriptor := d }) :
    Turns name db db' [] := by
  by_cases own : name = d.name
  · subst own
    have found : db'.tables.get? d.name = some { descriptor := d } := by
      rw [created]
      exact OrderedMap.get?_insert_self _ _ _
    refine .staged ?_ ?_
    · rw [Database.committedIn, found, Database.committedIn, absent]
      rfl
    · rw [Database.pendingIn, found, Database.pendingIn, absent]
      rfl
  · refine of_same ?_
    rw [created]
    exact OrderedMap.get?_insert_of_ne own _ _

/-- An insertion lands its row in the table that it names. -/
lemma of_inserted {table : String} {row : StoredRow} {t : Table}
    (found : db.tables.get? table = some t)
    (inserted : db'.tables = db.tables.insert table (t.stage row)) :
    Turns name db db' (if table = name then [row] else []) := by
  by_cases own : table = name
  · subst own
    have staged : db'.tables.get? table = some (t.stage row) := by
      rw [inserted]
      exact OrderedMap.get?_insert_self _ _ _
    rw [if_pos rfl]
    refine .staged ?_ ?_
    · rw [Database.committedIn, staged, Database.committedIn, found]
      rfl
    · rw [Database.pendingIn, staged, Database.pendingIn, found]
      rfl
  · rw [if_neg own]
    refine of_same ?_
    rw [inserted]
    exact OrderedMap.get?_insert_of_ne (Ne.symm own) _ _

end Turns

/-- Each call turns the rows of a table in one of these ways. -/
theorem act_turns (c : DatabaseCall) (db : Database) (name : String) :
    Turns name db (c.act db).2 (c.lands db name) := by
  have tables {after : Database} (leaves : DatabaseDeed.after ⟨c, db.start⟩ = after) :
      (c.act db).2.tables = after.tables := by
    rw [← leaves]
    rfl
  rw [lands]
  cases db.start.comes c with
  | idle after silent | started after silent =>
    rw [silent]
    exact .of_same (congrArg (OrderedMap.get? · name) ((tables after).trans rfl))
  | stopped after silent =>
    rw [silent]
    exact .of_discarded (tables after)
  | created d running absent after silent =>
    rw [silent]
    exact .of_created absent (tables after)
  | inserted table row t running found valid after inserts =>
    rw [inserts]
    exact .of_inserted found (tables after)
  | committed running after silent =>
    rw [silent]
    exact .of_committed (tables after)

end DatabaseCall

/-! ## Calls in any order -/

/-- A database in use, with the calls that have looked and have yet to act. Calls are numbered as
they look. -/
structure Usage where
  database : Database
  entered : Nat := 0
  inside : Nat → Option DatabaseCall := fun _ => none

namespace Usage

/-- A step of a call. -/
inductive Move where
  /-- A call comes and looks. -/
  | enter (c : DatabaseCall)
  /-- A call that has gone on acts. -/
  | act (number : Nat)
  deriving DecidableEq, Repr

/-- What happens in a step, and the database before it. -/
inductive Happening where
  | looked (number : Nat) (c : DatabaseCall) (db : Database)
  | acted (number : Nat) (c : DatabaseCall) (db : Database)
  deriving DecidableEq

/-- The usage once a call has looked. -/
def looking (t : Usage) (c : DatabaseCall) : Usage where
  database := c.look t.database
  entered := t.entered + 1
  inside := if c.goesOn t.database then Function.update t.inside t.entered (some c) else t.inside

/-- The usage once a call that has looked has acted. -/
def acting (t : Usage) (n : Nat) (c : DatabaseCall) : Usage where
  database := (c.act t.database).2
  entered := t.entered
  inside := Function.update t.inside n none

/-- Make a step, if it can be made: what happens, and the usage after it. -/
def move (t : Usage) : Move → List Happening × Usage
  | .enter c => ([.looked t.entered c t.database], t.looking c)
  | .act n =>
    match t.inside n with
    | some c => ([.acted n c t.database], t.acting n c)
    | none => ([], t)

/-- Make steps one after another: all that happens, and the usage after it. -/
def follow : List Move → Usage → List Happening × Usage
  | [], t => ([], t)
  | m :: rest, t =>
    let (first, t) := t.move m
    let (later, t) := follow rest t
    (first ++ later, t)

/-- What can happen, and what the usage is then. -/
inductive Step (t : Usage) : Happening → Usage → Prop where
  | look (c : DatabaseCall) : Step t (.looked t.entered c t.database) (t.looking c)
  | act {n : Nat} {c : DatabaseCall} (inside : t.inside n = some c) :
      Step t (.acted n c t.database) (t.acting n c)

/-- What can happen one after another. -/
inductive Runs : Usage → List Happening → Usage → Prop where
  | nil {t : Usage} : Runs t [] t
  | cons {t t' t'' : Usage} {x : Happening} {hs : List Happening} (first : Step t x t')
      (rest : Runs t' hs t'') : Runs t (x :: hs) t''

/-- The run that is computed is one. -/
theorem follow_runs (moves : List Move) (t : Usage) :
    Runs t (t.follow moves).1 (t.follow moves).2 := by
  induction moves generalizing t with
  | nil => exact .nil
  | cons m rest ih =>
    rw [follow]
    cases m with
    | enter c => exact .cons (.look c) (ih _)
    | act n =>
      rw [move]
      cases inside : t.inside n with
      | none => exact ih t
      | some c => exact .cons (.act inside) (ih _)

variable {t t' t'' : Usage} {hs before after : List Happening} {x : Happening} {n : Nat}
  {c : DatabaseCall}

/-- A run can be cut in two. -/
lemma Runs.split (runs : t.Runs (before ++ after) t'') :
    ∃ t', t.Runs before t' ∧ t'.Runs after t'' := by
  induction before generalizing t with
  | nil => exact ⟨t, .nil, runs⟩
  | cons x rest ih =>
    cases runs with
    | cons first runs =>
      obtain ⟨t', before, after⟩ := ih runs
      exact ⟨t', .cons first before, after⟩

/-- The steps of calls of which each is over before the next comes. -/
def whole (n : Nat) : List DatabaseCall → List Move
  | [] => []
  | c :: rest => .enter c :: .act n :: whole (n + 1) rest

/-- A call that is over before another comes does what it does as a whole. -/
lemma follow_call (empty : ∀ n, t.inside n = none) (c : DatabaseCall) (moves : List Move) :
    ∃ t' : Usage, (t.follow (.enter c :: .act t.entered :: moves)).2 = (t'.follow moves).2 ∧
      t'.database = (t.database.perform c).2 ∧ t'.entered = t.entered + 1 ∧
      ∀ n, t'.inside n = none := by
  have comes := c.perform_eq t.database
  cases goesOn : c.goesOn t.database with
  | true =>
    have here : (t.looking c).inside = Function.update t.inside t.entered (some c) := if_pos goesOn
    refine ⟨(t.looking c).acting t.entered c, ?_, ?_, rfl, fun n => ?_⟩
    · simp only [follow, move, here, Function.update_self]
    · rw [goesOn, if_pos rfl] at comes
      exact (congrArg Prod.snd comes).symm
    · by_cases own : n = t.entered
      · subst own
        exact Function.update_self ..
      · refine (Function.update_of_ne own ..).trans ?_
        rw [here]
        exact (Function.update_of_ne own ..).trans (empty n)
  | false =>
    have same : (t.looking c).inside = t.inside := if_neg (Bool.eq_false_iff.1 goesOn)
    refine ⟨t.looking c, ?_, ?_, rfl, fun n => ?_⟩
    · simp only [follow, move, same, empty]
    · rw [goesOn, if_neg Bool.false_ne_true] at comes
      exact (congrArg Prod.snd comes).symm
    · rw [same]
      exact empty n

/-- Calls that do not overlap do what their history does. -/
theorem follow_whole (empty : ∀ n, t.inside n = none) (history : List DatabaseCall) :
    (t.follow (whole t.entered history)).2.database = t.database.after history := by
  induction history generalizing t with
  | nil => rfl
  | cons c rest ih =>
    obtain ⟨t', follows, made, entered, empty⟩ := follow_call empty c (whole (t.entered + 1) rest)
    rw [whole, follows, ← entered, ih empty, made]
    rfl

/-! ## Who acts -/

/-- Some call starts the database in what happens, and the call looks after that. -/
def ComesAfterStart (hs : List Happening) (n : Nat) (c : DatabaseCall) : Prop :=
  ∃ earlier later db, hs = earlier ++ .looked n c db :: later ∧
    ∃ k db', .looked k .start db' ∈ earlier

/-- Who is inside after a step was inside before it or has just got past its check. -/
lemma Step.inside (step : t.Step x t') (inside : t'.inside n = some c) :
    t.inside n = some c ∨ (x = .looked n c t.database ∧ c.goesOn t.database = true) := by
  cases step with
  | look c' =>
    rw [looking] at inside
    dsimp only at inside
    split at inside
    · next goesOn =>
      by_cases own : n = t.entered
      · subst own
        rw [Function.update_self] at inside
        obtain rfl := Option.some.inj inside
        exact .inr ⟨rfl, goesOn⟩
      · rw [Function.update_of_ne own] at inside
        exact .inl inside
    · exact .inl inside
  | @act n' c' _ =>
    by_cases own : n = n'
    · subst own
      have gone : (t.acting n c').inside n = none := Function.update_self ..
      cases gone.symm.trans inside
    · have same : (t.acting n' c').inside n = t.inside n := Function.update_of_ne own ..
      exact .inl (same.symm.trans inside)

/-- Only starting the database makes it run. -/
lemma Step.running (step : t.Step x t') (stopped : t.database.running = false)
    (running : t'.database.running = true) : ∃ k db, x = .looked k .start db := by
  cases step with
  | look c =>
    cases c with
    | start => exact ⟨_, _, rfl⟩
    | stop => cases running
    | create | insert | commit => cases stopped.symm.trans running
  | act => cases stopped.symm.trans running

/-- A call that is inside was inside before, or it has looked and found the database running. -/
lemma Runs.inside (runs : t.Runs hs t') (inside : t'.inside n = some c) :
    t.inside n = some c ∨
      ∃ earlier later t₁, hs = earlier ++ .looked n c t₁.database :: later ∧
        t.Runs earlier t₁ ∧ t₁.database.running = true := by
  induction runs with
  | nil => exact .inl inside
  | cons first rest ih =>
    obtain inside | ⟨earlier, later, t₁, rfl, runs, running⟩ := ih inside
    · obtain inside | ⟨rfl, goesOn⟩ := first.inside inside
      · exact .inl inside
      · exact .inr ⟨[], _, _, rfl, .nil, DatabaseCall.running_of_goesOn goesOn⟩
    · exact .inr ⟨_ :: earlier, later, t₁, rfl, .cons first runs, running⟩

/-- A database that has begun to run has been started. -/
lemma Runs.started (runs : t.Runs hs t') (stopped : t.database.running = false)
    (running : t'.database.running = true) : ∃ k db, .looked k .start db ∈ hs := by
  induction runs with
  | nil => cases stopped.symm.trans running
  | @cons t t₁ _ x rest first _ ih =>
    cases goes : t₁.database.running with
    | false =>
      obtain ⟨k, db, mem⟩ := ih goes running
      exact ⟨k, db, List.mem_cons_of_mem _ mem⟩
    | true =>
      obtain ⟨k, db, rfl⟩ := first.running stopped goes
      exact ⟨k, db, List.mem_cons_self⟩

/-- Where the database is stopped, a call that is inside later is inside already or comes after a
start. -/
lemma Runs.began (runs : t.Runs hs t') (stopped : t.database.running = false)
    (inside : t'.inside n = some c) : t.inside n = some c ∨ ComesAfterStart hs n c := by
  obtain inside | ⟨earlier, later, t₁, rfl, runs, running⟩ := runs.inside inside
  · exact .inl inside
  · exact .inr ⟨earlier, later, _, rfl, runs.started stopped running⟩

end Usage

end Cadence
