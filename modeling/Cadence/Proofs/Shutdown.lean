import Cadence.Proofs.Usage

/-!
# Stopping while other calls are under way

Stopping discards what is pending as it acts on the tables. What acts later has looked before the
stop or after another start, for between the two the flag of the database is clear
(`Usage.Runs.acts_after_stop`). An insertion of the first kind puts a row into a database that is
stopped (`Usage.Calm`), and after a restart the row is committed. But for such insertions nothing is
pending in a database that has been stopped, and nothing is committed before it is started again
(`Usage.stop_discards_unless_overtaken`).
-/

namespace Cadence

namespace Usage

variable {t t' t'' : Usage} {hs before after : List Happening} {x : Happening} {n : Nat}
  {c : DatabaseCall} {db : Database}

/-! ## Rows -/

/-- The rows that are put into a table as it happens. -/
def Happening.lands (name : String) : Happening → List StoredRow
  | looked _ _ _ => []
  | acted _ c db => c.lands db name

/-- Whether a call acts on a database that is stopped. -/
def Happening.isLate : Happening → Bool
  | looked _ _ _ => false
  | acted _ _ db => !db.running

/-- The rows that are put into a table, in that order. -/
def landed (name : String) (hs : List Happening) : List StoredRow :=
  hs.flatMap (Happening.lands name)

/-- To look at the flag changes no table. -/
lemma tables_look (c : DatabaseCall) (db : Database) : (c.look db).tables = db.tables := by
  cases c <;> rfl

/-- A step turns the rows of a table by what it lands there. -/
lemma Step.turns (step : t.Step x t') (name : String) :
    DatabaseCall.Turns name t.database t'.database (x.lands name) := by
  cases step with
  | look c => exact .of_same (congrArg (OrderedMap.get? · name) (tables_look c t.database))
  | @act n c _ => exact c.act_turns t.database name

/-- Rows are committed behind those that are, and they and the pending ones were pending or have
been put into the table since, in that order. -/
theorem Runs.rows (runs : t.Runs hs t') (name : String) :
    ∃ more, t'.database.committedIn name = t.database.committedIn name ++ more ∧
      (more ++ t'.database.pendingIn name).Sublist
        (t.database.pendingIn name ++ landed name hs) := by
  induction runs with
  | @nil t =>
    refine ⟨[], (List.append_nil _).symm, ?_⟩
    rw [landed, List.flatMap_nil, List.append_nil, List.nil_append]
  | @cons t t₁ _ x rest first _ ih =>
    obtain ⟨more, committed, sublist⟩ := ih
    have all : landed name (x :: rest) = x.lands name ++ landed name rest := List.flatMap_cons
    rw [all]
    cases first.turns name with
    | staged same staged =>
      rw [same] at committed
      rw [staged, List.append_assoc] at sublist
      exact ⟨more, committed, sublist⟩
    | discarded same discarded none =>
      rw [same] at committed
      rw [discarded] at sublist
      rw [none]
      exact ⟨more, committed, sublist.trans (List.sublist_append_right _ _)⟩
    | committed further spent none =>
      -- what the first step commits stands before what the others do
      rw [further, List.append_assoc] at committed
      rw [spent] at sublist
      rw [none, List.nil_append]
      refine ⟨t.database.pendingIn name ++ more, committed, ?_⟩
      rw [List.append_assoc]
      exact sublist.append_left _

/-- A stop that acts discards what is pending. -/
lemma rows_acting_stop (t : Usage) (n : Nat) (name : String) :
    (t.acting n .stop).database.committedIn name = t.database.committedIn name ∧
      (t.acting n .stop).database.pendingIn name = [] :=
  Database.rows_of_discarded rfl name

/-- As long as the database is stopped and no stop is under way, the rows that are pending were put
into it while it was stopped. -/
def Calm (t : Usage) (hs : List Happening) : Prop :=
  t.database.running = true ∨ (∃ n, t.inside n = some .stop) ∨
    ∀ name, (t.database.pendingIn name).Sublist (landed name (hs.filter Happening.isLate))

/-- What is put into a stopped database is put in behind what was. -/
lemma landed_late_concat (name : String) (hs : List Happening) (x : Happening) :
    landed name ((hs ++ [x]).filter Happening.isLate) =
      landed name (hs.filter Happening.isLate) ++ if x.isLate then x.lands name else [] := by
  rw [List.filter_append, landed, List.flatMap_append]
  refine congrArg (landed name (hs.filter Happening.isLate) ++ ·) ?_
  cases late : x.isLate with
  | true =>
    rw [List.filter_cons_of_pos late, List.filter_nil, if_pos rfl]
    exact List.append_nil _
  | false =>
    rw [List.filter_cons_of_neg (Bool.eq_false_iff.1 late), List.filter_nil,
      if_neg Bool.false_ne_true]
    rfl

/-- To look at the flag changes no pending rows. -/
lemma pendingIn_look (c : DatabaseCall) (db : Database) (name : String) :
    (c.look db).pendingIn name = db.pendingIn name := by
  rw [Database.pendingIn, tables_look, Database.pendingIn]

/-- Calm survives that a call passes its check. -/
lemma Calm.look (calm : t.Calm hs) (c : DatabaseCall) :
    (t.looking c).Calm (hs ++ [.looked t.entered c t.database]) := by
  cases goesOn : c.goesOn t.database with
  | true =>
    -- a call that goes on finds the database running, and only a stop does not leave it so
    have here : (t.looking c).inside = Function.update t.inside t.entered (some c) :=
      if_pos goesOn
    have running := DatabaseCall.running_of_goesOn goesOn
    cases c with
    | start => cases goesOn
    | stop => exact .inr (.inl ⟨t.entered, by rw [here, Function.update_self]⟩)
    | create | insert | commit => exact .inl running
  | false =>
    have same : (t.looking c).inside = t.inside := if_neg (Bool.eq_false_iff.1 goesOn)
    obtain running | ⟨k, stop⟩ | sublist := calm
    · cases c with
      | start => exact .inl rfl
      | stop | create | insert | commit => cases goesOn.symm.trans running
    · exact .inr (.inl ⟨k, by rw [same, stop]⟩)
    · refine .inr (.inr fun name => ?_)
      rw [landed_late_concat, looking, pendingIn_look]
      exact (sublist name).trans (List.sublist_append_left _ _)

/-- Calm survives that a call acts. -/
lemma Calm.act (calm : t.Calm hs) (inside : t.inside n = some c) :
    (t.acting n c).Calm (hs ++ [.acted n c t.database]) := by
  obtain running | ⟨k, stop⟩ | sublist := calm
  · exact .inl running
  · refine .inr ?_
    by_cases own : k = n
    · -- the stop under way discards
      subst own
      obtain rfl := Option.some.inj (stop.symm.trans inside)
      refine .inr fun name => ?_
      rw [(t.rows_acting_stop k name).2]
      exact List.nil_sublist _
    · exact .inl ⟨k, (Function.update_of_ne own ..).trans stop⟩
  · cases running : t.database.running with
    | true => exact .inl running
    | false =>
      refine .inr (.inr fun name => ?_)
      have late : (Happening.acted n c t.database).isLate = true := by
        rw [Happening.isLate, running]
        rfl
      rw [landed_late_concat, if_pos late]
      cases (Step.act inside).turns name with
      | staged same staged =>
        rw [staged]
        exact (sublist name).append_right _
      | discarded same spent | committed further spent =>
        rw [spent]
        exact List.nil_sublist _

/-- Calm survives every step. -/
lemma Calm.step (calm : t.Calm hs) (step : t.Step x t') : t'.Calm (hs ++ [x]) := by
  cases step with
  | look c => exact calm.look c
  | act inside => exact calm.act inside

/-- Calm survives every run. -/
lemma Calm.runs (calm : t.Calm before) (runs : t.Runs after t') : t'.Calm (before ++ after) := by
  induction runs generalizing before with
  | nil =>
    rw [List.append_nil]
    exact calm
  | @cons _ _ _ x rest first _ ih =>
    have later := ih (calm.step first)
    rwa [List.append_assoc] at later

/-- Where nothing was pending unless the database ran, what is pending in the stopped database was
put into it while it was stopped, or a stop has still to act. -/
lemma Runs.pending_of_stopped (runs : t.Runs hs t')
    (settled : t.database.running = false → ∀ name, t.database.pendingIn name = [])
    (stopped : t'.database.running = false) (done : ∀ n, t'.inside n ≠ some .stop) (name : String) :
    (t'.database.pendingIn name).Sublist (landed name (hs.filter Happening.isLate)) := by
  have calm : t.Calm [] := by
    cases running : t.database.running with
    | true => exact .inl running
    | false =>
      refine .inr (.inr fun name => ?_)
      rw [settled running name]
      exact List.nil_sublist _
  obtain running | ⟨n, stop⟩ | sublist := calm.runs runs
  · cases stopped.symm.trans running
  · exact absurd stop (done n)
  · exact sublist name

/-! ## Stopping -/

/-- An insertion that has looked in what happens first acts in what happens later. -/
def Overtaken (before after : List Happening) : Prop :=
  ∃ m table scope row db db', .looked m (.insert table scope row) db ∈ before ∧
    .acted m (.insert table scope row) db' ∈ after

/-- An act of a call, and how the usage is then. -/
lemma Runs.acting (runs : t.Runs (before ++ .acted n c db :: after) t'') :
    ∃ t', t.Runs before t' ∧ t'.inside n = some c ∧ t'.database = db ∧
      (t'.acting n c).Runs after t'' := by
  obtain ⟨t', earlier, later⟩ := runs.split
  cases later with
  | cons first rest =>
    cases first with
    | act inside => exact ⟨t', earlier, inside, rfl, rest⟩

/-- A run can be cut where a call passes its check. -/
lemma Runs.looking (runs : t.Runs (before ++ .looked n c db :: after) t'') :
    ∃ t', t.Runs before t' ∧ n = t'.entered ∧ t'.database = db ∧ (t'.looking c).Runs after t'' := by
  obtain ⟨t', earlier, later⟩ := runs.split
  cases later with
  | cons first rest =>
    cases first with
    | look c => exact ⟨t', earlier, rfl, rfl, rest⟩

/-- Rows are put into a table by an insertion. -/
lemma insert_of_lands {name : String} (lands : c.lands db name ≠ []) :
    ∃ table scope row, c = .insert table scope row := by
  cases c with
  | insert table scope row => exact ⟨table, scope, row, rfl⟩
  | _ => exact absurd rfl lands

/-- What acts once a stop has discarded what was pending has looked before the stop or comes after a
start. -/
lemma Runs.acts_after_stop (empty : ∀ n, t.inside n = none) {during : List Happening}
    {db db' : Database} {m : Nat} {db₁ : Database} {last : List Happening} (other : c ≠ .stop)
    (runs : t.Runs (before ++ .looked n .stop db ::
      (during ++ .acted n .stop db' :: (after ++ .acted m c db₁ :: last))) t'') :
    (∃ db₀, .looked m c db₀ ∈ before) ∨
      ComesAfterStart (during ++ .acted n .stop db' :: after) m c := by
  obtain ⟨t₁, earlier, -, -, rest⟩ := runs.looking
  have split : during ++ .acted n .stop db' :: (after ++ .acted m c db₁ :: last) =
      (during ++ .acted n .stop db' :: after) ++ .acted m c db₁ :: last := by
    rw [List.append_assoc, List.cons_append]
  rw [split] at rest
  obtain ⟨t₂, since, inside, -, -⟩ := rest.acting
  have stopped : (t₁.looking .stop).database.running = false := rfl
  obtain there | later := since.began stopped inside
  · have there : t₁.inside m = some c := by
      obtain there | ⟨own, -⟩ := (Step.look .stop).inside there
      · exact there
      · cases own
        exact absurd rfl other
    obtain nobody | ⟨_, _, t₀, rfl, -, -⟩ := earlier.inside there
    · cases (empty m).symm.trans nobody
    · exact .inl ⟨t₀.database, List.mem_append_right _ List.mem_cons_self⟩
  · exact .inr later

/-- What becomes of the rows of a table once a stop has discarded what was pending. -/
lemma Runs.rows_after_stop {during : List Happening} {db db' : Database}
    (runs : t.Runs (before ++ .looked n .stop db :: (during ++ .acted n .stop db' :: after)) t'')
    (name : String) :
    ∃ more, t''.database.committedIn name = db'.committedIn name ++ more ∧
      (more ++ t''.database.pendingIn name).Sublist (landed name after) := by
  obtain ⟨t₁, -, -, -, since⟩ := runs.looking
  obtain ⟨t₂, -, -, rfl, rest⟩ := since.acting
  obtain ⟨same, discarded⟩ := t₂.rows_acting_stop n name
  obtain ⟨more, committed, sublist⟩ := rest.rows name
  rw [same] at committed
  rw [discarded] at sublist
  exact ⟨more, committed, sublist⟩

/-- Nothing is put into a table once a stop has discarded what was pending, as long as the database
is not started and no insertion that has looked before the stop acts. -/
lemma Runs.landed_after_stop (empty : ∀ n, t.inside n = none) {during : List Happening}
    {db db' : Database}
    (runs : t.Runs (before ++ .looked n .stop db :: (during ++ .acted n .stop db' :: after)) t'')
    (spared : ¬Overtaken before after) (quiet : ∀ k db₀, .looked k .start db₀ ∉ during ++ after)
    (name : String) : landed name after = [] := by
  refine List.flatMap_eq_nil_iff.2 fun x mem => ?_
  cases x with
  | looked => rfl
  | acted m c db₁ =>
    by_contra lands
    obtain ⟨table, scope, row, rfl⟩ := insert_of_lands lands
    obtain ⟨first, last, split⟩ := List.append_of_mem mem
    rw [split] at runs
    have other : DatabaseCall.insert table scope row ≠ .stop := nofun
    obtain ⟨db₀, looked⟩ | ⟨earlier, later, db₀, same, k, db₂, start⟩ :=
      runs.acts_after_stop empty other
    · exact spared ⟨m, table, scope, row, db₀, db₁, looked, mem⟩
    · have start : .looked k .start db₂ ∈ during ++ .acted n .stop db' :: first :=
        same ▸ List.mem_append_left _ start
      refine quiet k db₂ ?_
      rw [split]
      simp only [List.mem_append, List.mem_cons, reduceCtorEq, false_or] at start ⊢
      exact start.imp_right .inl

/-- Stopping a database while other calls are under way. In a database that is stopped and that no
stop has still to act on, rows are pending only if they were put into it while it was stopped. Once
a stop has acted, whatever acts but another stop has looked before the stop, or comes after a start
that comes after the stop has looked; and only rows that such insertions put in are pending or are
committed from then on. So as long as no insertion that has looked before the stop acts after it,
and the database is not started again, nothing is pending and nothing more is committed. -/
theorem stop_discards_unless_overtaken {t : Usage} (empty : ∀ n, t.inside n = none)
    (moves : List Move) :
    let hs := (t.follow moves).1
    let t' := (t.follow moves).2
    ((t.database.running = false → ∀ name, t.database.pendingIn name = []) →
      t'.database.running = false → (∀ n, t'.inside n ≠ some .stop) →
      ∀ name, (t'.database.pendingIn name).Sublist (landed name (hs.filter Happening.isLate))) ∧
    ∀ before n db during db' after,
      hs = before ++ .looked n .stop db :: (during ++ .acted n .stop db' :: after) →
      (∀ name, ∃ more, t'.database.committedIn name = db'.committedIn name ++ more ∧
        (more ++ t'.database.pendingIn name).Sublist (landed name after)) ∧
      (∀ first m c db₁ last, after = first ++ .acted m c db₁ :: last → c ≠ .stop →
        (∃ db₀, .looked m c db₀ ∈ before) ∨
          ComesAfterStart (during ++ .acted n .stop db' :: first) m c) ∧
      (¬Overtaken before after → (∀ k db₀, .looked k .start db₀ ∉ during ++ after) →
        ∀ name, t'.database.committedIn name = db'.committedIn name ∧
          t'.database.pendingIn name = []) := by
  intro hs t'
  have runs : t.Runs hs t' := follow_runs moves t
  refine ⟨runs.pending_of_stopped, fun before n db during db' after happens => ?_⟩
  rw [happens] at runs
  refine ⟨runs.rows_after_stop, ?_, fun spared quiet name => ?_⟩
  · rintro first m c db₁ last rfl other
    exact runs.acts_after_stop empty other
  · obtain ⟨more, committed, sublist⟩ := runs.rows_after_stop name
    rw [runs.landed_after_stop empty spared quiet, List.sublist_nil,
      List.append_eq_nil_iff] at sublist
    obtain ⟨rfl, pending⟩ := sublist
    exact ⟨committed.trans (List.append_nil _), pending⟩

section Guestbook

/-- A database that runs, with a table in which there is no row. -/
def guestbook : Usage where
  database :=
    { running := true
      tables := ⟨[("visits", { descriptor := ⟨"visits", [⟨"name", .text⟩], false, false⟩ })]⟩ }

/-- A row for that table. -/
def guestRow : StoredRow := ⟨{}, ({} : Row).put "name" (.string "walker")⟩

/-- The call that inserts the row. -/
def signing : DatabaseCall := .insert "visits" guestRow.scope guestRow.row

/-- An insertion acts while the database is being stopped, and another one comes after that. -/
def closing : List Move := [.enter signing, .enter .stop, .act 0, .act 1, .enter signing]

/-- The row that was put in meanwhile is discarded. -/
theorem stop_discards_of_closing :
    (∀ n, guestbook.inside n = none) ∧
    (guestbook.follow (closing.take 3)).2.database.pendingIn "visits" = [guestRow] ∧
    ∀ name, (guestbook.follow closing).2.database.pendingIn name = [] := by
  have empty : ∀ n, guestbook.inside n = none := fun _ => rfl
  have staged : (guestbook.follow (closing.take 3)).2.database.pendingIn "visits" = [guestRow] := by
    decide
  obtain ⟨-, stops⟩ := stop_discards_unless_overtaken empty closing
  obtain ⟨-, -, quiet⟩ := stops [.looked 0 signing _] 1 _ [.acted 0 signing _] _
    [.looked 2 signing _] rfl
  refine ⟨empty, staged, fun name => (quiet ?_ ?_ name).2⟩
  · rintro ⟨m, table, scope, row, db, db', -, acted⟩
    cases List.mem_singleton.1 acted
  · intro k db start
    simp only [signing, List.cons_append, List.nil_append, List.mem_cons, List.not_mem_nil,
      Happening.looked.injEq, reduceCtorEq, false_and, and_false, or_false] at start

/-- An insertion looks, the database is stopped, and the insertion acts; then the database is
started again, and somebody commits. -/
def lateSigning : List Move :=
  [.enter signing, .enter .stop, .act 1, .act 0, .enter .start, .enter .commit, .act 3]

/-- Somebody else stops the database while it is being stopped. -/
def closingTwice : List Move := [.enter signing, .act 0, .enter .stop, .enter .stop]

/-- A row that is put into a database once it has been stopped is pending there, and it is committed
when the database runs again. A stop that finds the database stopped is over at once, and a row can
be pending then which the other stop has yet to discard. -/
theorem overtaken_insertion_is_committed :
    let late := (guestbook.follow (lateSigning.take 4)).2
    let twice := (guestbook.follow closingTwice).2
    (∃ db, (guestbook.follow (lateSigning.take 3)).1.getLast? = some (.acted 1 .stop db)) ∧
    .enter .start ∉ lateSigning.take 4 ∧
    late.database.running = false ∧ late.database.pendingIn "visits" = [guestRow] ∧
    (guestbook.follow lateSigning).2.database.committedIn "visits" = [guestRow] ∧
    twice.inside 2 = none ∧ twice.database.running = false ∧
    twice.database.pendingIn "visits" = [guestRow] := by
  have stopped :
      ∃ db, (guestbook.follow (lateSigning.take 3)).1.getLast? = some (.acted 1 .stop db) :=
    ⟨_, rfl⟩
  intro late twice
  refine ⟨stopped, ?_⟩
  decide

end Guestbook

end Usage

end Cadence
