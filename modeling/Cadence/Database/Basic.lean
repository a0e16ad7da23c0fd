import Cadence.Database.Table

/-!
# The database

Tables in memory. A row that is inserted is pending until the next commit, and stopping the database
discards what is pending. Reading works whether or not the database runs; every change needs it to
run.
-/

namespace Cadence

/-- A row with its scope. -/
structure StoredRow where
  scope : RowScope
  row : Row
  deriving DecidableEq, Repr, Inhabited

/-- A table with its rows, each list in the order of insertion. -/
structure Table where
  descriptor : TableDescriptor
  pending : List StoredRow := []
  committed : List StoredRow := []
  deriving DecidableEq, Repr, Inhabited

/-- The tables by name, and whether the database runs. -/
structure Database where
  running : Bool := false
  tables : OrderedMap String Table := {}
  deriving DecidableEq, Repr, Inhabited

namespace Table

/-- The table without its pending rows. -/
def discard (t : Table) : Table := { t with pending := [] }

/-- The table with its pending rows committed. -/
def commit (t : Table) : Table := { t with pending := [], committed := t.committed ++ t.pending }

/-- The table with one more pending row. -/
def stage (t : Table) (row : StoredRow) : Table := { t with pending := t.pending ++ [row] }

end Table

namespace Database

/-- Start the database. -/
def start (db : Database) : Database := { db with running := true }

/-- Stop the database; what is pending is lost. -/
def stop (db : Database) : Database :=
  if db.running then { running := false, tables := db.tables.mapValues Table.discard } else db

/-- Check that the database runs. -/
def checkRunning (db : Database) : Except DbError Unit :=
  if db.running then .ok () else .error .notRunning

/-- A table by its name. -/
def table (db : Database) (name : String) : Except DbError Table :=
  match db.tables.get? name with
  | some t => .ok t
  | none => .error (.unknownTable name)

/-- Create a table. -/
def create (db : Database) (d : TableDescriptor) : Except DbError Unit × Database :=
  match db.checkRunning with
  | .error e => (.error e, db)
  | .ok () =>
    if db.tables.contains d.name then (.error (.tableExists d.name), db)
    else (.ok (), { db with tables := db.tables.insert d.name { descriptor := d } })

/-- Check that a row can go into a table: the table as it is. -/
def admits (db : Database) (name : String) (scope : RowScope) (row : Row) :
    Except DbError Table := do
  db.checkRunning
  let t ← db.table name
  t.descriptor.validate scope row
  return t

/-- Insert a row; it is pending until the next commit. -/
def insert (db : Database) (name : String) (scope : RowScope) (row : Row) :
    Except DbError Unit × Database :=
  match db.admits name scope row with
  | .error e => (.error e, db)
  | .ok t => (.ok (), { db with tables := db.tables.insert name (t.stage ⟨scope, row⟩) })

/-- Number of pending rows. -/
def pendingRows (db : Database) : Nat := (db.tables.values.flatMap Table.pending).length

/-- Commit every pending row; the answer is their number. -/
def commit (db : Database) : Except DbError Nat × Database :=
  match db.checkRunning with
  | .error e => (.error e, db)
  | .ok () => (.ok db.pendingRows, { db with tables := db.tables.mapValues Table.commit })

/-- The committed rows of a table. -/
def rows (db : Database) (name : String) : Except DbError (List StoredRow) :=
  (db.table name).map Table.committed

/-- The names of the tables, in order. -/
def tableNames (db : Database) : List String := db.tables.keys

/-- The description of a table. -/
def descriptor? (db : Database) (name : String) : Option TableDescriptor :=
  (db.tables.get? name).map Table.descriptor

end Database

end Cadence
