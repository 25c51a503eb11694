import TypedSql.Connection.Url
import TypedSql.Schema.Rows
import TypedSql.Store.Run

/-!
# Databases

A database is a registry of tables and a store. It assembles statements from table types, rows and
compiled filters, runs them on the store, and reads rows back.

## Main definitions

* `DatabaseError` — why an operation fails.
* `Database` — the registry and the store.
* `Database.connect` — opens a database.
* `Database.createTable`, `insert`, `upsert`, `update`, `delete` — changes.
* `Database.find`, `findOptional`, `findAll`, `anyRow` — what a query answers.
-/

set_option autoImplicit false

namespace TypedSql

/-- Why an operation on a database fails. -/
inductive DatabaseError where
  /-- A table, a filter, an argument or a row is refused. -/
  | refused (e : Error)
  /-- The store refuses a statement. -/
  | store (e : StoreError)
  /-- The URL cannot be read. -/
  | url
  /-- No row passes a filter. -/
  | notFound (table : String)
  deriving DecidableEq, Repr

/-- The text of the error that no row passes a filter. -/
def notFoundMessage (table : String) : String := s!"no row found in {table}"

/-- A registry of tables and a store. -/
structure Database where
  registry : Registry := {}
  store : Store := {}

/-- An operation on a database. What it registers or logs stays if it fails. -/
abbrev DatabaseAction (α : Type) := ExceptT DatabaseError (StateM Database) α

namespace Database

/-- Opens a database. -/
def connect (c : ConnectionConfig) : Except DatabaseError Database :=
  match c.fileName? with
  | none => .error .url
  | some _ =>
    .ok { registry := { log := [.connected c.url c.poolSize] }
          store := { enforceForeignKeys := c.foreignKeys } }

/-- The same store with a new registry. -/
def freshRegistry (db : Database) : Database := { db with registry := {} }

/-- A computation on the registry of the database. -/
def withRegistry {α : Type} (act : Registering α) : DatabaseAction α := fun db =>
  let (result, registry) := act db.registry
  (result.mapError .refused, { db with registry })

/-- A computation that may be refused. -/
def refusing {α : Type} (result : Except Error α) : DatabaseAction α :=
  ExceptT.mk (pure (result.mapError .refused))

/-- Logs an event. -/
def logEvent (e : Event) : DatabaseAction Unit := withRegistry (Registry.logEvent e)

/-- Runs a statement on the store. -/
def runOnStore (s : Statement) : DatabaseAction Outcome := fun db =>
  match db.store.run s with
  | .ok (outcome, store) => (.ok outcome, { db with store })
  | .error e => (.error (.store e), db)

/-- Logs a statement and runs it. -/
def execute (s : Statement) : DatabaseAction Outcome := do
  logEvent (.executing s.text (some s.params.length))
  runOnStore s

/-! ## Changes -/

/-- Runs the commands that create a table and its indexes. -/
def createAll : List Command → DatabaseAction Unit
  | [] => return
  | c :: cs => do
    logEvent (.executing c.text none)
    let _ ← runOnStore ⟨c, []⟩
    createAll cs

/-- Creates the table of a table type and its indexes, where they do not exist. -/
def createTable (t : TableType) : DatabaseAction Unit := do
  createAll (← withRegistry (Statement.creation t))
  logEvent (.created t.name)

/-- Adds a row; answers its number. -/
def insert (t : TableType) (row : List Cell) : DatabaseAction Int := do
  match ← execute (← withRegistry (Statement.insert t row)) with
  | .inserted n => return n
  | _ => return 0

/-- Adds a row, or updates the one with the same key. -/
def upsert (t : TableType) (row : List Cell) : DatabaseAction Unit := do
  let _ ← execute (← withRegistry (Statement.upsert t row))

/-- The number of changed rows. -/
def changedRows : Outcome → Nat
  | .changed n => n
  | _ => 0

/-- Updates the row with the key of the given one; answers the number of changed rows. -/
def update (t : TableType) (row : List Cell) : DatabaseAction Nat := do
  return changedRows (← execute (← withRegistry (Statement.update t row)))

/-- Deletes the rows that pass a filter; answers their number. -/
def delete (q : Query) (args : List Cell) : DatabaseAction Nat := do
  return changedRows (← execute (← refusing (q.statement .delete args)))

/-! ## Reading -/

/-- A stored value as a cell of a scalar kind; other stored types cannot be read. -/
def readDatum? (s : Scalar) (x : Datum) : Option Cell :=
  match s, x with
  | _, .null => some .null
  | .integer, .int n | .timestamp, .int n => some (.int (Int64.ofInt n))
  | .boolean, .int n => some (.bool (n != 0))
  | .real, .real r => some (.real r)
  | .text, .text t | .dateTime, .text t => some (.text t)
  | .blob, .blob bytes => some (.blob bytes)
  | _, _ => none

/-- The cells of a stored row for some columns, which are taken in order. -/
def readRow : List Column → List Datum → Except StoreError (List Cell)
  | [], _ => .ok []
  | c :: _, [] => .error (.noColumn c.name)
  | c :: cs, x :: xs =>
    match readDatum? c.kind.scalar x with
    | some cell => (readRow cs xs).map (cell :: ·)
    | none => .error .storedType

/-- A stored row as a row of the query's table type. -/
def decodeRow (q : Query) (r : StoredRow) : Except DatabaseError (List Cell) :=
  match readRow q.table.columns r.values with
  | .error e => .error (.store e)
  | .ok cells => (q.source.recode cells).mapError .refused

/-- The rows of an outcome. -/
def outcomeRows : Outcome → List StoredRow
  | .rows rs => rs
  | _ => []

/-- Compiles a filter over a table type. -/
def query (t : TableType) (filter : Expr) : DatabaseAction Query :=
  withRegistry (Query.compile t filter)

/-- The first row that passes a filter, if there is one. -/
def findOptional (q : Query) (args : List Cell) : DatabaseAction (Option (List Cell)) := do
  match outcomeRows (← execute (← refusing (q.statement .findOne args))) with
  | [] => return none
  | r :: _ => return some (← ExceptT.mk (pure (decodeRow q r)))

/-- The first row that passes a filter. -/
def find (q : Query) (args : List Cell) : DatabaseAction (List Cell) := do
  match ← findOptional q args with
  | some row => return row
  | none => throw (.notFound q.table.name)

/-- The rows that pass a filter, in order. -/
def findAll (q : Query) (args : List Cell) : DatabaseAction (List (List Cell)) := do
  let rows := outcomeRows (← execute (← refusing (q.statement .find args)))
  ExceptT.mk (pure (rows.mapM (decodeRow q)))

/-- Whether a row passes a filter. -/
def anyRow (q : Query) (args : List Cell) : DatabaseAction Bool := do
  match ← execute (← refusing (q.statement .existence args)) with
  | .found any => return any
  | _ => return false

end Database

end TypedSql
