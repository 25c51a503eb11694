import TypedSql.Store.Basic

/-!
# Running statements

## Main definitions

* `Outcome` — what a statement answers.
* `Store.insert`, `Store.upsert`, `Store.update`, `Store.delete` — the statements that change rows.
* `Store.run` — runs a statement.

## Main results

* `Store.run_find` — a query does not change the store.
-/

set_option autoImplicit false

namespace TypedSql

/-- What a statement answers. -/
inductive Outcome where
  | done
  /-- The number of a new row. -/
  | inserted (number : Int)
  /-- The number of rows that were changed. -/
  | changed (rows : Nat)
  | rows (rows : List StoredRow)
  | found (any : Bool)
  deriving DecidableEq, Repr

namespace Store

/-- A new row for the given columns of a table, none of whose values is NULL where it may not
be. -/
def makeRow (t : StoredTable) (columns : List String) (values : List Datum) :
    Except StoreError StoredRow := do
  if columns.isEmpty then throw .emptyList
  let row ← t.newRow (← t.places columns) values
  match t.nullFault? row with
  | some e => throw e
  | none => return row

/-- Adds a row. -/
def insert (s : Store) (table : String) (columns : List String) (values : List Datum) :
    Except StoreError (Int × Store) := do
  let t ← s.table table
  s.checkReferences t (t.declared.columns.map (·.name))
  let row ← makeRow t columns values
  let t := t.insertRow row
  return (row.number, ← (s.put t).checked t)

/-- Replaces rows of a table by a function that gives some columns new values. -/
def changeRows (s : Store) (t : StoredTable) (columns : List String)
    (change : StoredRow → StoredRow) (chosen : StoredRow → Bool) : Except StoreError Store := do
  s.checkReferences t columns
  let rows := t.rows.map fun r => if chosen r then change r else r
  match (rows.filter chosen).findSome? t.nullFault? with
  | some e => throw e
  | none =>
    let t := { t with rows }
    (s.put t).checked t

/-- Adds a row. If there is one with the same key, it is that row whose updated columns take the
new values; without updated columns nothing changes. -/
def upsert (s : Store) (table : String) (columns keys updated : List String)
    (values : List Datum) : Except StoreError Store := do
  let t ← s.table table
  s.checkReferences t (t.declared.columns.map (·.name))
  let places ← t.places keys
  let assigned ← t.places updated
  if !(s.uniquePlaces t).any fun u => u.isPerm places then throw .noSuchKey
  let row ← makeRow t columns values
  match t.rows.find? (·.clashes places row) with
  | none =>
    let t := t.insertRow row
    (s.put t).checked t
  | some old =>
    s.changeRows t updated (t.assign assigned (assigned.map row.value)) (·.number == old.number)

/-- Gives the rows with a given key new values in some columns; answers how many there are. -/
def update (s : Store) (table : String) (assigned keys : List String) (values : List Datum) :
    Except StoreError (Nat × Store) := do
  let t ← s.table table
  let places ← t.places assigned
  let keyPlaces ← t.places keys
  let wanted := keyPlaces.zip (values.drop assigned.length)
  let chosen (r : StoredRow) : Bool := wanted.all fun (i, x) => (r.value i).equals x
  let s ← s.changeRows t assigned (t.assign places (values.take assigned.length)) chosen
  return (t.rows.countP chosen, s)

/-- Deletes the rows that pass a condition, and the rows that go with them; answers how many rows
passed. -/
def delete (s : Store) (table : String) (c : Condition) (params : List Datum) :
    Except StoreError (Nat × Store) := do
  let t ← s.table table
  s.checkReferences t (t.declared.columns.map (·.name))
  let gone ← s.matching t c params
  let t := { t with rows := t.rows.filter fun r => !gone.any (·.number == r.number) }
  let s := s.put t
  let s := if s.enforceForeignKeys then cascade (s.rowCount + 1) s t gone else s
  return (gone.length, ← s.checked t)

/-- The rows of a table that pass a condition, in the order of sort keys. -/
def find (s : Store) (table : String) (c : Condition) (order : List OrderTerm)
    (params : List Datum) : Except StoreError (List StoredRow) := do
  let t ← s.table table
  sortRows t order (← s.matching t c params)

/-- Runs a statement; one that fails changes nothing. -/
def run (s : Store) (statement : Statement) : Except StoreError (Outcome × Store) := do
  let params := statement.params.map Cell.toDatum
  match statement.command with
  | .filter .find table c order => return (.rows (← s.find table c order params), s)
  | .filter .findOne table c order =>
    return (.rows ((← s.find table c order params).take 1), s)
  | .filter .existence table c _ => return (.found !(← s.find table c [] params).isEmpty, s)
  | .filter .delete table c _ =>
    let (n, s) ← s.delete table c params
    return (.changed n, s)
  | .insert table columns =>
    let (n, s) ← s.insert table columns params
    return (.inserted n, s)
  | .upsert table columns keys updated =>
    return (.done, ← s.upsert table columns keys updated params)
  | .update table assigned keys =>
    let (n, s) ← s.update table assigned keys params
    return (.changed n, s)
  | .createTable t => return (.done, ← s.createTable t)
  | .createIndex table column index => return (.done, ← s.createIndex table column index)

/-- A query does not change the store. -/
theorem run_find {s s' : Store} {table : String} {c : Condition} {order : List OrderTerm}
    {params : List Cell} {outcome : Outcome}
    (h : s.run ⟨.filter .find table c order, params⟩ = .ok (outcome, s')) : s' = s := by
  simp only [run, bind, Except.bind, pure, Except.pure] at h
  split at h
  · cases h
  · cases h
    rfl

end Store

end TypedSql
