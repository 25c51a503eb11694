import TypedSql.Schema.Table
import TypedSql.Sql.Lexeme
import TypedSql.Store.Datum

/-!
# Stored tables

A stored table has the declaration that it was created from, and its rows by their row numbers.
The value of a column is stored in the form of the column's type. A table whose primary key is one
integer column has that column's values as row numbers.

## Main definitions

* `StoreError` — why a statement fails.
* `StoredTable` — tables with their rows.
* `StoredTable.newRow` — a row from the values of some columns.
* `StoredTable.nullFault?`, `StoredTable.distinctOn` — the constraints of a table.
-/

set_option autoImplicit false

namespace TypedSql

/-- Why a statement fails. -/
inductive StoreError where
  | noTable (name : String)
  | noColumn (name : String)
  | reservedWord (name : String)
  /-- A name that the store keeps for itself. -/
  | internalName (name : String)
  /-- A table that has the name of an index, or an index that has the name of a table. -/
  | nameTaken (name : String)
  | duplicateColumn
  /-- A list of columns or values is empty. -/
  | emptyList
  /-- The key of an upsert is not the key of the table. -/
  | noSuchKey
  /-- A row number that is no integer. -/
  | rowNumber
  /-- No row number is left. -/
  | full
  | null (column : String)
  | duplicate
  | foreignKey
  /-- A foreign key that refers to a table or a column that cannot be referred to. -/
  | reference
  | overflow
  /-- A stored value of another type than the one that is read. -/
  | storedType
  deriving DecidableEq, Repr

/-- Whether two names are the same, regardless of the case of ASCII letters. -/
def sameName (s t : String) : Bool := s.map Char.toLower == t.map Char.toLower

/-- A row with its number and one value for each column. -/
structure StoredRow where
  number : Int
  values : List Datum
  deriving DecidableEq, Repr

namespace StoredRow

/-- The value at a place; outside the row it is NULL. -/
def value (r : StoredRow) (i : Nat) : Datum := r.values[i]?.getD .null

/-- Whether two rows have the same values, none NULL, at some places. -/
def clashes (places : List Nat) (r s : StoredRow) : Bool :=
  places.all fun i => (r.value i).equals (s.value i)

end StoredRow

/-- The stored form of a value in a column of a scalar kind: an integer becomes a real in a real
column and a text in a text column, and a whole real becomes an integer in an integer column. In a
real column zero has no sign. -/
def Scalar.store (s : Scalar) (x : Datum) : Datum :=
  match s, x with
  | .real, .int n => .real (.ofInt n)
  | .real, .real r => if (r.value?.map (·.compare (.ofInt 0))) = some .eq then .real .zero else x
  | .integer, .real r | .boolean, .real r | .timestamp, .real r =>
    match r.value? with
    | some (.rational n d) =>
      if n % d = 0 ∧ Datum.leastInt ≤ n / d ∧ n / d ≤ Datum.greatestInt then .int (n / d) else x
    | _ => x
  | .text, .int n | .dateTime, .int n => .text (String.ofList (Cell.intChars n))
  | _, _ => x

/-- A table with its rows, in the order of their numbers. -/
structure StoredTable where
  declared : Table
  rows : List StoredRow := []
  /-- The greatest row number that there has ever been, for an auto-increment key. -/
  lastNumber : Int := 0

namespace StoredTable

/-- The name of the table. -/
def name (t : StoredTable) : String := t.declared.name

/-- The place of a column. -/
def place? (t : StoredTable) (column : String) : Option Nat :=
  t.declared.columns.findIdx? fun c => sameName c.name column

/-- The places of some columns, all of which must exist. -/
def places (t : StoredTable) (columns : List String) : Except StoreError (List Nat) :=
  columns.mapM fun c =>
    match t.place? c with
    | some i => .ok i
    | none => .error (.noColumn c)

/-- The places of the key columns. -/
def keyPlaces (t : StoredTable) : List Nat := t.declared.keyNames.filterMap t.place?

/-- The place of the column whose values are the row numbers. -/
def numberPlace? (t : StoredTable) : Option Nat :=
  match t.declared.keys with
  | [c] => if c.kind.sqlType = "INTEGER" then t.place? c.name else none
  | _ => none

/-- The number of the next row: one more than the greatest there is, and for an auto-increment key
one more than the greatest there has ever been. -/
def nextNumber (t : StoredTable) : Except StoreError Int :=
  let present := t.rows.foldl (fun (m : Option Int) r => some (max r.number (m.getD r.number))) none
  let last :=
    if t.declared.autoIncrement?.isSome then max (present.getD 0) t.lastNumber
    else present.getD 0
  if last < Datum.greatestInt then .ok (last + 1) else .error .full

/-- The values of a row, from the values of the columns at some places. -/
def rowValues (t : StoredTable) (places : List Nat) (given : List Datum) : List Datum :=
  t.declared.columns.mapIdx fun i c =>
    match (places.zip given).lookup i with
    | some x => c.kind.scalar.store x
    | none => .null

/-- A new row, from the values of the columns at some places. -/
def newRow (t : StoredTable) (places : List Nat) (given : List Datum) :
    Except StoreError StoredRow := do
  let values := t.rowValues places given
  match t.numberPlace? with
  | none => return ⟨← t.nextNumber, values⟩
  | some i =>
    match values[i]?.getD .null with
    | .int n => return ⟨n, values⟩
    | .null =>
      let n ← t.nextNumber
      return ⟨n, values.set i (.int n)⟩
    | _ => throw .rowNumber

/-- Adds a row at the place of its number. -/
def insertRow (t : StoredTable) (r : StoredRow) : StoredTable :=
  { t with
    rows := t.rows.takeWhile (·.number ≤ r.number) ++ r :: t.rows.dropWhile (·.number ≤ r.number)
    lastNumber := max t.lastNumber r.number }

/-- A row in which the columns at some places have new values. -/
def assign (t : StoredTable) (places : List Nat) (given : List Datum) (r : StoredRow) :
    StoredRow :=
  let assigned := t.rowValues places given
  { r with values := r.values.mapIdx fun i x => if i ∈ places then assigned[i]?.getD x else x }

/-! ## Constraints -/

/-- The first column of a row that may not be NULL and is. -/
def nullFault? (t : StoredTable) (r : StoredRow) : Option StoreError :=
  (t.declared.columns.zip r.values).findSome? fun (c, x) =>
    if x.isNull && !c.kind.isNullable && !c.autoIncrement then some (.null c.name) else none

/-- Whether no two rows of a list clash at some places. -/
def distinctOn (places : List Nat) : List StoredRow → Bool
  | [] => true
  | r :: rs => rs.all (fun s => !r.clashes places s) && distinctOn places rs

end StoredTable

end TypedSql
