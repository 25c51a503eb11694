import TypedSql.Schema.Column
import TypedSql.Text.Identifier

/-!
# Faults of table declarations

## Main definitions

* `Fault` — what can be wrong with a declaration, or with a row that is written to a table.
* `Fault.ofDeclaration?` — the first fault of a declaration.
-/

set_option autoImplicit false

namespace TypedSql

open Text (IsIdentifier)

/-- What can be wrong with a declaration, or with a row that is written to a table. -/
inductive Fault where
  | tableName (name : String)
  | noColumns
  | columnName (name : String)
  | nestedNullable (column : String)
  | declaredTwice (column : String)
  | autoIncrementNoKey (column : String)
  | autoIncrementKind (column : String) (kind : Kind)
  | reference (column : String) (target : ForeignKey)
  | cascadeAlone (column : String)
  | twoAutoIncrements
  | autoIncrementInKey
  /-- A row with a wrong number of cells. -/
  | cellCount (cells columns : Nat)
  /-- A statement that finds its row by key, on a table without one. -/
  | keyRequired
  /-- An update of a table that consists of its key. -/
  | nothingToUpdate
  deriving DecidableEq, Repr

namespace Fault

/-- The fault in words. -/
def message : Fault → String
  | .tableName name => s!"`{name}` is not a valid table name"
  | .noColumns => "a table needs at least one column"
  | .columnName name => s!"`{name}` is not a valid column name"
  | .nestedNullable c => s!"column {c} has a nested nullable kind"
  | .declaredTwice c => s!"column {c} is declared twice"
  | .autoIncrementNoKey c => s!"auto-increment column {c} must be a primary key"
  | .autoIncrementKind c k =>
    s!"auto-increment column {c} must be a non-nullable integer, found {k.display}"
  | .reference c fk => s!"column {c} references `{fk.table}.{fk.column}`, expected `table.column`"
  | .cascadeAlone c => s!"column {c} cascades deletes but references no table"
  | .twoAutoIncrements => "more than one auto-increment primary key"
  | .autoIncrementInKey => "an auto-increment key cannot be part of a composite primary key"
  | .cellCount cells columns => s!"produced {cells} values for {columns} columns"
  | .keyRequired => "a primary key is required"
  | .nothingToUpdate => "no non-key column to update"

/-- The fault of an auto-increment column on its own. -/
def ofAutoIncrement? (c : Column) : Option Fault :=
  if !c.autoIncrement then none
  else if !c.primaryKey then some (.autoIncrementNoKey c.name)
  else if c.kind ≠ .plain .integer then some (.autoIncrementKind c.name c.kind)
  else none

/-- The fault of the foreign key of a column. -/
def ofReference? (c : Column) : Option Fault :=
  match c.references with
  | some fk =>
    if IsIdentifier fk.table ∧ IsIdentifier fk.column then none else some (.reference c.name fk)
  | none => if c.cascade then some (.cascadeAlone c.name) else none

/-- The first fault of a column that follows columns of the given names. -/
def ofColumn? (earlier : List String) (c : Column) : Option Fault :=
  if ¬ IsIdentifier c.name then some (.columnName c.name)
  else if !c.kind.isWellFormed then some (.nestedNullable c.name)
  else if c.name ∈ earlier then some (.declaredTwice c.name)
  else (ofAutoIncrement? c).or (ofReference? c)

/-- The first fault of one of the columns, taken in order. -/
def ofColumns? (earlier : List String) : List Column → Option Fault
  | [] => none
  | c :: cs => (ofColumn? earlier c).or (ofColumns? (earlier ++ [c.name]) cs)

/-- The fault of the auto-increment columns together. -/
def ofKeys? (columns : List Column) : Option Fault :=
  let autos := columns.countP (·.autoIncrement)
  if 1 < autos then some .twoAutoIncrements
  else if autos = 1 ∧ 1 < columns.countP (·.primaryKey) then some .autoIncrementInKey
  else none

/-- The first fault of a declaration: of its name, of its columns in order, of its keys. -/
def ofDeclaration? (name : String) (columns : List Column) : Option Fault :=
  if ¬ IsIdentifier name then some (.tableName name)
  else if columns.isEmpty then some .noColumns
  else (ofColumns? [] columns).or (ofKeys? columns)

end Fault

end TypedSql
