import TypedSql.FieldType
import TypedSql.Schema.Fault

/-!
# Tables

A *table type* is a declaration as a program writes it; two table types may declare the same SQL
name and still be different. A *table* is a declaration that has been accepted.

## Main definitions

* `TableType` — a declaration with its identity.
* `Table` — an accepted declaration.
* `Table.declare` — accepts a declaration or reports its first fault.
-/

set_option autoImplicit false

namespace TypedSql

/-- A declaration of a table. Its label tells apart declarations that are otherwise equal. -/
structure TableType where
  label : String
  /-- The SQL name of the table. -/
  name : String
  columns : List Column
  /-- The types of the fields of its records, in column order; without them, rows are kept as they
  are. -/
  fields : Option (List FieldType) := none
  deriving DecidableEq, Repr

/-- An accepted declaration. -/
structure Table where
  name : String
  columns : List Column
  accepted : Fault.ofDeclaration? name columns = none
  deriving DecidableEq

namespace Table

/-- Accepts a declaration without faults. -/
def declare (name : String) (columns : List Column) : Except Fault Table :=
  match h : Fault.ofDeclaration? name columns with
  | none => .ok ⟨name, columns, h⟩
  | some fault => .error fault

/-- The column of a name. -/
def column? (t : Table) (name : String) : Option Column :=
  t.columns.find? (·.name == name)

/-- The columns of the primary key, in the order of declaration. -/
def keys (t : Table) : List Column := t.columns.filter (·.primaryKey)

/-- The names of the columns of the primary key. -/
def keyNames (t : Table) : List String := t.keys.map (·.name)

/-- The auto-increment column. -/
def autoIncrement? (t : Table) : Option Column := t.columns.find? (·.autoIncrement)

/-- The columns with an index. -/
def indexed (t : Table) : List Column := t.columns.filter (·.index.isSome)

/-- An accepted declaration is kept as it is. -/
theorem declare_eq_ok_iff {name : String} {columns : List Column} {t : Table} :
    declare name columns = .ok t ↔ t.name = name ∧ t.columns = columns := by
  unfold declare
  split
  next h =>
    constructor
    · rintro ⟨⟩
      exact ⟨rfl, rfl⟩
    · rintro ⟨rfl, rfl⟩
      rfl
  next fault h =>
    constructor
    · rintro ⟨⟩
    · rintro ⟨rfl, rfl⟩
      rw [t.accepted] at h
      cases h

/-- A column is found under its own name. -/
theorem name_of_column? {t : Table} {name : String} {c : Column} (h : t.column? name = some c) :
    c.name = name := by
  simpa using List.find?_some h

end Table

namespace TableType

/-- The table of a declaration. -/
def table (t : TableType) : Except Fault Table := Table.declare t.name t.columns

end TableType

end TypedSql
