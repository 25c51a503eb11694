import TypedSql.Kind

/-!
# Columns

## Main definitions

* `ForeignKey` — the column of another table that a column refers to.
* `Index` — a plain or a unique index.
* `Column` — the declaration of a column, and the functions that add to it.
-/

set_option autoImplicit false

namespace TypedSql

/-- The column of a table that another column refers to. -/
structure ForeignKey where
  table : String
  column : String
  deriving DecidableEq, Repr

/-- The indexes that a column may have. -/
inductive Index where
  | plain
  | unique
  deriving DecidableEq, Repr

/-- The declaration of a column. -/
structure Column where
  name : String
  kind : Kind
  /-- Part of the primary key. -/
  primaryKey : Bool := false
  /-- A primary key that the database counts up. -/
  autoIncrement : Bool := false
  references : Option ForeignKey := none
  /-- Rows go when the row they refer to is deleted. -/
  cascade : Bool := false
  index : Option Index := none
  deriving DecidableEq, Repr

namespace Column

/-- A column with nothing but a name and a kind. -/
def new (name : String) (kind : Kind) : Column := { name, kind }

/-- Makes the column a part of the primary key. -/
def asKey (c : Column) : Column := { c with primaryKey := true }

/-- Makes the column a primary key that the database counts up. -/
def asAutoKey (c : Column) : Column := { c with primaryKey := true, autoIncrement := true }

/-- Lets the column refer to a column of another table. -/
def referring (table column : String) (c : Column) : Column :=
  { c with references := some ⟨table, column⟩ }

/-- Lets the rows go with the row they refer to. -/
def cascading (c : Column) : Column := { c with cascade := true }

/-- Gives the column an index. -/
def indexed (index : Index) (c : Column) : Column := { c with index := some index }

end Column

end TypedSql
