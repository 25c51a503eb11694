import TypedSql.Error

/-!
# Orders

## Main definitions

* `Direction` — the directions of a sort key.
* `OrderRequest` — a sort key as it is asked for, `OrderTerm` — one that has been checked.
* `OrderRequest.resolveAll` — checks sort keys against a table, in order.
* `OrderTerm.clause` — the `ORDER BY` clause, with the blank before it.
-/

set_option autoImplicit false

namespace TypedSql

open Sql (Piece)

/-- The directions of a sort key. The last two sort upwards and say where NULL stands. -/
inductive Direction where
  | ascending
  | descending
  | nullsFirst
  | nullsLast
  deriving DecidableEq, Repr

namespace Direction

/-- The keywords of a direction. -/
def keywords : Direction → List String
  | .ascending => ["ASC"]
  | .descending => ["DESC"]
  | .nullsFirst => ["NULLS", "FIRST"]
  | .nullsLast => ["NULLS", "LAST"]

/-- The keywords of a direction as text. -/
def text (d : Direction) : String := Sql.spell (Sql.words d.keywords)

/-- Whether the direction has a meaning only for a column that may be NULL. -/
def requiresNullable : Direction → Bool
  | .nullsFirst | .nullsLast => true
  | .ascending | .descending => false

/-- The directions and the calls that ask for them. -/
def calls : List (String × Direction) :=
  [("asc", .ascending), ("desc", .descending), ("nulls_first", .nullsFirst),
    ("nulls_last", .nullsLast)]

end Direction

/-- A sort key as it is asked for. -/
structure OrderRequest where
  column : String
  direction : Direction
  site : Site
  deriving DecidableEq, Repr

/-- A sort key that has been checked. -/
structure OrderTerm where
  column : String
  direction : Direction
  deriving DecidableEq, Repr

namespace OrderTerm

/-- The SQL text of a sort key. -/
def pieces (t : OrderTerm) : List Piece :=
  Sql.word t.column ++ Sql.blank ++ Sql.words t.direction.keywords

/-- The `ORDER BY` clause after a blank; without sort keys there is none. -/
def clause (ts : List OrderTerm) : List Piece :=
  if ts.isEmpty then []
  else Sql.blank ++ Sql.words ["ORDER", "BY"] ++ Sql.blank ++ Sql.commaList (ts.map pieces)

end OrderTerm

namespace OrderRequest

/-- Checks a sort key: the table has the column, and the column may be NULL if the direction needs
it. -/
def resolve (table : Table) (r : OrderRequest) : Except Error OrderTerm :=
  match table.column? r.column with
  | none => .error (.unknownColumn r.site r.column table.name)
  | some c =>
    if r.direction.requiresNullable && !c.kind.isNullable then
      .error (.notNullable r.site c.name)
    else .ok ⟨c.name, r.direction⟩

/-- Checks sort keys in order; the first fault is reported. -/
def resolveAll (table : Table) (rs : List OrderRequest) : Except Error (List OrderTerm) :=
  rs.mapM (resolve table)

end OrderRequest

end TypedSql
