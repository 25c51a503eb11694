import TypedSql.Query.Basic

/-!
# Commands

A command is a statement without the values of its parameters. Its placeholders are counted from
one in the order of the text.

## Main definitions

* `Operation` — what a compiled filter is used for.
* `Command` — the statements, with `Command.pieces`, their SQL text.
-/

set_option autoImplicit false

namespace TypedSql

open Sql (Piece word words mark blank numeral parenthesized commaList placeholder)

/-- What a compiled filter is used for. -/
inductive Operation where
  /-- Every matching row, in order. -/
  | find
  /-- The first matching row. -/
  | findOne
  /-- Whether any row matches. -/
  | existence
  /-- Delete every matching row. -/
  | delete
  deriving DecidableEq, Repr

/-- The statements, without the values of their parameters. -/
inductive Command where
  /-- Uses a condition on the rows of a table. -/
  | filter (operation : Operation) (table : String) (condition : Condition)
      (order : List OrderTerm)
  /-- Adds a row with the given columns. -/
  | insert (table : String) (columns : List String)
  /-- Adds a row, or updates the one with the same key. -/
  | upsert (table : String) (columns keys updated : List String)
  /-- Updates the row with a given key. -/
  | update (table : String) (assigned keys : List String)
  | createTable (table : Table)
  /-- Creates the index of a column. -/
  | createIndex (table column : String) (index : Index)

namespace Command

/-! ## Filters -/

/-- `FROM table WHERE condition`, after a blank. -/
def fromWhere (table : String) (condition : Condition) : List Piece :=
  blank ++ words ["FROM", table, "WHERE"] ++ blank ++ condition.pieces

/-- `LIMIT 1`, after a blank. -/
def limitOne : List Piece := blank ++ word "LIMIT" ++ blank ++ numeral 1

/-- `SELECT *`. -/
def selectAll : List Piece := word "SELECT" ++ blank ++ mark .star

/-- The text of a use of a condition. -/
def filterPieces (table : String) (c : Condition) (order : List OrderTerm) :
    Operation → List Piece
  | .find => selectAll ++ fromWhere table c ++ OrderTerm.clause order
  | .findOne => selectAll ++ fromWhere table c ++ OrderTerm.clause order ++ limitOne
  | .existence =>
    words ["SELECT", "EXISTS"] ++ blank ++
      parenthesized (word "SELECT" ++ blank ++ numeral 1 ++ fromWhere table c ++ limitOne)
  | .delete => word "DELETE" ++ fromWhere table c

/-! ## Writes -/

/-- The placeholders of `count` parameters from `start` on. -/
def placeholders (start count : Nat) : List (List Piece) :=
  (List.range count).map fun i => placeholder (start + i)

/-- `INSERT INTO table (…) VALUES (…)`, with one placeholder for each column. -/
def insertPieces (table : String) (columns : List String) : List Piece :=
  words ["INSERT", "INTO", table] ++ blank ++ parenthesized (commaList (columns.map word)) ++
    blank ++ word "VALUES" ++ blank ++
    parenthesized (commaList (placeholders 1 columns.length))

/-- `column = other`. -/
def equation (column : String) (other : List Piece) : List Piece :=
  word column ++ blank ++ mark .equal ++ blank ++ other

/-- What an upsert does with a row whose key is taken: it takes over the new values of the updated
columns, and if there are none it does nothing. -/
def conflictPieces (keys updated : List String) : List Piece :=
  words ["ON", "CONFLICT"] ++ blank ++ parenthesized (commaList (keys.map word)) ++ blank ++
    if updated.isEmpty then words ["DO", "NOTHING"]
    else
      words ["DO", "UPDATE", "SET"] ++ blank ++
        commaList (updated.map fun c => equation c (word "excluded" ++ mark .dot ++ word c))

/-- Equations of columns with the placeholders from `start` on. -/
def equations (start : Nat) (columns : List String) : List (List Piece) :=
  List.zipWith equation columns (placeholders start columns.length)

/-- `UPDATE table SET … WHERE …`; the placeholders of the assigned columns come first. -/
def updatePieces (table : String) (assigned keys : List String) : List Piece :=
  words ["UPDATE", table, "SET"] ++ blank ++ commaList (equations 1 assigned) ++ blank ++
    word "WHERE" ++ blank ++
    (blank ++ word "AND" ++ blank).intercalate (equations (assigned.length + 1) keys)

/-! ## Creation -/

/-- Where a foreign key points, and whether rows go with the row they refer to. -/
def referencePieces (c : Column) : List Piece :=
  match c.references with
  | none => []
  | some fk =>
    blank ++ words ["REFERENCES", fk.table] ++ parenthesized (word fk.column) ++
      if c.cascade then blank ++ words ["ON", "DELETE", "CASCADE"] else []

/-- The definition of a column: its name, its type and its constraints. -/
def columnPieces (c : Column) : List Piece :=
  words [c.name, c.kind.sqlType] ++
    (if c.autoIncrement then blank ++ words ["PRIMARY", "KEY", "AUTOINCREMENT"]
    else if c.kind.isNullable then []
    else blank ++ words ["NOT", "NULL"]) ++
    referencePieces c

/-- The names of the key columns that are not counted up by the database. -/
def listedKeys (t : Table) : List String :=
  (t.keys.filter fun c => !c.autoIncrement).map (·.name)

/-- The clause for the primary key, if it is not declared with its column. -/
def keyClauses (t : Table) : List (List Piece) :=
  let keys := listedKeys t
  if keys.isEmpty then []
  else [words ["PRIMARY", "KEY"] ++ blank ++ parenthesized (commaList (keys.map word))]

/-- `CREATE TABLE IF NOT EXISTS table (…)`, with one clause on each line. -/
def createTablePieces (t : Table) : List Piece :=
  words ["CREATE", "TABLE", "IF", "NOT", "EXISTS", t.name] ++ blank ++ mark .opening ++
    [.gap .indentedLine] ++
    List.intercalate (mark .comma ++ [.gap .indentedLine])
      (t.columns.map columnPieces ++ keyClauses t) ++
    [.gap .line] ++ mark .closing

/-- The name of the index of a column. -/
def indexName (table column : String) : Index → String
  | .plain => table ++ "_" ++ column ++ "_index"
  | .unique => table ++ "_" ++ column ++ "_unique"

/-- `CREATE INDEX IF NOT EXISTS name ON table(column)`, unique or not. -/
def createIndexPieces (table column : String) (index : Index) : List Piece :=
  words (["CREATE"] ++ (if index = .unique then ["UNIQUE"] else []) ++
    ["INDEX", "IF", "NOT", "EXISTS", indexName table column index, "ON", table]) ++
    parenthesized (word column)

/-- The SQL text of a command. -/
def pieces : Command → List Piece
  | .filter operation table condition order => filterPieces table condition order operation
  | .insert table columns => insertPieces table columns
  | .upsert table columns keys updated =>
    insertPieces table columns ++ blank ++ conflictPieces keys updated
  | .update table assigned keys => updatePieces table assigned keys
  | .createTable t => createTablePieces t
  | .createIndex table column index => createIndexPieces table column index

/-- The text of a command. -/
def text (c : Command) : String := Sql.spell c.pieces

end Command

end TypedSql
