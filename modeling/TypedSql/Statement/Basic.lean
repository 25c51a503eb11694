import TypedSql.Statement.Command

/-!
# Statements

A statement is a command with one cell for each of its placeholders.

## Main definitions

* `Statement` — commands with the values of their parameters.
* `Query.command`, `Query.statement` — the uses of a compiled filter.
* `Statement.insert`, `Statement.upsert`, `Statement.update` — writes of a row.
* `Table.creation` — the commands that create a table and its indexes.
-/

set_option autoImplicit false

namespace TypedSql

/-- A command with the values of its parameters. -/
structure Statement where
  command : Command
  params : List Cell

/-- The text of a statement. -/
def Statement.text (s : Statement) : String := s.command.text

namespace Query

/-- The command for a use of the query. -/
def command (q : Query) (operation : Operation) : Command :=
  .filter operation q.table.name q.condition q.order

/-- The statement for a use of the query with the given arguments. -/
def statement (q : Query) (operation : Operation) (args : List Cell) : Except Error Statement :=
  return ⟨q.command operation, ← q.bind args⟩

end Query

namespace Table

/-- The columns of a table, each with its cell of a row. -/
def pairCells (t : Table) (row : List Cell) : Except Error (List (Column × Cell)) :=
  if row.length = t.columns.length then .ok (t.columns.zip row)
  else .error (.schema t.name (.cellCount row.length t.columns.length))

/-- Refuses a table without a primary key. -/
def requireKey (t : Table) : Except Error Unit :=
  if t.keys.isEmpty then .error (.schema t.name .keyRequired) else .ok ()

/-- The statement that adds a row; the database chooses the auto-increment key. -/
def insertStatement (t : Table) (row : List Cell) : Except Error Statement := do
  let cells ← t.pairCells row
  let given := cells.filter fun (c, _) => !c.autoIncrement
  return ⟨.insert t.name (given.map (·.1.name)), given.map (·.2)⟩

/-- The statement that adds a row, or updates the one with the same key. -/
def upsertStatement (t : Table) (row : List Cell) : Except Error Statement := do
  t.requireKey
  let cells ← t.pairCells row
  let updated := cells.filter fun (c, _) => !c.primaryKey
  return ⟨.upsert t.name (cells.map (·.1.name)) t.keyNames (updated.map (·.1.name)),
    cells.map (·.2)⟩

/-- The statement that updates the row with the key of the given one. -/
def updateStatement (t : Table) (row : List Cell) : Except Error Statement := do
  t.requireKey
  let cells ← t.pairCells row
  let (keys, assigned) := cells.partition fun (c, _) => c.primaryKey
  if assigned.isEmpty then throw (.schema t.name .nothingToUpdate)
  return ⟨.update t.name (assigned.map (·.1.name)) (keys.map (·.1.name)),
    assigned.map (·.2) ++ keys.map (·.2)⟩

/-- The command that creates the index of a column, if it has one. -/
def indexCommand? (t : Table) (c : Column) : Option Command :=
  c.index.map (.createIndex t.name c.name)

/-- The commands that create the indexes of a table, in column order. -/
def indexCreation (t : Table) : List Command := t.columns.filterMap t.indexCommand?

/-- The commands that create a table and its indexes. -/
def creation (t : Table) : List Command := .createTable t :: t.indexCreation

end Table

namespace Statement

/-- The statement that adds a row to a table type, which is registered on the way. -/
def insert (t : TableType) (row : List Cell) : Registering Statement := do
  (← Registry.register t).insertStatement row

/-- The statement that adds a row to a table type, or updates the one with the same key. -/
def upsert (t : TableType) (row : List Cell) : Registering Statement := do
  (← Registry.register t).upsertStatement row

/-- The statement that updates the row of a table type with the key of the given one. -/
def update (t : TableType) (row : List Cell) : Registering Statement := do
  (← Registry.register t).updateStatement row

/-- The commands that create a table type, which is registered on the way. -/
def creation (t : TableType) : Registering (List Command) := do
  return (← Registry.register t).creation

end Statement

end TypedSql
