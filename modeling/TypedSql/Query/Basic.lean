import TypedSql.Query.Compile
import TypedSql.Query.Order

/-!
# Queries

A query is a compiled filter over a table, with the parameters it takes and the order it asks for.

## Main definitions

* `Query` — compiled filters.
* `Query.compile` — compiles a filter over a table type.
* `Query.orderBy` — adds sort keys.
* `Query.bind` — the cells of the parameters.
-/

set_option autoImplicit false

namespace TypedSql

/-- A compiled filter over a table. -/
structure Query where
  source : TableType
  table : Table
  condition : Condition
  arena : Arena
  order : List OrderTerm

namespace Query

/-- The text of the condition. -/
def conditionText (q : Query) : String := q.condition.text

/-- The text of the `ORDER BY` clause, with the blank before it. -/
def orderText (q : Query) : String := Sql.spell (OrderTerm.clause q.order)

/-- Compiles a filter over a registered table. -/
def compileOver (t : TableType) (table : Table) (filter : Expr) : Registering Query := fun r =>
  let (result, w) := filter.compileFilter [⟨t, table⟩] table ⟨r, {}⟩
  (result.map fun c => ⟨t, table, c.condition, w.arena, []⟩, w.registry)

/-- Compiles a filter over a table type, which is registered on the way. -/
def compile (t : TableType) (filter : Expr) : Registering Query := do
  let table ← Registry.register t
  let q ← compileOver t table filter
  Registry.logEvent (.compiled table.name q.conditionText q.arena.size)
  return q

/-- The query with more sort keys after its own. -/
def orderBy (q : Query) (rs : List OrderRequest) : Except Error Query := do
  let ts ← OrderRequest.resolveAll q.table rs
  return { q with order := q.order ++ ts }

/-- The cells of the parameters, from the captured values and the arguments. -/
def bind (q : Query) (args : List Cell) : Except Error (List Cell) := q.arena.bind args

end Query

end TypedSql
