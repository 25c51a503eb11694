import TypedSql.Query.Basic

/-!
# Queries that are compiled once

A lazy query builds and compiles its filter when it is first asked for. Once a filter has compiled,
the query stays as it is; until then, each request builds and compiles again.

## Main definitions

* `LazyQuery` — the compiled query, if there is one, and the number of times a filter was built.
* `LazyQuery.get` — the query, which is compiled if it has not been yet.

## Main results

* `LazyQuery.get_compiled` — a compiled query is returned without a change to anything.
-/

set_option autoImplicit false

namespace TypedSql

/-- A query that is compiled once. -/
structure LazyQuery where
  source : TableType
  compiled : Option Query := none
  /-- The number of times that the filter has been built. -/
  builds : Nat := 0

namespace LazyQuery

/-- The query. It is compiled from the filter that `build` makes, unless a filter has compiled
before. -/
def get (l : LazyQuery) (build : Unit → Expr) (r : Registry) :
    Except Error Query × LazyQuery × Registry :=
  match l.compiled with
  | some q => (.ok q, l, r)
  | none =>
    let (result, r) := Query.compile l.source (build ()) r
    (result, { l with compiled := result.toOption, builds := l.builds + 1 }, r)

/-- A compiled query is returned without a change to anything. -/
theorem get_compiled {l : LazyQuery} {q : Query} (h : l.compiled = some q) (build : Unit → Expr)
    (r : Registry) : l.get build r = (.ok q, l, r) := by
  simp [get, h]

end LazyQuery

end TypedSql
