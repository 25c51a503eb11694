import TypedSql.Query.Arena
import TypedSql.Query.Typed
import TypedSql.Schema.Registry

/-!
# Compiling filters

A filter is compiled from left to right against a current table. A nested query opens a frame for
its table; the tables of the enclosing frames stay within reach of qualified expressions.

## Main definitions

* `Frame` — a table type in scope, with its table.
* `Workspace` — what compilation changes: the registry and the arena.
* `Expr.compile` — compiles an expression.
* `Expr.compileFilter` — compiles a complete filter.
-/

set_option autoImplicit false

namespace TypedSql

/-- A table type whose columns are within reach. -/
structure Frame where
  type : TableType
  table : Table

/-- The frames within reach, the innermost first. -/
abbrev Scope := List Frame

/-- The innermost table of a table type that is within reach. -/
def Scope.find? (scope : Scope) (t : TableType) : Option Table :=
  (List.find? (fun f : Frame => f.type == t) scope).map (·.table)

/-- What compilation changes. -/
structure Workspace where
  registry : Registry
  arena : Arena := {}

/-- A computation that may register tables, place parameters and fail. -/
abbrev Compiling (α : Type) := ExceptT Error (StateM Workspace) α

namespace Compiling

/-- The table of a table type, which is registered on the way. -/
def register (t : TableType) : Compiling Table := fun w =>
  let (result, registry) := Registry.register t w.registry
  (result, { w with registry })

/-- The position of a parameter. -/
def place (site : Site) (p : Parameter) : Compiling Nat := fun w =>
  match w.arena.place site p with
  | .ok (position, arena) => (.ok position, { w with arena })
  | .error e => (.error e, w)

/-- A complete filter: it is not a lone truth value, and its compiled form is boolean. -/
def complete (filter : Expr) (compiled : Compiling Typed) : Compiling Typed := do
  if filter.isTruthValue then throw (.refused filter.site .constantFilter)
  let t ← compiled
  t.requireScalar filter.site .filter .boolean
  return t

end Compiling

namespace Expr

open Compiling (complete)

mutual

/-- Compiles an expression; a column without a qualification is one of the current table. -/
def compile (scope : Scope) (current : Table) : Expr → Compiling Typed
  | .literal site v => Typed.literal site v
  | .column site name => Typed.column site current name
  | .within site t inner =>
    match scope.find? t with
    | some table => inner.compile scope table
    | none => throw (.notAccessible site t.name)
  | .param site p => do
    let position ← Compiling.place site p
    return ⟨.placeholder position, p.kind⟩
  | .not site e => do
    let e ← e.compile scope current
    e.not site
  | .binary site op l r => do
    let l ← l.compile scope current
    let r ← r.compile scope current
    Typed.binary site op l r
  | .nullTest site test e => do
    let e ← e.compile scope current
    e.nullTest site test
  | .like site negated e p => do
    let e ← e.compile scope current
    let p ← p.compile scope current
    e.like site negated p
  | .between site negated e low high => do
    let e ← e.compile scope current
    let low ← low.compile scope current
    let high ← high.compile scope current
    e.between site negated low high
  | .inList site negated e items => do
    if items.isEmpty then throw (.refused site (.emptyList negated))
    let e ← e.compile scope current
    let items ← compileItems scope current site (.inList negated) e items
    return e.inList negated items
  | .call site f e => do
    let e ← e.compile scope current
    e.call site f
  | .existsIn _ t filter => do
    let table ← Compiling.register t
    let filter ← complete filter (filter.compile (⟨t, table⟩ :: scope) table)
    return Typed.existsIn table filter

/-- Compiles the items of a list; each is compared with the operand before the next is
compiled. -/
def compileItems (scope : Scope) (current : Table) (site : Site) (construct : Construct)
    (operand : Typed) : List Expr → Compiling (List Typed)
  | [] => return []
  | e :: es => do
    let e ← e.compile scope current
    Typed.requireComparable site construct operand e
    let es ← compileItems scope current site construct operand es
    return e :: es

end

/-- Compiles a complete filter over a table. -/
def compileFilter (scope : Scope) (table : Table) (filter : Expr) : Compiling Typed :=
  complete filter (filter.compile scope table)

end Expr

end TypedSql
