import TypedSql.Error
import TypedSql.Event

/-!
# The registry of tables

A registry keeps the tables that have been used, by table type. A table is declared the first time
that it is asked for; a declaration with faults never enters.

## Main definitions

* `Registry` — the entries in the order of their registration, and the log of events.
* `Registering` — computations that may register tables and may fail; what was registered before a
  failure stays.
* `Registry.register` — the table of a table type.

## Main results

* `Registry.register_of_find?` — a registered table is not declared again.
-/

set_option autoImplicit false

namespace TypedSql

/-- The tables that have been used, and the log of events, both in order of time. -/
structure Registry where
  entries : List (TableType × Table) := []
  log : List Event := []

/-- A computation that may register tables and may fail. -/
abbrev Registering (α : Type) := ExceptT Error (StateM Registry) α

namespace Registry

/-- The table of a table type, if it is registered. -/
def find? (r : Registry) (t : TableType) : Option Table := r.entries.lookup t

/-- The number of registered tables. -/
def size (r : Registry) : Nat := r.entries.length

/-- Whether no table is registered. -/
def isEmpty (r : Registry) : Bool := r.size == 0

/-- Adds an event to the log. -/
def record (r : Registry) (e : Event) : Registry := { r with log := r.log ++ [e] }

/-- Adds a table. -/
def insert (r : Registry) (t : TableType) (table : Table) : Registry :=
  { r with entries := r.entries ++ [(t, table)] }.record
    (.registered table.name table.columns.length)

/-- The table of a table type, which is declared and added if it is not registered yet. -/
def register (t : TableType) : Registering Table := fun r =>
  match r.find? t with
  | some table => (.ok table, r)
  | none =>
    match t.table with
    | .ok table => (.ok table, r.insert t table)
    | .error fault => (.error (.schema t.name fault), r)

/-- Adds an event to the log of the registry at hand. -/
def logEvent (e : Event) : Registering Unit := fun r => (.ok (), r.record e)

/-- A column of a table type, which is registered on the way. -/
def lookupColumn (t : TableType) (name : String) : Registering (Option Column) := do
  return (← register t).column? name

/-- Whether a table type, which is registered on the way, has a column. -/
def hasColumn (t : TableType) (name : String) : Registering Bool := do
  return (← lookupColumn t name).isSome

/-- A registered table is found without a change to the registry. -/
theorem register_of_find? {r : Registry} {t : TableType} {table : Table}
    (h : r.find? t = some table) : register t r = (.ok table, r) := by
  simp [register, h]

end Registry

end TypedSql
