/-!
# Events

What a program may want to log of its work.

## Main definitions

* `Event` — the events, with `Event.level` and `Event.message`.
-/

set_option autoImplicit false

namespace TypedSql

/-- What happened. -/
inductive Event where
  /-- A table entered a registry. -/
  | registered (table : String) (columns : Nat)
  /-- A filter was compiled. -/
  | compiled (table condition : String) (parameters : Nat)
  /-- A database was opened. -/
  | connected (url : String) (connections : Nat)
  /-- A statement is about to run; statements that create tables do not count parameters. -/
  | executing (sql : String) (parameters : Option Nat)
  /-- A table and its indexes were created. -/
  | created (table : String)
  deriving DecidableEq, Repr

/-- How prominent an event is. -/
inductive Event.Level where
  | trace
  | debug
  | info
  deriving DecidableEq, Repr

namespace Event

/-- The name of a level. -/
def Level.name : Level → String
  | .trace => "TRACE"
  | .debug => "DEBUG"
  | .info => "INFO"

/-- The level of an event. -/
def level : Event → Level
  | .compiled .. => .trace
  | .registered .. | .executing .. => .debug
  | .connected .. | .created .. => .info

/-- The message of an event. -/
def message : Event → String
  | .registered .. => "Registered schema"
  | .compiled .. => "Compiled filter"
  | .connected .. => "Connected to database"
  | .executing .. => "Executing SQL"
  | .created .. => "Created table"

end Event

end TypedSql
