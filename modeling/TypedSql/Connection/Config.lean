import TypedSql.Text.Blank
import TypedSql.Text.Quoted
import TypedSql.Text.Search
import TypedSql.Calendar.DateTimeText

/-!
# Connection settings

The settings of a connection come from a program, from a document or from the environment; what is
not given has a default.

## Main definitions

* `ConnectionConfig` — the settings.
* `ConnectionConfig.ofFields?`, `ofSequence?` — settings from a document.
* `ConnectionConfig.ofEnvironment` — settings from the environment.
* `ConnectionConfig.pool` — the pool of connections that the settings ask for.
-/

set_option autoImplicit false

namespace TypedSql

/-- A value of a document. -/
inductive Setting where
  | text (s : String)
  | integer (n : Int)
  | flag (b : Bool)
  /-- A value that no setting has. -/
  | other
  deriving DecidableEq, Repr

/-- The settings of a connection. -/
structure ConnectionConfig where
  url : String := "sqlite::memory:"
  maxConnections : UInt32 := 5
  /-- Create the file of the database if there is none. -/
  createIfMissing : Bool := true
  /-- Enforce foreign keys. -/
  foreignKeys : Bool := true
  deriving DecidableEq, Repr

/-- The size of a pool that cannot be read. -/
structure ConfigError where
  size : String
  deriving DecidableEq, Repr

namespace ConfigError

/-- The variable of the environment that holds the size of the pool. -/
def sizeVariable : String := "SQLSCOPE_MAX_CONNECTIONS"

/-- The error in words. -/
def message (e : ConfigError) : String :=
  "configuration error: " ++ sizeVariable ++ " must be a number, got " ++ Text.quoted e.size

end ConfigError

/-- A number of 32 bits. -/
def word32? (n : Int) : Option UInt32 :=
  if 0 ≤ n ∧ n < UInt32.size then some (UInt32.ofNat n.toNat) else none

namespace ConnectionConfig

/-! ## Documents -/

/-- Sets the field of a name. An unknown name changes nothing; a value of a wrong type is
refused. -/
def set? (c : ConnectionConfig) (name : String) (v : Setting) : Option ConnectionConfig :=
  match name, v with
  | "url", .text s => some { c with url := s }
  | "max_connections", .integer n => (word32? n).map fun n => { c with maxConnections := n }
  | "create_if_missing", .flag b => some { c with createIfMissing := b }
  | "foreign_keys", .flag b => some { c with foreignKeys := b }
  | "url", _ | "max_connections", _ | "create_if_missing", _ | "foreign_keys", _ => none
  | _, _ => some c

/-- The settings of a document with named fields. -/
def ofFields? (fields : List (String × Setting)) : Option ConnectionConfig :=
  fields.foldlM (fun c (name, v) => c.set? name v) {}

/-- The names of the fields, in order. -/
def fieldNames : List String := ["url", "max_connections", "create_if_missing", "foreign_keys"]

/-- The settings of a document that lists the fields in order. -/
def ofSequence? (values : List Setting) : Option ConnectionConfig :=
  if values.length ≤ fieldNames.length then ofFields? (fieldNames.zip values) else none

/-! ## The environment -/

/-- Reads a number of 32 bits, with or without a plus sign, between blanks. -/
def size? (s : String) : Option UInt32 :=
  let cs := Text.trim s.toList
  let digits := match cs with
    | '+' :: rest => rest
    | _ => cs
  if digits.isEmpty || !digits.all Char.isDigit then none
  else word32? (Nat.ofDigitChars 10 digits 0)

/-- The settings of an environment, which may give a URL and a size. -/
def ofEnvironment (url size : Option String) : Except ConfigError ConnectionConfig :=
  let c : ConnectionConfig := { url := url.getD "sqlite::memory:" }
  match size with
  | none => .ok c
  | some s =>
    match size? s with
    | some n => .ok { c with maxConnections := n }
    | none => .error ⟨s⟩

/-! ## Pools -/

/-- Whether the URL names a database in memory. -/
def isInMemory (c : ConnectionConfig) : Bool :=
  Text.occursIn ":memory:".toList c.url.toList || Text.occursIn "mode=memory".toList c.url.toList

/-- The number of connections. Each connection to memory opens a database of its own, so that there
is only one; any other pool has at least one. -/
def poolSize (c : ConnectionConfig) : Nat :=
  if c.isInMemory then 1 else max 1 c.maxConnections.toNat

/-- What a pool of connections is asked for. -/
structure Pool where
  most : Nat
  least : Nat
  /-- Close connections that are not used. -/
  idleTimeout : Bool
  /-- Close connections that are old. -/
  maxLifetime : Bool
  deriving DecidableEq, Repr

/-- The pool of the settings. The one connection to memory is never closed, since the database
would be lost. -/
def pool (c : ConnectionConfig) : Pool :=
  let kept := c.isInMemory
  ⟨c.poolSize, if kept then 1 else 0, !kept, !kept⟩

/-- A pool has at least one connection. -/
theorem one_le_poolSize (c : ConnectionConfig) : 1 ≤ c.poolSize := by
  unfold poolSize
  split
  · exact Nat.le_refl 1
  · exact Nat.le_max_left _ _

end ConnectionConfig

end TypedSql
