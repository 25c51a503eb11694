import TypedSql.Cell
import TypedSql.FieldType
import TypedSql.Text.Quoted

/-!
# Why a cell cannot be read

## Main definitions

* `Codec.Wanted` — what a reader expected.
* `Codec.Found` — what it found.
* `Codec.Failure` — the two together.
-/

set_option autoImplicit false

namespace TypedSql.Codec

/-- What a reader of cells expects. -/
inductive Wanted where
  | boolean
  | integer
  | real
  | text
  | blob
  | timestamp
  | dateTime
  /-- A value of an integer type. -/
  | inRange (t : IntegerType)
  /-- A cell for a column. -/
  | column (name : String)
  deriving DecidableEq, Repr

/-- What a reader of cells finds. -/
inductive Found where
  /-- A cell of a wrong type. -/
  | cell (t : CellType)
  /-- An integer outside the range of a type. -/
  | integer (n : Int)
  /-- A number of seconds that no calendar date has. -/
  | seconds (n : Int)
  /-- A text that is no date-time. -/
  | text (s : String)
  /-- No cell at all. -/
  | endOfRow
  deriving DecidableEq, Repr

/-- Why a cell cannot be read. -/
structure Failure where
  wanted : Wanted
  found : Found
  deriving DecidableEq, Repr

/-- The expectation in words. -/
def Wanted.describe : Wanted → String
  | .boolean => "boolean"
  | .integer => "integer"
  | .real => "real"
  | .text => "text"
  | .blob => "blob"
  | .timestamp => "timestamp"
  | .dateTime => "datetime"
  | .inRange t => t.name
  | .column name => s!"a value for column {name}"

/-- The finding in words. -/
def Found.describe : Found → String
  | .cell t => t.name
  | .integer n => s!"out of range integer {n}"
  | .seconds n => s!"out of range epoch seconds {n}"
  | .text s => "text " ++ TypedSql.Text.quoted s
  | .endOfRow => "end of row"

/-- The failure in words. -/
def Failure.message (e : Failure) : String :=
  s!"cannot decode {e.found.describe} as {e.wanted.describe}"

end TypedSql.Codec
