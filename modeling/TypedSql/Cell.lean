import TypedSql.Kind
import TypedSql.Number.Binary

/-!
# Cells

A cell is one value of a row, or one argument of a statement.

## Main definitions

* `Cell` — NULL, a boolean, an integer of 64 bits, a real, a text or a blob.
* `CellType` — which of these a cell is.
* `Kind.accepts` — the cells that may be bound where a kind is expected.
-/

set_option autoImplicit false

namespace TypedSql

/-- One value of a row. -/
inductive Cell where
  | null
  | bool (b : Bool)
  | int (n : Int64)
  | real (x : Number.Binary64)
  | text (s : String)
  | blob (bytes : List UInt8)
  deriving DecidableEq, Repr

/-- The types of cells. -/
inductive CellType where
  | null
  | boolean
  | integer
  | real
  | text
  | blob
  deriving DecidableEq, Repr

namespace CellType

/-- The name of a type in diagnostics. -/
def name : CellType → String
  | .null => "null"
  | .boolean => "boolean"
  | .integer => "integer"
  | .real => "real"
  | .text => "text"
  | .blob => "blob"

end CellType

namespace Cell

/-- The type of a cell. -/
def type : Cell → CellType
  | .null => .null
  | .bool _ => .boolean
  | .int _ => .integer
  | .real _ => .real
  | .text _ => .text
  | .blob _ => .blob

/-- Whether the cell is NULL. -/
def isNull : Cell → Bool
  | .null => true
  | _ => false

/-- Only NULL is null. -/
theorem isNull_iff {c : Cell} : c.isNull = true ↔ c = .null := by
  cases c <;> simp [isNull]

end Cell

/-- The types of cells that may be bound where a scalar kind is expected: reals and booleans may
also be given as integers. -/
def Scalar.admitsType : Scalar → CellType → Bool
  | .text, .text | .dateTime, .text => true
  | .integer, .integer | .timestamp, .integer => true
  | .real, .real | .real, .integer => true
  | .boolean, .boolean | .boolean, .integer => true
  | .blob, .blob => true
  | _, _ => false

/-- Whether a cell may be bound where a kind is expected; NULL only if the kind is nullable. -/
def Kind.accepts (k : Kind) (c : Cell) : Bool :=
  if c.isNull then k.isNullable else k.scalar.admitsType c.type

/-- NULL is accepted by the nullable kinds alone. -/
theorem Kind.accepts_null (k : Kind) : k.accepts .null = k.isNullable := rfl

/-- Acceptance of a cell other than NULL does not depend on whether the kind is nullable. -/
theorem Kind.accepts_nullable {k : Kind} {c : Cell} (h : c.isNull = false) :
    k.nullable.accepts c = k.accepts c := by
  simp [Kind.accepts, h]

end TypedSql
