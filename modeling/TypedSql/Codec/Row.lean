import TypedSql.Codec.Basic

/-!
# Codecs of rows

A record is kept in a row with one cell per field. Cells after the last field are ignored; a row
that ends too early lacks the column of the first field without a cell.

## Main definitions

* `RowField` — a field with the name of its column.
* `RowValues` — one value per field.
* `RowValues.encode`, `RowValues.decode` — a record as a row, and back.
-/

set_option autoImplicit false

namespace TypedSql

/-- A field of a record, with the name of its column. -/
structure RowField where
  column : String
  type : FieldType
  deriving DecidableEq, Repr

/-- The values of a record, one for each field. -/
inductive RowValues : List RowField → Type
  | nil : RowValues []
  | cons {f : RowField} {fs : List RowField} (v : f.type.Carrier) (rest : RowValues fs) :
      RowValues (f :: fs)

namespace RowValues

/-- The row of a record. -/
def encode {fs : List RowField} : RowValues fs → List Cell
  | .nil => []
  | .cons (f := f) v rest => f.type.codec.encode v :: rest.encode

/-- Reads a record from a row. -/
def decode : (fs : List RowField) → List Cell → Except Codec.Failure (RowValues fs)
  | [], _ => .ok .nil
  | f :: _, [] => .error ⟨.column f.column, .endOfRow⟩
  | f :: fs, c :: cs => do
    let v ← f.type.codec.decode c
    let rest ← decode fs cs
    return .cons v rest

/-- A record has one cell for each field. -/
theorem length_encode {fs : List RowField} (r : RowValues fs) : r.encode.length = fs.length := by
  induction r with
  | nil => rfl
  | cons v rest ih => simp [encode, ih]

end RowValues

end TypedSql
