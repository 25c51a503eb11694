import TypedSql.Codec.Row
import TypedSql.Error

/-!
# Rows of a table type

The rows of a table type with fields are those of its records: a row is read into a record and
written again. The rows of other table types are kept as they are.

## Main definitions

* `TableType.rowFields?` — the fields of the records of a table type.
* `TableType.recode` — a row, read and written again.
-/

set_option autoImplicit false

namespace TypedSql.TableType

/-- The fields of the records of a table type, with the names of their columns. -/
def rowFields? (t : TableType) : Option (List RowField) :=
  t.fields.map fun types => List.zipWith (fun (c : Column) ty => ⟨c.name, ty⟩) t.columns types

/-- A row, read into a record of the table type and written again. -/
def recode (t : TableType) (row : List Cell) : Except Error (List Cell) :=
  match t.rowFields? with
  | none => .ok row
  | some fields => ((RowValues.decode fields row).map RowValues.encode).mapError .decode

end TypedSql.TableType
