import TypedSql.Kind

/-!
# Field types

The types of the values that a program keeps in its records and captures in its filters.

## Main definitions

* `IntegerType` — the integer types and their ranges.
* `ValueType` — the types of values other than an absent one.
* `FieldType` — a value type, required or optional, and `FieldType.kind`, the kind of the column
  that stores it.
-/

set_option autoImplicit false

namespace TypedSql

/-- The integer types: signed ones of up to 64 bits, unsigned ones of up to 32. -/
inductive IntegerType where
  | int8
  | int16
  | int32
  | int64
  | uint8
  | uint16
  | uint32
  deriving DecidableEq, Repr

namespace IntegerType

/-- The name of the type in diagnostics. -/
def name : IntegerType → String
  | .int8 => "i8"
  | .int16 => "i16"
  | .int32 => "i32"
  | .int64 => "i64"
  | .uint8 => "u8"
  | .uint16 => "u16"
  | .uint32 => "u32"

/-- The least value of the type. -/
def least : IntegerType → Int
  | .int8 => -128
  | .int16 => -32768
  | .int32 => -2147483648
  | .int64 => -9223372036854775808
  | .uint8 | .uint16 | .uint32 => 0

/-- The greatest value of the type. -/
def greatest : IntegerType → Int
  | .int8 => 127
  | .int16 => 32767
  | .int32 => 2147483647
  | .int64 => 9223372036854775807
  | .uint8 => 255
  | .uint16 => 65535
  | .uint32 => 4294967295

/-- Whether the integer is a value of the type. -/
def Holds (t : IntegerType) (n : Int) : Prop := t.least ≤ n ∧ n ≤ t.greatest

instance (t : IntegerType) (n : Int) : Decidable (t.Holds n) :=
  inferInstanceAs (Decidable (_ ∧ _))

/-- Every integer type is a part of the type of 64 bits. -/
theorem Holds.wide {t : IntegerType} {n : Int} (h : t.Holds n) : IntegerType.int64.Holds n := by
  obtain ⟨h1, h2⟩ := h
  cases t <;> simp only [Holds, least, greatest] at * <;> omega

end IntegerType

/-- The types of values. -/
inductive ValueType where
  | text
  | integer (t : IntegerType)
  | real32
  | real64
  | boolean
  /-- A point in time. -/
  | instant
  /-- A date and a time of day, in no time zone. -/
  | dateTime
  | bytes
  deriving DecidableEq, Repr

/-- The kind of the column that stores a value type. -/
def ValueType.scalar : ValueType → Scalar
  | .text => .text
  | .integer _ => .integer
  | .real32 | .real64 => .real
  | .boolean => .boolean
  | .instant => .timestamp
  | .dateTime => .dateTime
  | .bytes => .blob

/-- A value type whose value must be there, or may be absent. -/
inductive FieldType where
  | required (t : ValueType)
  | optional (t : ValueType)
  deriving DecidableEq, Repr

/-- The kind of the column that stores a field type: nullable if the value may be absent. -/
def FieldType.kind : FieldType → Kind
  | .required t => .plain t.scalar
  | .optional t => .optional t.scalar

/-- The kind of a field never nests nullable layers. -/
theorem FieldType.isWellFormed_kind (t : FieldType) : t.kind.isWellFormed = true := by
  cases t <;> rfl

end TypedSql
