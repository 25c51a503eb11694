import TypedSql.Calendar.DateTimeText
import TypedSql.Codec.Failure

/-!
# Codecs

A codec says how a value of a program becomes a cell, and how it is read back from one. Reading is
more generous than writing: an integer may be read from a boolean, a boolean from an integer, and a
real from an integer.

## Main definitions

* `Codec` — the two directions.
* `Codec.cell` — cells as they are; `Codec.optional` — an absent value is NULL.
* `ValueType.Carrier`, `ValueType.codec` — the values of each value type, and their codec.
* `FieldType.Carrier`, `FieldType.codec` — the same for fields.
-/

set_option autoImplicit false

namespace TypedSql

open Calendar (Instant DateTime)
open Number (Binary32 Binary64)

/-- How values become cells and are read back. -/
structure Codec (α : Type) where
  /-- The cell of a value. -/
  encode : α → Cell
  /-- The value that a cell holds. -/
  decode : Cell → Except Codec.Failure α

namespace Codec

/-- The failure to find an expected type of cell. -/
def mismatch {α : Type} (wanted : Wanted) (c : Cell) : Except Failure α :=
  .error ⟨wanted, .cell c.type⟩

/-- Cells as they are. -/
def cell : Codec Cell := ⟨id, .ok⟩

/-- Values that may be absent; an absent value is NULL. -/
def optional {α : Type} (codec : Codec α) : Codec (Option α) where
  encode
    | none => .null
    | some v => codec.encode v
  decode
    | .null => .ok none
    | c => (codec.decode c).map some

/-- Truth values. Any integer but zero is read as true. -/
def boolean : Codec Bool where
  encode := .bool
  decode
    | .bool b => .ok b
    | .int n => .ok (n != 0)
    | c => mismatch .boolean c

/-- Reads an integer; a boolean is read as one or zero. -/
def decodeInt : Cell → Except Failure Int
  | .int n => .ok n.toInt
  | .bool b => .ok (if b then 1 else 0)
  | c => mismatch .integer c

/-- The integers of a type. -/
def integer (t : IntegerType) : Codec { n : Int // t.Holds n } where
  encode n := .int (Int64.ofInt n)
  decode c := do
    let n ← decodeInt c
    if h : t.Holds n then .ok ⟨n, h⟩ else .error ⟨.inRange t, .integer n⟩

/-- The reals of 64 bits; an integer is read as the nearest real. -/
def real64 : Codec Binary64 where
  encode := .real
  decode
    | .real x => .ok x
    | .int n => .ok (.ofInt n.toInt)
    | c => mismatch .real c

/-- The reals of 32 bits; other reals are rounded to them. -/
def real32 : Codec Binary32 where
  encode x := .real (.ofBinary32 x)
  decode c := (real64.decode c).map Binary64.toBinary32

/-- Texts. -/
def text : Codec String where
  encode := .text
  decode
    | .text s => .ok s
    | c => mismatch .text c

/-- Byte strings. -/
def bytes : Codec (List UInt8) where
  encode := .blob
  decode
    | .blob bs => .ok bs
    | c => mismatch .blob c

/-- Points in time, as seconds from the epoch; the fraction of a second is dropped. -/
def instant : Codec Instant where
  encode t := .int (Int64.ofInt t.seconds)
  decode c := do
    let n ← decodeInt c
    match Instant.of? n 0 with
    | some t => .ok t
    | none => .error ⟨.timestamp, .seconds n⟩

/-- Calendar date-times, as text. -/
def dateTime : Codec DateTime where
  encode t := .text (String.ofList t.text)
  decode c := do
    let s ← text.decode c
    match DateTime.parse? s.toList with
    | some t => .ok t
    | none => .error ⟨.dateTime, .text s⟩

end Codec

namespace ValueType

/-- The values of a value type. -/
def Carrier : ValueType → Type
  | .text => String
  | .integer t => { n : Int // t.Holds n }
  | .real32 => Binary32
  | .real64 => Binary64
  | .boolean => Bool
  | .instant => Instant
  | .dateTime => DateTime
  | .bytes => List UInt8

/-- The codec of a value type. -/
def codec : (t : ValueType) → Codec t.Carrier
  | .text => Codec.text
  | .integer t => Codec.integer t
  | .real32 => Codec.real32
  | .real64 => Codec.real64
  | .boolean => Codec.boolean
  | .instant => Codec.instant
  | .dateTime => Codec.dateTime
  | .bytes => Codec.bytes

end ValueType

namespace FieldType

/-- The values of a field. -/
def Carrier : FieldType → Type
  | .required t => t.Carrier
  | .optional t => Option t.Carrier

/-- The codec of a field. -/
def codec : (t : FieldType) → Codec t.Carrier
  | .required t => t.codec
  | .optional t => t.codec.optional

end FieldType

end TypedSql
