import TypedSql.Cell
import TypedSql.Number.RealText

/-!
# Stored values

A store keeps integers, reals, texts, blobs and NULL. A boolean is stored as one or zero, and what
is not a number as NULL.

## Main definitions

* `Datum` — stored values; `Cell.toDatum` — the stored form of a cell.
* `Datum.compare?` — the comparison of two values, undefined if one is NULL.
* `Datum.sortCompare` — the order of all values, with NULL first.
* `Datum.truth` — the truth value of a condition, undefined for NULL.
-/

set_option autoImplicit false

namespace TypedSql

open Number (Binary64 Exact)

/-- A stored value. -/
inductive Datum where
  | null
  | int (n : Int)
  | real (x : Binary64)
  | text (s : String)
  | blob (bytes : List UInt8)
  deriving DecidableEq, Repr

/-- The stored form of a cell. -/
def Cell.toDatum : Cell → Datum
  | .null => .null
  | .bool b => .int (if b then 1 else 0)
  | .int n => .int n.toInt
  | .real x => if x.isNaN then .null else .real x
  | .text s => .text s
  | .blob bytes => .blob bytes

namespace Datum

/-- The least integer that is stored. -/
def leastInt : Int := -9223372036854775808

/-- The greatest integer that is stored. -/
def greatestInt : Int := 9223372036854775807

/-- Whether the value is NULL. -/
def isNull : Datum → Bool
  | .null => true
  | _ => false

/-- The exact value of a number. -/
def number? : Datum → Option Exact
  | .int n => some (.ofInt n)
  | .real x => x.value?
  | _ => none

/-- NULL comes before numbers, numbers before texts, texts before blobs. -/
def rank : Datum → Nat
  | .null => 0
  | .int _ | .real _ => 1
  | .text _ => 2
  | .blob _ => 3

/-- The order of all values: numbers by value, texts by code points, blobs by bytes. -/
def sortCompare (x y : Datum) : Ordering :=
  match x, y with
  | .text s, .text t => List.compareLex (compareOn Char.toNat) s.toList t.toList
  | .blob s, .blob t => List.compareLex (compareOn UInt8.toNat) s t
  | _, _ =>
    match x.number?, y.number? with
    | some u, some v => u.compare v
    | _, _ => compare x.rank y.rank

/-- The comparison of two values, undefined if one of them is NULL. -/
def compare? (x y : Datum) : Option Ordering :=
  if x.isNull || y.isNull then none else some (x.sortCompare y)

/-- Whether two values are equal; NULL equals nothing. -/
def equals (x y : Datum) : Bool := x.compare? y == some .eq

/-- The truth value of a condition: a number other than zero is true. -/
def truth : Datum → Option Bool
  | .null => none
  | .int n => some (n != 0)
  | .real x => some (match x.value? with
    | some (.rational n _) => n != 0
    | _ => true)
  | .text _ | .blob _ => some false

/-- A truth value as a stored value. -/
def ofTruth : Option Bool → Datum
  | none => .null
  | some b => .int (if b then 1 else 0)

/-- A truth value is stored and read back. -/
theorem truth_ofTruth (b : Option Bool) : (ofTruth b).truth = b := by
  rcases b with _ | _ | _ <;> rfl

/-- NULL equals nothing. -/
theorem equals_null_left (y : Datum) : equals .null y = false := rfl

end Datum

end TypedSql
