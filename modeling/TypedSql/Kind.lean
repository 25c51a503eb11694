/-!
# Kinds

A *kind* is the category of values that a column or an expression may hold: a scalar kind, with
or without NULL. A kind counts its nullable layers, because a declaration may write more than one;
such a kind can be displayed and compared, but no accepted table has it.

## Main definitions

* `Scalar` — the seven kinds without NULL, and `Scalar.sqlType`, the column type that stores them.
* `Kind` — a scalar kind under a number of nullable layers.
* `Kind.nullable` — the same kind with NULL admitted.
* `Kind.IsComparable` — which kinds may stand on the two sides of a comparison.

## Main results

* `Kind.nullable_nullable` — admitting NULL twice is admitting it once.
* `Kind.isWellFormed_nullable` — admitting NULL never nests layers.
-/

set_option autoImplicit false

namespace TypedSql

/-- The categories of values other than NULL. -/
inductive Scalar where
  | text
  | integer
  | real
  | boolean
  | timestamp
  | dateTime
  | blob
  deriving DecidableEq, Repr

namespace Scalar

/-- The displayed name of a scalar kind. -/
def name : Scalar → String
  | .text => "text"
  | .integer => "integer"
  | .real => "real"
  | .boolean => "boolean"
  | .timestamp => "timestamp"
  | .dateTime => "datetime"
  | .blob => "blob"

/-- Reads the displayed name of a scalar kind. -/
def ofName? : String → Option Scalar
  | "text" => some .text
  | "integer" => some .integer
  | "real" => some .real
  | "boolean" => some .boolean
  | "timestamp" => some .timestamp
  | "datetime" => some .dateTime
  | "blob" => some .blob
  | _ => none

/-- Every scalar kind is read back from its name. -/
theorem ofName?_name (s : Scalar) : ofName? s.name = some s := by
  cases s <;> rfl

/-- Integers and reals take part in arithmetic. -/
def isNumeric : Scalar → Bool
  | .integer | .real => true
  | _ => false

/-- Booleans and blobs have no order. -/
def isOrderable : Scalar → Bool
  | .boolean | .blob => false
  | _ => true

/-- The column type that stores a scalar kind: booleans and timestamps are stored as integers,
calendar date-times as text. -/
def sqlType : Scalar → String
  | .integer | .boolean | .timestamp => "INTEGER"
  | .real => "REAL"
  | .text | .dateTime => "TEXT"
  | .blob => "BLOB"

end Scalar

/-- A scalar kind under `layers` nullable layers. -/
structure Kind where
  /-- The kind of the values other than NULL. -/
  scalar : Scalar
  /-- The number of times that the kind is declared nullable. -/
  layers : Nat
  deriving DecidableEq, Repr

namespace Kind

/-- The kind of a scalar, without NULL. -/
def plain (s : Scalar) : Kind := ⟨s, 0⟩

/-- The kind of a scalar or NULL. -/
def optional (s : Scalar) : Kind := ⟨s, 1⟩

/-- Whether NULL is a value of the kind. -/
def isNullable (k : Kind) : Bool := k.layers != 0

/-- Admits NULL; a kind that admits it already is left as it is. -/
def nullable (k : Kind) : Kind := if k.isNullable then k else ⟨k.scalar, 1⟩

/-- The kind without NULL. -/
def base (k : Kind) : Kind := plain k.scalar

/-- Whether the kind has at most one nullable layer. -/
def isWellFormed (k : Kind) : Bool := k.layers ≤ 1

/-- Whether the values of the kind take part in arithmetic. -/
def isNumeric (k : Kind) : Bool := k.scalar.isNumeric

/-- Whether the values of the kind are ordered. -/
def isOrderable (k : Kind) : Bool := k.scalar.isOrderable

/-- Kinds are comparable if they agree up to NULL, or if both are numeric. -/
def IsComparable (k l : Kind) : Prop :=
  k.scalar = l.scalar ∨ (k.isNumeric = true ∧ l.isNumeric = true)

instance (k l : Kind) : Decidable (k.IsComparable l) :=
  inferInstanceAs (Decidable (_ ∨ _))

/-- The column type that stores the kind. -/
def sqlType (k : Kind) : String := k.scalar.sqlType

/-- The displayed name: `nullable` once per layer, then the name of the scalar kind. -/
def display (k : Kind) : String :=
  String.join (List.replicate k.layers "nullable ") ++ k.scalar.name

/-- Admits NULL if the condition holds. -/
def nullableIf (k : Kind) (b : Bool) : Kind := if b then k.nullable else k

/-! ## Lemmas -/

/-- A nullable kind admits NULL. -/
@[simp]
theorem isNullable_nullable (k : Kind) : k.nullable.isNullable = true := by
  unfold nullable
  split
  · assumption
  · rfl

/-- A kind is made nullable only once. -/
@[simp]
theorem nullable_nullable (k : Kind) : k.nullable.nullable = k.nullable := by
  rw [nullable, if_pos (isNullable_nullable k)]

/-- A kind keeps its scalar kind when it is made nullable. -/
@[simp]
theorem scalar_nullable (k : Kind) : k.nullable.scalar = k.scalar := by
  unfold nullable
  split <;> rfl

/-- A scalar kind does not admit NULL. -/
@[simp]
theorem isNullable_plain (s : Scalar) : (plain s).isNullable = false := rfl

/-- Without its nullable layers a kind does not admit NULL. -/
@[simp]
theorem isNullable_base (k : Kind) : k.base.isNullable = false := rfl

/-- Admitting NULL never nests nullable layers. -/
theorem isWellFormed_nullable {k : Kind} (h : k.isWellFormed = true) :
    k.nullable.isWellFormed = true := by
  unfold nullable
  split
  · exact h
  · rfl

/-- Comparability does not depend on the side. -/
theorem IsComparable.symm {k l : Kind} (h : k.IsComparable l) : l.IsComparable k :=
  h.imp Eq.symm And.symm

end Kind

end TypedSql
