import TypedSql.Query.Condition
import TypedSql.Store.Datum

/-!
# Operators on stored values

An operator on NULL gives NULL, but for the connectives, which follow three-valued logic.
Arithmetic on integers that leaves the range of 64 bits goes on with reals; a division by zero
gives NULL.

## Main definitions

* `Logic.and`, `Logic.or`, `Logic.not` — three-valued logic.
* `BinaryOp.apply` — the operators between two values.
* `matchesPattern` — pattern matching.
* `ScalarFunction.value?` — the functions; the absolute value of the least integer is undefined.
-/

set_option autoImplicit false

namespace TypedSql

open Number (Binary64)

/-! ## Three-valued logic -/

namespace Logic

/-- True if both are true, false if one is false. -/
def and : Option Bool → Option Bool → Option Bool
  | some true, b => b
  | some false, _ => some false
  | none, some false => some false
  | none, _ => none

/-- True if one is true, false if both are false. -/
def or : Option Bool → Option Bool → Option Bool
  | some false, b => b
  | some true, _ => some true
  | none, some true => some true
  | none, _ => none

/-- The negation. -/
def not (b : Option Bool) : Option Bool := b.map (!·)

/-- The truth value or its negation. -/
def notIf (negated : Bool) (b : Option Bool) : Option Bool := if negated then not b else b

/-- A conjunction is denied by one of the negations. -/
theorem not_and (a b : Option Bool) : not (and a b) = or (not a) (not b) := by
  rcases a with _ | _ | _ <;> rcases b with _ | _ | _ <;> rfl

end Logic

/-! ## Arithmetic -/

namespace Datum

/-- An integer of 64 bits, or else another value. -/
def intOr (n : Int) (other : Datum) : Datum :=
  if leastInt ≤ n ∧ n ≤ greatestInt then .int n else other

/-- A number as a real; what is no number counts as zero. -/
def toReal : Datum → Binary64
  | .int n => .ofInt n
  | .real x => x
  | _ => Binary64.zero

/-- A real as a stored value: what is not a number is NULL. -/
def ofReal (x : Binary64) : Datum := if x.isNaN then .null else .real x

/-- Arithmetic on reals. The remainder is that of the integer parts. -/
def realArithmetic (op : BinaryOp) (x y : Binary64) : Datum :=
  match op with
  | .add => ofReal (x.add y)
  | .sub => ofReal (x.sub y)
  | .mul => ofReal (x.mul y)
  | .div => ofReal (x.div y)
  | .rem =>
    let a := x.truncate leastInt greatestInt
    let b := y.truncate leastInt greatestInt
    if b = 0 then .null else .real (.ofInt (a.tmod b))
  | _ => .null

/-- Arithmetic on integers: the quotient is cut towards zero, and the remainder has the sign of the
left operand. -/
def intArithmetic (op : BinaryOp) (a b : Int) : Datum :=
  let asReals := realArithmetic op (.ofInt a) (.ofInt b)
  match op with
  | .add => intOr (a + b) asReals
  | .sub => intOr (a - b) asReals
  | .mul => intOr (a * b) asReals
  | .div => if b = 0 then .null else intOr (a.tdiv b) asReals
  | .rem => if b = 0 then .null else .int (a.tmod b)
  | _ => .null

/-- Arithmetic on two values: on integers if both are, otherwise on reals. -/
def arithmetic (op : BinaryOp) (x y : Datum) : Datum :=
  match x, y with
  | .null, _ | _, .null => .null
  | .int a, .int b => intArithmetic op a b
  | x, y => realArithmetic op x.toReal y.toReal

/-! ## Text -/

/-- A value as text. -/
def toText : Datum → String
  | .null | .blob _ => ""
  | .int n => String.ofList (Cell.intChars n)
  | .real x => String.ofList (Number.realText x)
  | .text s => s

/-- Two texts joined. -/
def concat (x y : Datum) : Datum :=
  if x.isNull || y.isNull then .null else .text (x.toText ++ y.toText)

end Datum

/-- Whether a text matches a pattern, in which `%` stands for any run of characters and `_` for one
character. ASCII letters match regardless of case. -/
def matchesPattern : List Char → List Char → Bool
  | [], s => s.isEmpty
  | p :: ps, s =>
    if p = '%' then (List.range (s.length + 1)).any fun n => matchesPattern ps (s.drop n)
    else
      match s with
      | [] => false
      | c :: cs => (p = '_' || p.toLower = c.toLower) && matchesPattern ps cs

/-- The characters of a text up to the first NUL character. -/
def beforeNul (s : String) : List Char := s.toList.takeWhile (· != '\x00')

/-- Whether a value matches a pattern. -/
def Datum.like (x pattern : Datum) : Option Bool :=
  if x.isNull || pattern.isNull then none
  else some (matchesPattern (beforeNul pattern.toText) (beforeNul x.toText))

/-! ## Operators and functions -/

namespace BinaryOp

/-- Whether a comparison holds of an order. -/
def holdsOf : BinaryOp → Ordering → Bool
  | .equal, o => o == .eq
  | .notEqual, o => o != .eq
  | .less, o => o == .lt
  | .lessEqual, o => o != .gt
  | .greater, o => o == .gt
  | .greaterEqual, o => o != .lt
  | _, _ => false

/-- The truth value of a comparison. -/
def comparison (op : BinaryOp) (x y : Datum) : Option Bool := (x.compare? y).map op.holdsOf

/-- The result of an operator. -/
def apply (op : BinaryOp) (x y : Datum) : Datum :=
  match op with
  | .equal | .notEqual | .less | .lessEqual | .greater | .greaterEqual =>
    .ofTruth (op.comparison x y)
  | .and => .ofTruth (Logic.and x.truth y.truth)
  | .or => .ofTruth (Logic.or x.truth y.truth)
  | .add | .sub | .mul | .div | .rem => Datum.arithmetic op x y
  | .concat => Datum.concat x y

end BinaryOp

namespace ScalarFunction

/-- The result of a function on a value other than NULL; the absolute value of the least integer is
undefined. Letters outside ASCII keep their case. -/
def applyTo? : ScalarFunction → Datum → Option Datum
  | .lower, x => some (.text (x.toText.map Char.toLower))
  | .upper, x => some (.text (x.toText.map Char.toUpper))
  | .length, .blob bytes => some (.int bytes.length)
  | .length, x => some (.int (beforeNul x.toText).length)
  | .abs, .int n => if n = Datum.leastInt then none else some (.int n.natAbs)
  | .abs, x =>
    let r := x.toReal
    some (.real (if r.isNegative && x.truth == some true then r.neg else r))

/-- The result of a function; of NULL it is NULL. -/
def value? (f : ScalarFunction) (x : Datum) : Option Datum :=
  if x.isNull then some .null else f.applyTo? x

end ScalarFunction

end TypedSql
