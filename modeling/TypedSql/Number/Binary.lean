import TypedSql.Number.FloatFormat

/-!
# Floating-point numbers

The floating-point numbers of 32 and of 64 bits as their words, and exact arithmetic on the latter:
every operation computes the exact value and rounds it once.

## Main definitions

* `Binary32`, `Binary64` — the numbers of the two formats.
* `Binary64.ofInt`, `Binary64.ofBinary32`, `Binary64.toBinary32` — conversions.
* `Binary64.add`, `sub`, `mul`, `div` — arithmetic.
* `Exact` — the extended real numbers that the words stand for, and `Exact.compare`.
-/

set_option autoImplicit false

namespace TypedSql.Number

/-- A floating-point number of 32 bits. -/
structure Binary32 where
  bits : UInt32
  deriving DecidableEq, Repr

/-- A floating-point number of 64 bits. -/
structure Binary64 where
  bits : UInt64
  deriving DecidableEq, Repr

/-- A rational number or an infinity. -/
inductive Exact where
  | negativeInfinity
  /-- The rational `num / den`, with a positive denominator. -/
  | rational (num : Int) (den : Nat)
  | positiveInfinity
  deriving DecidableEq, Repr

namespace Exact

/-- An integer as an exact number. -/
def ofInt (n : Int) : Exact := .rational n 1

/-- The order of exact numbers. -/
def compare : Exact → Exact → Ordering
  | .negativeInfinity, .negativeInfinity => .eq
  | .negativeInfinity, _ => .lt
  | _, .negativeInfinity => .gt
  | .positiveInfinity, .positiveInfinity => .eq
  | .positiveInfinity, _ => .gt
  | _, .positiveInfinity => .lt
  | .rational a b, .rational c d => Ord.compare (a * d) (c * b)

end Exact

namespace Binary32

/-- What the number stands for. -/
def reading (x : Binary32) : FloatFormat.Reading := FloatFormat.binary32.read x.bits.toNat

/-- Whether the word is not a number. -/
def isNaN (x : Binary32) : Bool := x.reading == .nan

end Binary32

namespace Binary64

/-- What the number stands for. -/
def reading (x : Binary64) : FloatFormat.Reading := FloatFormat.binary64.read x.bits.toNat

/-- The number of a word given as a natural number. -/
def ofWord (n : Nat) : Binary64 := ⟨UInt64.ofNat n⟩

/-- The canonical NaN. -/
def nan : Binary64 := ofWord FloatFormat.binary64.nan

/-- Positive zero. -/
def zero : Binary64 := ⟨0⟩

/-- An infinity. -/
def infinite (negative : Bool) : Binary64 :=
  ofWord (FloatFormat.binary64.withSign negative FloatFormat.binary64.infinity)

/-- Whether the word is not a number. -/
def isNaN (x : Binary64) : Bool := x.reading == .nan

/-- Whether the word stands for a rational number. -/
def isFinite (x : Binary64) : Bool :=
  match x.reading with
  | .finite .. => true
  | _ => false

/-- The number nearest to a fraction, with the given sign. -/
def nearest (negative : Bool) (num den : Nat) : Binary64 :=
  ofWord (FloatFormat.binary64.withSign negative (FloatFormat.binary64.nearest num den))

/-- The number nearest to a rational; a zero result has the given sign. -/
def ofRational (negativeZero : Bool) (num : Int) (den : Nat) : Binary64 :=
  nearest (if num = 0 then negativeZero else num < 0) num.natAbs den

/-- The number nearest to an integer. -/
def ofInt (n : Int) : Binary64 := ofRational false n 1

/-- The same value in the wider format. -/
def ofBinary32 (x : Binary32) : Binary64 :=
  match x.reading with
  | .nan => nan
  | .infinite s => infinite s
  | .finite s m q =>
    let (n, d) := scaleTwo m 1 q
    nearest s n d

/-- The nearest value of the narrower format. -/
def toBinary32 (x : Binary64) : Binary32 :=
  let f := FloatFormat.binary32
  match x.reading with
  | .nan => ⟨UInt32.ofNat f.nan⟩
  | .infinite s => ⟨UInt32.ofNat (f.withSign s f.infinity)⟩
  | .finite s m q =>
    let (n, d) := scaleTwo m 1 q
    ⟨UInt32.ofNat (f.withSign s (f.nearest n d))⟩

/-- The exact value, if the word is a number. -/
def value? (x : Binary64) : Option Exact :=
  match x.reading with
  | .nan => none
  | .infinite s => some (if s then .negativeInfinity else .positiveInfinity)
  | .finite s m q =>
    let (n, d) := scaleTwo m 1 q
    some (.rational (if s then -Int.ofNat n else n) d)

/-- The sign of the word. -/
def isNegative (x : Binary64) : Bool := x.bits.toNat ≥ FloatFormat.binary64.signWord

/-- The number with the other sign. -/
def neg (x : Binary64) : Binary64 :=
  ofWord (FloatFormat.binary64.withSign (!x.isNegative)
    (x.bits.toNat % FloatFormat.binary64.signWord))

/-- The sum, rounded once. -/
def add (x y : Binary64) : Binary64 :=
  match x.value?, y.value? with
  | some (.rational a b), some (.rational c d) =>
    ofRational (x.isNegative && y.isNegative) (a * d + c * b) (b * d)
  | some (.rational ..), some _ => y
  | some _, some (.rational ..) => x
  | some u, some v => if u = v then x else nan
  | _, _ => nan

/-- The difference, rounded once. -/
def sub (x y : Binary64) : Binary64 := x.add y.neg

/-- The product, rounded once. -/
def mul (x y : Binary64) : Binary64 :=
  let negative := x.isNegative != y.isNegative
  match x.value?, y.value? with
  | some (.rational a b), some (.rational c d) => ofRational negative (a * c) (b * d)
  | some (.rational a _), some _ => if a = 0 then nan else infinite negative
  | some _, some (.rational c _) => if c = 0 then nan else infinite negative
  | some _, some _ => infinite negative
  | _, _ => nan

/-- The quotient by a number other than zero, rounded once; the quotient by zero is not a
number. -/
def div (x y : Binary64) : Binary64 :=
  let negative := x.isNegative != y.isNegative
  match x.value?, y.value? with
  | some (.rational a b), some (.rational c d) =>
    if c = 0 then nan
    else ofRational negative (a * d * c.sign) (b * c.natAbs)
  | some (.rational ..), some _ => ofRational negative 0 1
  | some _, some (.rational c _) => if c = 0 then nan else infinite negative
  | _, _ => nan

/-- The integer part of an exact value between two bounds, which infinities and greater values
take. -/
def truncate (low high : Int) (x : Binary64) : Int :=
  match x.value? with
  | none => 0
  | some .negativeInfinity => low
  | some .positiveInfinity => high
  | some (.rational n d) => max low (min high (n.tdiv d))

end Binary64

end TypedSql.Number
