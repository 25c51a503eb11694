import TypedSql.Number.Binary

/-!
# The shortest decimal of a floating-point number

Among the decimals that round to a given number, the ones with the fewest significant digits are
candidates, and the nearest of them is chosen; of two equally near, the greater.

## Main definitions

* `decimalDigits` — the digits of a natural number, most significant first.
* `floorLog10` — the decimal exponent of a fraction.
* `Decimal` — a natural number times a power of ten.
* `shortest` — the shortest decimal that reads back as `mantissa * 2 ^ place`.
-/

set_option autoImplicit false

namespace TypedSql.Number

/-- The decimal digits of a natural number, most significant first. -/
def decimalDigits (n : Nat) : List Char := Nat.toDigits 10 n

/-- The decimal exponent `k` with `10 ^ k ≤ num / den < 10 ^ (k + 1)`, for a positive fraction. -/
def floorLog10 (num den : Nat) : Int :=
  if den ≤ num then ((decimalDigits (num / den)).length : Int) - 1
  else
    let inverse := (den + num - 1) / num
    Int.negOfNat (decimalDigits (inverse - 1)).length

/-- The number `coefficient * 10 ^ exponent`. -/
structure Decimal where
  coefficient : Nat
  exponent : Int
  deriving DecidableEq, Repr

/-- The fraction `num / den` times `10 ^ e`, as a numerator and a denominator. -/
def scaleTen (num den : Nat) (e : Int) : Nat × Nat :=
  if 0 ≤ e then (num * Nat.pow 10 e.toNat, den) else (num, den * Nat.pow 10 (-e).toNat)

/-- The positive numbers that round to a floating-point number: four times the number and its two
bounds, all over one denominator. -/
structure RoundingInterval where
  value : Nat
  low : Nat
  high : Nat
  den : Nat
  /-- Whether the bounds themselves round to the number. -/
  closed : Bool
  deriving Repr

namespace RoundingInterval

/-- The numbers that round to `mantissa * 2 ^ place`. Below a power of two the neighbours are twice
as close. -/
def ofReading (f : FloatFormat) (mantissa : Nat) (place : Int) : RoundingInterval :=
  let (n, d) := scaleTwo 1 4 place
  let below := if mantissa = f.fractions ∧ f.leastPlace < place then 1 else 2
  { value := 4 * mantissa * n
    low := (4 * mantissa - below) * n
    high := (4 * mantissa + 2) * n
    den := d
    closed := mantissa % 2 == 0 }

/-- Whether the decimal lies in the interval. -/
def holds (i : RoundingInterval) (x : Decimal) : Bool :=
  let (n, d) := scaleTen x.coefficient 1 x.exponent
  let scaled := n * i.den
  if i.closed then i.low * d ≤ scaled && scaled ≤ i.high * d
  else i.low * d < scaled && scaled < i.high * d

/-- The decimals with `digits` significant digits next to the value, from below and from above. -/
def neighbours (i : RoundingInterval) (digits : Nat) : Decimal × Decimal :=
  let e := floorLog10 i.value i.den - Int.ofNat digits + 1
  let (n, d) := scaleTen i.value i.den (-e)
  (⟨n / d, e⟩, ⟨(n + d - 1) / d, e⟩)

/-- Whether the upper of two neighbours is at least as near to the value as the lower. -/
def isUpperNearer (i : RoundingInterval) (digits : Nat) : Bool :=
  let e := floorLog10 i.value i.den - Int.ofNat digits + 1
  let (n, d) := scaleTen i.value i.den (-e)
  d ≤ 2 * (n % d)

/-- The nearest decimal with the given number of digits that lies in the interval. -/
def pick? (i : RoundingInterval) (digits : Nat) : Option Decimal :=
  let (low, high) := i.neighbours digits
  match i.holds low, i.holds high with
  | true, true => some (if i.isUpperNearer digits then high else low)
  | true, false => some low
  | false, true => some high
  | false, false => none

end RoundingInterval

/-- The most digits that a shortest decimal of 64 bits needs. -/
def maxDigits : Nat := 17

/-- The shortest decimal that reads back as `mantissa * 2 ^ place`. -/
def shortest (f : FloatFormat) (mantissa : Nat) (place : Int) : Decimal :=
  let i := RoundingInterval.ofReading f mantissa place
  match (List.range maxDigits).findSome? fun n => i.pick? (n + 1) with
  | some x => x
  | none => (i.neighbours maxDigits).1

end TypedSql.Number
