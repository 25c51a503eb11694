/-!
# Binary floating-point formats

A floating-point word is a sign, an exponent field and a fraction. A format says how many bits the
last two take; reading a word gives its exact value, and rounding a fraction of natural numbers
gives the word of the nearest value, of two equally near the one with the even last place.

## Main definitions

* `FloatFormat` — the widths of a format; `FloatFormat.binary32` and `FloatFormat.binary64`.
* `FloatFormat.Reading` — what a word stands for.
* `FloatFormat.read` — reads a word.
* `FloatFormat.nearest` — the word nearest to a fraction.
-/

set_option autoImplicit false

namespace TypedSql.Number

/-- A quotient rounded to the nearest integer, a half to the even neighbour. -/
def roundHalfEven (num den : Nat) : Nat :=
  let q := num / den
  let r := num % den
  if 2 * r < den then q else if den < 2 * r then q + 1 else q + q % 2

/-- The fraction `num / den` times `2 ^ e`, as a numerator and a denominator. -/
def scaleTwo (num den : Nat) (e : Int) : Nat × Nat :=
  if 0 ≤ e then (num <<< e.toNat, den) else (num, den <<< (-e).toNat)

/-- The exponent `e` with `2 ^ e ≤ num / den < 2 ^ (e + 1)`, for a positive fraction. -/
def floorLog2 (num den : Nat) : Int :=
  let e : Int := Int.ofNat num.log2 - Int.ofNat den.log2
  let (n, d) := scaleTwo num den (-e)
  if d ≤ n then e else e - 1

/-- The widths of the fields of a floating-point word. -/
structure FloatFormat where
  /-- The bits of the fraction. -/
  fractionBits : Nat
  /-- The bits of the exponent field. -/
  exponentBits : Nat
  deriving DecidableEq, Repr

namespace FloatFormat

/-- The format of 32 bits. -/
def binary32 : FloatFormat := ⟨23, 8⟩

/-- The format of 64 bits. -/
def binary64 : FloatFormat := ⟨52, 11⟩

variable (f : FloatFormat)

/-- The number of fractions. -/
def fractions : Nat := 1 <<< f.fractionBits

/-- The exponent field of infinities and NaN. -/
def topExponent : Nat := 1 <<< f.exponentBits - 1

/-- The word of positive infinity. -/
def infinity : Nat := f.topExponent * f.fractions

/-- The word of the negative sign. -/
def signWord : Nat := 1 <<< (f.fractionBits + f.exponentBits)

/-- The word of the canonical NaN. -/
def nan : Nat := f.infinity + f.fractions / 2

/-- The exponent of the last place of the smallest values. -/
def leastPlace : Int := 2 - Int.ofNat (1 <<< (f.exponentBits - 1)) - Int.ofNat f.fractionBits

/-- What a floating-point word stands for. -/
inductive Reading where
  /-- Not a number. -/
  | nan
  /-- An infinity, negative or not. -/
  | infinite (negative : Bool)
  /-- The value `mantissa * 2 ^ place`, negated or not. -/
  | finite (negative : Bool) (mantissa : Nat) (place : Int)
  deriving DecidableEq, Repr

/-- Reads a word. -/
def read (bits : Nat) : Reading :=
  let negative := bits / f.signWord % 2 == 1
  let exponent := bits / f.fractions % (f.topExponent + 1)
  let fraction := bits % f.fractions
  if exponent = f.topExponent then
    if fraction = 0 then .infinite negative else .nan
  else if exponent = 0 then .finite negative fraction f.leastPlace
  else .finite negative (f.fractions + fraction) (f.leastPlace + (exponent - 1))

/-- The word, without its sign, nearest to the fraction `num / den`; a fraction too large for the
format gives infinity. -/
def nearest (num den : Nat) : Nat :=
  if num = 0 then 0
  else
    let place := max f.leastPlace (floorLog2 num den - f.fractionBits)
    let (n, d) := scaleTwo num den (-place)
    min f.infinity ((place - f.leastPlace).toNat * f.fractions + roundHalfEven n d)

/-- A word with a sign. -/
def withSign (negative : Bool) (magnitude : Nat) : Nat :=
  if negative then f.signWord + magnitude else magnitude

end FloatFormat

end TypedSql.Number
