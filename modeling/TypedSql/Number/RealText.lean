import TypedSql.Number.Shortest

/-!
# Real numbers as text

A real is written with the fewest digits that read back as the same number. Zero and the numbers
from `10⁻⁴` up to but not including `10¹⁶` are written positionally, with at least one digit after
the point; the others with one digit before the point and an exponent. So the text of a finite real
is never that of an integer.

## Main definitions

* `RealLayout` — the choices of a layout; `RealLayout.standard` — the ones above.
* `realText` — the text of a number.
-/

set_option autoImplicit false

namespace TypedSql.Number

/-- Where a layout changes from positional notation to exponents. -/
structure RealLayout where
  /-- The least decimal exponent written positionally. -/
  leastPositional : Int
  /-- The greatest decimal exponent written positionally. -/
  greatestPositional : Int
  /-- The mark before an exponent. -/
  exponentMark : Char
  deriving DecidableEq, Repr

/-- Positional notation from `10⁻⁴` up to `10¹⁶`. -/
def RealLayout.standard : RealLayout := ⟨-4, 15, 'e'⟩

/-- Drops the zeros at the end of a list of digits. -/
def dropEndZeros (ds : List Char) : List Char := (ds.reverse.dropWhile (· == '0')).reverse

/-- The digits of a number, the point standing after the first digit times `10 ^ exponent`. -/
def positional (digits : List Char) (exponent : Int) : List Char :=
  if 0 ≤ exponent then
    let whole := exponent.toNat + 1
    let padded := digits.rightpad (whole + 1) '0'
    padded.take whole ++ '.' :: padded.drop whole
  else
    '0' :: '.' :: List.replicate ((-exponent).toNat - 1) '0' ++ digits

/-- The digits of a number with a decimal exponent. -/
def scientific (mark : Char) (digits : List Char) (exponent : Int) : List Char :=
  let sign := if exponent < 0 then ['-'] else []
  let tail := mark :: sign ++ decimalDigits exponent.natAbs
  match digits with
  | [] => tail
  | [d] => d :: tail
  | d :: ds => d :: '.' :: ds ++ tail

/-- A positive decimal in a layout. -/
def Decimal.text (layout : RealLayout) (x : Decimal) : List Char :=
  let all := decimalDigits x.coefficient
  let exponent := x.exponent + Int.ofNat all.length - 1
  let digits := dropEndZeros all
  if layout.leastPositional ≤ exponent && exponent ≤ layout.greatestPositional then
    positional digits exponent
  else scientific layout.exponentMark digits exponent

/-- The text of a real number. -/
def realText (x : Binary64) : List Char :=
  match x.reading with
  | .nan => ['N', 'a', 'N']
  | .infinite s => (if s then ['-'] else []) ++ ['i', 'n', 'f']
  | .finite s m q =>
    (if s then ['-'] else []) ++
      if m = 0 then ['0', '.', '0']
      else (shortest FloatFormat.binary64 m q).text RealLayout.standard

end TypedSql.Number
