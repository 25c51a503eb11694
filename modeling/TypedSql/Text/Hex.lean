/-!
# Hexadecimal digits

## Main definitions

* `hexDigit`, `upperHexDigit` — the digit of a number below sixteen.
* `hex` — a number in hexadecimal, without leading zeros.
* `hexByte`, `upperHexByte` — a byte as two digits.
-/

set_option autoImplicit false

namespace TypedSql.Text

/-- The hexadecimal digit of a number below sixteen, in lower case. -/
def hexDigit (n : Nat) : Char := Nat.digitChar n

/-- The hexadecimal digit of a number below sixteen, in upper case. -/
def upperHexDigit (n : Nat) : Char := (Nat.digitChar n).toUpper

/-- A number in hexadecimal, in lower case and without leading zeros. -/
def hex (n : Nat) : List Char := Nat.toDigits 16 n

/-- A byte as two hexadecimal digits, in lower case. -/
def hexByte (b : UInt8) : List Char := [hexDigit (b.toNat / 16), hexDigit (b.toNat % 16)]

/-- A byte as two hexadecimal digits, in upper case. -/
def upperHexByte (b : UInt8) : List Char :=
  [upperHexDigit (b.toNat / 16), upperHexDigit (b.toNat % 16)]

/-- The value of a hexadecimal digit of either case. -/
def hexValue? (c : Char) : Option Nat :=
  if '0' ≤ c ∧ c ≤ '9' then some (c.toNat - '0'.toNat)
  else if 'a' ≤ c ∧ c ≤ 'f' then some (c.toNat - 'a'.toNat + 10)
  else if 'A' ≤ c ∧ c ≤ 'F' then some (c.toNat - 'A'.toNat + 10)
  else none

/-- Reads bytes written as pairs of hexadecimal digits. -/
def bytesOfHex? : List Char → Option (List UInt8)
  | [] => some []
  | [_] => none
  | c :: d :: rest => do
    let high ← hexValue? c
    let low ← hexValue? d
    let bytes ← bytesOfHex? rest
    return UInt8.ofNat (16 * high + low) :: bytes

end TypedSql.Text
