import TypedSql.Calendar.DateTime
import TypedSql.Number.Shortest
import TypedSql.Text.Blank

/-!
# The text of a calendar date-time

A date-time is written `2024-03-09 07:05:01.250`: the fraction is cut to milliseconds, a leap
second is written as second 60, and a year outside 0 to 9999 has a sign. A reader is more generous:
blanks may stand before a number and between date and time, and the fraction may be missing or
longer.

## Main definitions

* `DateTime.text` — the written form.
* `DateTime.parse?` — reads a text.
-/

set_option autoImplicit false

namespace TypedSql.Calendar

open Number (decimalDigits)
open Text (trimStart)

/-! ## Writing -/

/-- A number in at least `width` digits. -/
def padded (width n : Nat) : List Char := (decimalDigits n).leftpad width '0'

/-- A year: four digits from 0 to 9999, otherwise a sign and at least four digits. -/
def yearText (year : Int) : List Char :=
  if 0 ≤ year ∧ year ≤ 9999 then padded 4 year.toNat
  else (if year < 0 then '-' else '+') :: padded 4 year.natAbs

namespace DateTime

/-- The second as it is written, which is 60 in a leap second. -/
def writtenSecond (t : DateTime) : Nat := t.second + t.nanos / nanosPerSecond

/-- The milliseconds of the written fraction. -/
def writtenMillis (t : DateTime) : Nat := t.nanos % nanosPerSecond / 1000000

/-- The written form of a date-time. -/
def text (t : DateTime) : List Char :=
  yearText t.year ++ '-' :: padded 2 t.month ++ '-' :: padded 2 t.day ++ ' ' ::
    padded 2 t.hour ++ ':' :: padded 2 t.minute ++ ':' :: padded 2 t.writtenSecond ++ '.' ::
    padded 3 t.writtenMillis

/-- The date-time cut to whole milliseconds. -/
def wholeMillis (t : DateTime) : DateTime where
  toDateTimeFields := { t.toDateTimeFields with nanos := t.nanos / 1000000 * 1000000 }
  valid := by
    obtain ⟨hd, hh, hm, hs, hn, hl⟩ := t.valid
    refine ⟨hd, hh, hm, hs, ?_, fun h => hl ?_⟩ <;>
      simp only [nanosPerSecond] at * <;> omega

end DateTime

/-! ## Reading -/

/-- Reads between one and `most` digits; more are left. -/
def digits? (most : Nat) (s : List Char) : Option (List Char × List Char) :=
  let ds := (s.take most).takeWhile Char.isDigit
  if ds.isEmpty then none else some (ds, s.drop ds.length)

/-- Reads a number of between one and `most` digits, after blanks. -/
def number? (most : Nat) (s : List Char) : Option (Nat × List Char) :=
  (digits? most (trimStart s)).map fun (ds, rest) => (Nat.ofDigitChars 10 ds 0, rest)

/-- Reads a year, after blanks: one to four digits, or a sign and any number of digits. -/
def year? (s : List Char) : Option (Int × List Char) :=
  match trimStart s with
  | '-' :: rest =>
    (digits? rest.length rest).map fun (ds, r) => (-(Nat.ofDigitChars 10 ds 0 : Int), r)
  | '+' :: rest =>
    (digits? rest.length rest).map fun (ds, r) => ((Nat.ofDigitChars 10 ds 0 : Int), r)
  | rest => (digits? 4 rest).map fun (ds, r) => ((Nat.ofDigitChars 10 ds 0 : Int), r)

/-- Reads a given character. -/
def mark? (c : Char) : List Char → Option (List Char)
  | d :: rest => if d = c then some rest else none
  | [] => none

/-- Reads a fraction of a second as nanoseconds; digits after the ninth do not count. No fraction
is no nanoseconds. -/
def fraction? : List Char → Option (Nat × List Char)
  | '.' :: rest => do
    let (ds, _) ← digits? rest.length rest
    return (Nat.ofDigitChars 10 ((ds.take 9).rightpad 9 '0') 0, rest.drop ds.length)
  | rest => some (0, rest)

namespace DateTime

/-- The fields that a text holds: the second may be 60, which is a leap second. -/
def fields? (s : List Char) : Option DateTimeFields := do
  let (year, s) ← year? s
  let (month, s) ← number? 2 (← mark? '-' s)
  let (day, s) ← number? 2 (← mark? '-' s)
  let (hour, s) ← number? 2 (trimStart s)
  let (minute, s) ← number? 2 (← mark? ':' s)
  let (second, s) ← number? 2 (← mark? ':' s)
  let (nanos, s) ← fraction? s
  guard s.isEmpty
  if second = 60 then
    return ⟨year, month, day, hour, minute, 59, nanosPerSecond + nanos⟩
  else
    return ⟨year, month, day, hour, minute, second, nanos⟩

/-- Reads the text of a date-time. -/
def parse? (s : List Char) : Option DateTime := (fields? s).bind of?

end DateTime

end TypedSql.Calendar
