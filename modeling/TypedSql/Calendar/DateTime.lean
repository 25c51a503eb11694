import TypedSql.Calendar.Instant

/-!
# Dates and times of day

A calendar date-time is a date of the proleptic Gregorian calendar and a time of day. In a leap
second, which is the second after 59, the seconds are 59 and the nanoseconds go on from a thousand
million.

## Main definitions

* `isLeapYear`, `daysInMonth` — the calendar.
* `DateTime` — the valid dates and times.
* `DateTime.of?` — a date-time from its fields.
-/

set_option autoImplicit false

namespace TypedSql.Calendar

/-- Every fourth year is a leap year, but of the centuries only every fourth. -/
def isLeapYear (year : Int) : Bool :=
  year % 4 == 0 && (year % 100 != 0 || year % 400 == 0)

/-- The number of days of a month; months outside 1 to 12 have none. -/
def daysInMonth (year : Int) : Nat → Nat
  | 1 | 3 | 5 | 7 | 8 | 10 | 12 => 31
  | 4 | 6 | 9 | 11 => 30
  | 2 => if isLeapYear year then 29 else 28
  | _ => 0

/-- The fields of a date and a time of day. -/
structure DateTimeFields where
  year : Int
  month : Nat
  day : Nat
  hour : Nat
  minute : Nat
  second : Nat
  nanos : Nat
  deriving DecidableEq, Repr

namespace DateTimeFields

/-- Whether the fields name a date of the calendar. -/
def HasDate (t : DateTimeFields) : Prop :=
  (-262143 ≤ t.year ∧ t.year ≤ 262142) ∧ 1 ≤ t.day ∧ t.day ≤ daysInMonth t.year t.month

/-- Whether the fields name a time of day; only the second 59 has a leap second after it. -/
def HasTime (t : DateTimeFields) : Prop :=
  t.hour < 24 ∧ t.minute < 60 ∧ t.second < 60 ∧ t.nanos < 2 * nanosPerSecond ∧
    (nanosPerSecond ≤ t.nanos → t.second = 59)

/-- Whether the fields name a date and a time of day. -/
def IsValid (t : DateTimeFields) : Prop := t.HasDate ∧ t.HasTime

instance (t : DateTimeFields) : Decidable t.IsValid := by
  unfold IsValid HasDate HasTime
  infer_instance

end DateTimeFields

/-- A date and a time of day. -/
structure DateTime extends DateTimeFields where
  valid : toDateTimeFields.IsValid
  deriving DecidableEq, Repr

namespace DateTime

/-- The date-time of some fields, if they are valid. -/
def of? (t : DateTimeFields) : Option DateTime :=
  if h : t.IsValid then some ⟨t, h⟩ else none

/-- The fields of a date-time are valid and give it back. -/
theorem of?_fields (t : DateTime) : of? t.toDateTimeFields = some t := by
  simp [of?, t.valid]

end DateTime

end TypedSql.Calendar
