import TypedSql.Calendar.DateTimeText
import TypedSql.Proofs.Sql.Lexer

/-!
# Reading the text of a calendar date-time

The text of a date-time is read as the date-time cut to milliseconds, in every year: numbers with
zeros in front are read back where no digit follows, a year of more than four digits has a sign in
front, and a leap second is the second 60.

## Main results

* `digits?_append`, `number?_padded`, `year?_yearText` — numbers are read back.
* `DateTime.parse?_text` — the text of a date-time is read back.
-/

set_option autoImplicit false

namespace TypedSql.Calendar

open Number (IsDigits decimalDigits)
open Sql (takeWhile_append_stop)
open Text (trimStart)

/-! ## Digits -/

/-- Whether a text ends, or goes on with no digit. -/
def StopsDigits (rest : List Char) : Prop := ∀ c ∈ rest.head?, c.isDigit = false

/-- Digits are read back in front of no digit. -/
theorem digits?_append {most : Nat} {ds rest : List Char} (hds : IsDigits ds)
    (hmost : ds.length ≤ most) (hrest : StopsDigits rest) :
    digits? most (ds ++ rest) = some (ds, rest) := by
  have hstop : StopsDigits (rest.take (most - ds.length)) := by
    intro c hc
    cases hlength : most - ds.length with
    | zero => simp [hlength] at hc
    | succ n =>
      cases rest with
      | nil => simp at hc
      | cons d rest => exact hrest c (by simpa [hlength] using hc)
  have htake : ((ds ++ rest).take most).takeWhile Char.isDigit = ds := by
    rw [List.take_append, List.take_of_length_le hmost]
    exact (takeWhile_append_stop _ hds.2 hstop).1
  simp [digits?, htake, hds.1]

/-- Some character that is no digit stops digits. -/
lemma stopsDigits_cons {c : Char} (hc : c.isDigit = false) (rest : List Char) :
    StopsDigits (c :: rest) := by
  rintro d ⟨⟩
  exact hc

/-- Digits do not start with a blank. -/
lemma trimStart_append {ds : List Char} (hds : IsDigits ds) (rest : List Char) :
    trimStart (ds ++ rest) = ds ++ rest := by
  obtain ⟨d, ds, rfl⟩ := List.exists_cons_of_ne_nil hds.1
  have hd : Text.isBlank d = false := Text.isBlank_digit (hds.2 d List.mem_cons_self)
  simp [trimStart, hd]

/-! ## Numbers with zeros in front -/

section Padded

variable {width n : Nat}

/-- Zeros in front of digits are digits. -/
lemma isDigits_padded (width n : Nat) : IsDigits (padded width n) := by
  obtain ⟨hne, hdigits⟩ := Number.isDigits_decimalDigits n
  refine ⟨by simp [padded, List.leftpad, hne], fun c hc => ?_⟩
  rcases List.mem_append.mp hc with hzero | hc
  · rw [List.eq_of_mem_replicate hzero]
    rfl
  · exact hdigits c hc

/-- Zeros in front do not change the number. -/
lemma ofDigitChars_padded (width n : Nat) : Nat.ofDigitChars 10 (padded width n) 0 = n := by
  rw [padded, List.leftpad, Nat.ofDigitChars_append, Nat.ofDigitChars_replicate_zero, Nat.mul_zero]
  exact Nat.ofDigitChars_ten_toDigits

/-- A number that fits into the width has that width. -/
lemma length_padded (h : n < 10 ^ width) (hwidth : width ≠ 0) :
    (padded width n).length = width := by
  have hdigits : (decimalDigits n).length ≤ width :=
    (Nat.length_toDigits_le_iff (by decide) (Nat.pos_of_ne_zero hwidth)).mpr h
  rw [padded, List.length_leftpad, max_eq_left hdigits]

/-- A number that is padded to the greatest width is read back. -/
theorem number?_padded (h : n < 10 ^ width) (hwidth : width ≠ 0) {rest : List Char}
    (hrest : StopsDigits rest) : number? width (padded width n ++ rest) = some (n, rest) := by
  have hdigits := isDigits_padded width n
  rw [number?, trimStart_append hdigits,
    digits?_append hdigits (length_padded h hwidth).le hrest]
  simp only [Option.map_some, ofDigitChars_padded]

end Padded

/-! ## Years -/

/-- A year is read back, with or without a sign. -/
theorem year?_yearText (year : Int) {rest : List Char} (hrest : StopsDigits rest) :
    year? (yearText year ++ rest) = some (year, rest) := by
  have hread (most : Nat) (hmost : (padded 4 year.natAbs).length ≤ most) :
      digits? most (padded 4 year.natAbs ++ rest) = some (padded 4 year.natAbs, rest) :=
    digits?_append (isDigits_padded 4 year.natAbs) hmost hrest
  have hlong := hread (padded 4 year.natAbs ++ rest).length (by simp)
  unfold yearText
  split
  · rename_i hplain
    have hdigits := isDigits_padded 4 year.toNat
    have hshort := digits?_append hdigits (length_padded (by omega) (by decide)).le hrest
    have hhead : ∀ {c tail}, padded 4 year.toNat ++ rest = c :: tail → c.isDigit = true := by
      intro c tail h
      obtain ⟨d, ds, hds⟩ := List.exists_cons_of_ne_nil hdigits.1
      rw [hds, List.cons_append, List.cons.injEq] at h
      exact h.1 ▸ hdigits.2 d (hds ▸ List.mem_cons_self)
    rw [year?, trimStart_append hdigits]
    split
    · rename_i h
      cases hhead h
    · rename_i h
      cases hhead h
    · simp only [hshort, Option.map_some, ofDigitChars_padded]
      rw [Int.toNat_of_nonneg hplain.1]
  · rename_i hsigned
    split
    · have htrim : ∀ s, trimStart ('-' :: s) = '-' :: s := fun _ => rfl
      rw [List.cons_append, year?, htrim]
      simp only [hlong, Option.map_some, ofDigitChars_padded]
      rw [show -(year.natAbs : Int) = year by omega]
    · have htrim : ∀ s, trimStart ('+' :: s) = '+' :: s := fun _ => rfl
      rw [List.cons_append, year?, htrim]
      simp only [hlong, Option.map_some, ofDigitChars_padded]
      rw [show (year.natAbs : Int) = year by omega]

/-! ## Fractions -/

/-- Milliseconds are read back as nanoseconds. -/
lemma fraction?_padded {n : Nat} (h : n < 1000) :
    fraction? ('.' :: padded 3 n) = some (n * 1000000, []) := by
  have hlength : (padded 3 n).length = 3 := length_padded h (by decide)
  have hread : digits? (padded 3 n).length (padded 3 n) = some (padded 3 n, []) := by
    have hend : StopsDigits [] := by simp [StopsDigits]
    simpa only [List.append_nil] using digits?_append (isDigits_padded 3 n) le_rfl hend
  have hvalue : Nat.ofDigitChars 10 (((padded 3 n).take 9).rightpad 9 '0') 0 = n * 1000000 := by
    rw [List.take_of_length_le (by omega), List.rightpad, hlength, Nat.ofDigitChars_append,
      Nat.ofDigitChars_replicate_zero, ofDigitChars_padded]
    omega
  simp only [fraction?, hread, Option.bind_eq_bind, Option.bind_some, hvalue, List.drop_length]
  rfl

/-! ## Date-times -/

/-- A month has at most 31 days. -/
lemma daysInMonth_le (year : Int) (month : Nat) : daysInMonth year month ≤ 31 := by
  unfold daysInMonth
  split <;> first | omega | split <;> omega

/-- Only the months up to the twelfth have days. -/
lemma le_of_daysInMonth {year : Int} {month : Nat} (h : 0 < daysInMonth year month) :
    month ≤ 12 := by
  unfold daysInMonth at h
  split at h <;> omega

namespace DateTime

/-- A reader goes on from what has been read. -/
lemma bind_of_eq_some {α β : Type} {x : Option α} {f : α → Option β} {a : α} {y : Option β}
    (hx : x = some a) (hf : f a = y) : (x >>= f) = y := by
  rw [hx]
  exact hf

/-- The numbers of a text are read back; the second 60 is a leap second. -/
lemma fields?_numbers (year : Int) {month day hour minute second millis : Nat}
    (hmonth : month < 100) (hday : day < 100) (hhour : hour < 100) (hminute : minute < 100)
    (hsecond : second < 100) (hmillis : millis < 1000) :
    fields? (yearText year ++ '-' :: padded 2 month ++ '-' :: padded 2 day ++ ' ' ::
      padded 2 hour ++ ':' :: padded 2 minute ++ ':' :: padded 2 second ++ '.' ::
      padded 3 millis) =
      if second = 60 then
        some ⟨year, month, day, hour, minute, 59, nanosPerSecond + millis * 1000000⟩
      else some ⟨year, month, day, hour, minute, second, millis * 1000000⟩ := by
  have htwo {n : Nat} (hn : n < 100) {c : Char} (hc : c.isDigit = false) (rest : List Char) :
      number? 2 (padded 2 n ++ c :: rest) = some (n, c :: rest) :=
    number?_padded hn (by decide) (stopsDigits_cons hc rest)
  have hblank : ∀ rest, trimStart (' ' :: (padded 2 hour ++ rest)) = padded 2 hour ++ rest :=
    trimStart_append (isDigits_padded 2 hour)
  have hdash : Char.isDigit '-' = false := rfl
  have hspace : Char.isDigit ' ' = false := rfl
  have hcolon : Char.isDigit ':' = false := rfl
  have hpoint : Char.isDigit '.' = false := rfl
  simp only [List.append_assoc, List.cons_append]
  refine bind_of_eq_some (year?_yearText year (stopsDigits_cons hdash _)) ?_
  refine bind_of_eq_some rfl (bind_of_eq_some (htwo hmonth hdash _) ?_)
  refine bind_of_eq_some rfl (bind_of_eq_some (htwo hday hspace _) ?_)
  refine bind_of_eq_some ((congrArg _ (hblank _)).trans (htwo hhour hcolon _)) ?_
  refine bind_of_eq_some rfl (bind_of_eq_some (htwo hminute hcolon _) ?_)
  refine bind_of_eq_some rfl (bind_of_eq_some (htwo hsecond hpoint _) ?_)
  exact bind_of_eq_some (fraction?_padded hmillis) rfl

/-- The fields of a text are those of the date-time, cut to milliseconds. -/
lemma fields?_text (t : DateTime) : fields? t.text = some t.wholeMillis.toDateTimeFields := by
  obtain ⟨⟨-, hday, hdays⟩, hhour, hminute, hsecond, hnanos, hleap⟩ := t.valid
  have hmonth := le_of_daysInMonth (hday.trans hdays)
  have hlast := hdays.trans (daysInMonth_le _ _)
  simp only [nanosPerSecond] at hnanos hleap
  have hwritten : t.writtenSecond = t.second + t.nanos / 1000000000 := rfl
  have hmillis : t.writtenMillis = t.nanos % 1000000000 / 1000000 := rfl
  rw [text, fields?_numbers t.year (by omega) (by omega) (by omega) (by omega) (by omega)
    (by omega)]
  simp only [wholeMillis, nanosPerSecond, hwritten, hmillis]
  split
  · have hsecond : t.second = 59 := hleap (by omega)
    have hfraction : 1000000000 + t.nanos % 1000000000 / 1000000 * 1000000 =
        t.nanos / 1000000 * 1000000 := by omega
    rw [hsecond, hfraction]
  · have hsecond : t.second + t.nanos / 1000000000 = t.second := by omega
    have hfraction : t.nanos % 1000000000 / 1000000 * 1000000 = t.nanos / 1000000 * 1000000 := by
      omega
    rw [hsecond, hfraction]

/-- The text of a date-time is read back as the date-time cut to milliseconds.

Proof sketch. Every number is followed by a character that is no digit, so that it is read to its
end. A leap second is written as second 60, which no other second is. -/
theorem parse?_text (t : DateTime) : parse? t.text = some t.wholeMillis := by
  rw [parse?, fields?_text, Option.bind_some, of?_fields]

end DateTime

end TypedSql.Calendar
