import TypedSql.Proofs.Calendar.TextOrder
import TypedSql.Proofs.Codec.RoundTrip
import TypedSql.Proofs.Store.StoredForm
import TypedSql.Text.Percent

/-!
# The order of stored times

Points in time are stored as integers, which are in the order of time. Calendar date-times are
stored as texts, which a store compares by their bytes; these are in the order of time as long as
the years are, as texts.

## Main definitions

* `Instant.IsBefore` — the order of points in time.
* `Codec.compare?`, `Codec.IsOrdered` — the order in which a store has the cells of two values.

## Main results

* `Codec.compare?_dateTime` — stored date-times are compared by the bytes of their texts.
* `Codec.temporal_order` — when the cells of two times are in order, and when they are equal.
* `Sample.newYear_not_ordered` — the year 10000 is stored before the year 9999.
-/

set_option autoImplicit false

namespace TypedSql

open Calendar (DateTime Instant YearsInOrder)

/-! ## Bytes of texts -/

namespace Text

/-- Bytes are listed from a place to their end, behind those that are listed already. -/
lemma toList_loop (bytes : ByteArray) (i : Nat) (read : List UInt8) :
    ByteArray.toList.loop bytes i read = read.reverse ++ bytes.data.toList.drop i := by
  fun_induction ByteArray.toList.loop bytes i read with
  | case1 i read h ih =>
    have hi : i < bytes.data.toList.length := by simpa using h
    rw [ih, List.drop_eq_getElem_cons hi, List.reverse_cons, List.append_assoc]
    simp [ByteArray.get!, h]
  | case2 i read h =>
    rw [List.drop_eq_nil_of_le (by simpa using h), List.append_nil]

/-- The bytes of a text, character by character. -/
lemma utf8Bytes_ofList (s : List Char) :
    utf8Bytes (String.ofList s) = s.flatMap String.utf8EncodeChar := by
  rw [utf8Bytes, ByteArray.toList, toList_loop, String.toUTF8, String.toByteArray_ofList,
    List.utf8Encode, List.toList_data_toByteArray]
  rfl

/-- Texts of ASCII characters are compared by their bytes as by their characters. -/
lemma compareLex_utf8Bytes {s t : List Char} (hs : ∀ c ∈ s, c.toNat < 128)
    (ht : ∀ c ∈ t, c.toNat < 128) :
    List.compareLex (compareOn UInt8.toNat) (utf8Bytes (String.ofList s))
      (utf8Bytes (String.ofList t)) = Calendar.compareChars s t := by
  -- such a character is a single byte, and this byte is its code point
  have hone : ∀ {c : Char}, c.toNat < 128 →
      ∃ b : UInt8, String.utf8EncodeChar c = [b] ∧ b.toNat = c.toNat := by
    intro c hc
    have hsize : c.utf8Size = 1 := Char.utf8Size_eq_one_iff.mpr (UInt32.le_iff_toNat_le.mpr
      (Nat.le_of_lt_succ hc))
    exact ⟨_, String.utf8EncodeChar_eq_singleton hsize, Nat.mod_eq_of_lt (by
      show c.toNat < 256
      omega)⟩
  rw [utf8Bytes_ofList, utf8Bytes_ofList]
  induction s generalizing t with
  | nil =>
    cases t with
    | nil => rfl
    | cons c t =>
      obtain ⟨b, hb, -⟩ := hone (ht c List.mem_cons_self)
      rw [List.flatMap_cons, hb]
      rfl
  | cons c s ih =>
    rw [List.forall_mem_cons] at hs
    obtain ⟨b, hb, hbc⟩ := hone hs.1
    cases t with
    | nil =>
      rw [List.flatMap_cons, hb]
      rfl
    | cons d t =>
      rw [List.forall_mem_cons] at ht
      obtain ⟨e, he, hed⟩ := hone ht.1
      rw [List.flatMap_cons, List.flatMap_cons, hb, he, List.singleton_append,
        List.singleton_append, List.compareLex_cons_cons, compareOn, Calendar.compareChars_cons,
        ih hs.2 ht.2, hbc, hed]

end Text

/-! ## Cells of times -/

/-- Whether a point in time comes before another. -/
def Calendar.Instant.IsBefore (a b : Instant) : Prop :=
  a.seconds < b.seconds ∨ a.seconds = b.seconds ∧ a.nanos < b.nanos

namespace Codec

/-- The order in which a store has the cells of two values. -/
def compare? {α : Type} (codec : Codec α) (v w : α) : Option Ordering :=
  (codec.encode v).toDatum.compare? (codec.encode w).toDatum

/-- Whether a store finds the cell of a value less than the cell of another, or equal to it. -/
def IsOrdered {α : Type} (codec : Codec α) (v w : α) : Prop :=
  BinaryOp.comparison .lessEqual (codec.encode v).toDatum (codec.encode w).toDatum = some true

instance {α : Type} (codec : Codec α) (v w : α) : Decidable (codec.IsOrdered v w) :=
  inferInstanceAs (Decidable (_ = _))

/-- Values that their cells put into an order are ordered unless the first is the greater. -/
lemma isOrdered_iff {α : Type} {codec : Codec α} {v w : α} {o : Ordering}
    (h : codec.compare? v w = some o) : codec.IsOrdered v w ↔ o ≠ .gt := by
  unfold compare? at h
  simp [IsOrdered, BinaryOp.comparison, h, BinaryOp.holdsOf]

/-- Stored date-times are compared by the bytes of their texts. -/
theorem compare?_dateTime (a b : DateTime) :
    dateTime.compare? a b = some (List.compareLex (compareOn UInt8.toNat)
      (Text.utf8Bytes (String.ofList a.text)) (Text.utf8Bytes (String.ofList b.text))) := by
  rw [Text.compareLex_utf8Bytes a.toNat_lt_of_mem_text b.toNat_lt_of_mem_text]
  simp [compare?, dateTime, Cell.toDatum, Datum.compare?, Datum.isNull, Datum.sortCompare,
    Calendar.compareChars]

/-- Stored points in time are compared by their seconds. -/
lemma compare?_instant (a b : Instant) :
    instant.compare? a b = some (compare a.seconds b.seconds) := by
  have hcell : ∀ t : Instant, (instant.encode t).toDatum = .int t.seconds := by
    intro t
    have hleast := t.seconds_least
    have hgreatest := t.seconds_greatest
    simp only [instant, Cell.toDatum]
    rw [Int64.toInt_ofInt_of_le (by omega) (by omega)]
  rw [compare?, hcell, hcell]
  simp [Datum.compare?, Datum.isNull, Datum.sortCompare, Datum.number?, Number.Exact.ofInt,
    Number.Exact.compare]

/-- The cells of two date-times are equal if and only if these agree to the millisecond. -/
lemma compare?_dateTime_eq_iff {a b : DateTime} :
    dateTime.compare? a b = some .eq ↔ a.wholeMillis = b.wholeMillis := by
  have hkey : Function.Injective Char.toNat := fun _ _ h => Char.toNat_inj.mp h
  rw [compare?_dateTime, Text.compareLex_utf8Bytes a.toNat_lt_of_mem_text b.toNat_lt_of_mem_text,
    Option.some_inj, Calendar.compareChars, Datum.compareLex_eq hkey]
  constructor
  · intro h
    have hread := a.parse?_text
    rw [h, b.parse?_text, Option.some_inj] at hread
    exact hread.symm
  · intro h
    rw [← a.text_wholeMillis, ← b.text_wholeMillis, h]

/-- The cells of two points in time are equal if and only if these agree to the second. -/
lemma compare?_instant_eq_iff {a b : Instant} :
    instant.compare? a b = some .eq ↔ a.wholeSeconds = b.wholeSeconds := by
  rw [compare?_instant, Option.some_inj, compare_eq_iff_eq, Instant.wholeSeconds,
    Instant.wholeSeconds, Instant.mk.injEq]
  simp

/-- The cells of an earlier and a later date-time are in order if and only if these are of one year
or their years are in order. -/
lemma isOrdered_dateTime_iff {a b : DateTime} (h : a.IsBefore b) :
    dateTime.IsOrdered a b ↔ a.year = b.year ∨ YearsInOrder a.year b.year := by
  rw [isOrdered_iff (compare?_dateTime a b),
    Text.compareLex_utf8Bytes a.toNat_lt_of_mem_text b.toNat_lt_of_mem_text,
    DateTime.compareChars_text_iff h]

/-- Up to the end of 9999, the cells of an earlier and a later date-time of the years from 0 on are
in order. -/
lemma isOrdered_dateTime_of_le {a b : DateTime} (h : a.IsBefore b) (hfirst : 0 ≤ b.year)
    (hlast : b.year ≤ 9999) : dateTime.IsOrdered a b :=
  (isOrdered_dateTime_iff h).mpr (.inr (Calendar.yearsInOrder_of_le hfirst hlast))

/-- The cells of an earlier and a later point in time are in order. -/
lemma isOrdered_instant {a b : Instant} (h : a.IsBefore b) : instant.IsOrdered a b := by
  rw [isOrdered_iff (compare?_instant a b), ne_eq, compare_gt_iff_gt]
  rcases h with h | ⟨h, -⟩ <;> omega

/-- The cells of two points in time are in the order of time, and equal if and only if these agree
to the second. The cells of two calendar date-times are equal if and only if these agree to the
millisecond; those of an earlier and a later one are in order if and only if both are of one year,
or their years are in order, which all are up to 9999 from 0 on.

*Proof sketch.* The texts of a year and of what follows it are compared one after the other
(`DateTime.text_eq`). After the year all numbers have a fixed width, so that the texts of one year
compare as the fields that are written, which are in the order of time
(`DateTime.compareChars_textAfterYear`). Years of four digits compare as numbers; a plus comes
before a minus and both before all digits; and of two years of one sign, that comes first whose
digits are less when zeros behind them make up for a difference in length. -/
theorem temporal_order (a b : DateTime) (i j : Instant) :
    (a.IsBefore b → (dateTime.IsOrdered a b ↔ a.year = b.year ∨ YearsInOrder a.year b.year)) ∧
    (dateTime.compare? a b = some .eq ↔ a.wholeMillis = b.wholeMillis) ∧
    (i.IsBefore j → instant.IsOrdered i j) ∧
    (instant.compare? i j = some .eq ↔ i.wholeSeconds = j.wholeSeconds) :=
  ⟨isOrdered_dateTime_iff, compare?_dateTime_eq_iff, isOrdered_instant, compare?_instant_eq_iff⟩

end Codec

namespace Sample

/-- The last second of 9999. -/
def yearEnd : DateTime := ⟨⟨9999, 12, 31, 23, 59, 59, 0⟩, by decide⟩

/-- The leap second after it. -/
def leapSecond : DateTime := ⟨⟨9999, 12, 31, 23, 59, 59, 1000000000⟩, by decide⟩

/-- The first second of 10000. -/
def newYear : DateTime := ⟨⟨10000, 1, 1, 0, 0, 0, 0⟩, by decide⟩

/-- A nanosecond after the first day of 1970. -/
def secondDay : Instant := ⟨86400, 1, by decide, by decide, by decide⟩

/-- The last nanosecond of that day. -/
def firstDay : Instant := ⟨86399, 999999999, by decide, by decide, by decide⟩

/-- A leap second comes after the second before it; the year 10000 comes before the year 9999. The
points in time on both sides of a midnight are in order. -/
theorem leapSecond_ordered : yearEnd.IsBefore leapSecond ∧ leapSecond.IsBefore newYear ∧
    Codec.dateTime.IsOrdered yearEnd leapSecond ∧ ¬ Codec.dateTime.IsOrdered leapSecond newYear ∧
    Codec.instant.IsOrdered firstDay secondDay := by
  have hbefore : yearEnd.IsBefore leapSecond := by decide
  have hbefore' : leapSecond.IsBefore newYear := by decide
  obtain ⟨hordered, -, hinstants, -⟩ :=
    Codec.temporal_order yearEnd leapSecond firstDay secondDay
  have hordered' := (Codec.temporal_order leapSecond newYear firstDay secondDay).1
  refine ⟨hbefore, hbefore', (hordered hbefore).mpr (.inl rfl), ?_, hinstants (.inl (by decide))⟩
  rw [hordered' hbefore']
  decide

/-- Not all stored date-times are in the order of time. -/
theorem newYear_not_ordered :
    ¬ ∀ a b : DateTime, a.IsBefore b → Codec.dateTime.IsOrdered a b := by
  intro h
  have hordered : Codec.dateTime.IsOrdered yearEnd newYear := h yearEnd newYear (by decide)
  revert hordered
  decide +kernel

end Sample

end TypedSql
