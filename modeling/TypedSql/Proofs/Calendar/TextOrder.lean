import TypedSql.Proofs.Calendar.DateTimeText
import TypedSql.Store.Datum

/-!
# The order of the texts of calendar date-times

Texts are compared character by character. All parts of a date-time but the year have a fixed
number of digits, so that within a year the texts are in the order of time. Years from 0 to 9999
have four digits each; other years have a sign in front and four digits or more, and of those with
the same sign the leading digits count first.

## Main definitions

* `compareChars` — the order of two texts.
* `DateTime.IsBefore` — the order in time.
* `leadingDigits`, `YearsInOrder` — when the texts of an earlier and a later year are in order.

## Main results

* `compareChars_padded` — numbers of one width are compared as numbers.
* `compareChars_hyphen` — digits of any widths, each followed by a hyphen.
* `compareChars_yearText_iff` — the texts of two years.
* `DateTime.compareChars_text_iff` — the texts of two date-times.
-/

set_option autoImplicit false

namespace TypedSql.Calendar

open Number (IsDigits decimalDigits isDigit_rightpad)

/-! ## Texts -/

/-- The order of two texts: character by character, by their code points. -/
def compareChars (s t : List Char) : Ordering := List.compareLex (compareOn Char.toNat) s t

/-- The first characters are compared first. -/
lemma compareChars_cons (c d : Char) (s t : List Char) : compareChars (c :: s) (d :: t) =
    (compare c.toNat d.toNat).then (compareChars s t) :=
  List.compareLex_cons_cons

/-- A text is equal to itself. -/
@[simp]
lemma compareChars_self (s : List Char) : compareChars s s = .eq := by
  show List.compareLex (compareOn Char.toNat) s s = .eq
  exact Std.ReflCmp.compare_self

/-- Two texts the other way round are in the opposite order. -/
lemma compareChars_swap (s t : List Char) : compareChars s t = (compareChars t s).swap := by
  show List.compareLex (compareOn Char.toNat) s t =
    (List.compareLex (compareOn Char.toNat) t s).swap
  exact Std.OrientedCmp.eq_swap

/-- Of texts that start with parts of one length, these parts are compared first. -/
lemma compareChars_append {s t : List Char} (h : s.length = t.length) (s' t' : List Char) :
    compareChars (s ++ s') (t ++ t') = (compareChars s t).then (compareChars s' t') := by
  induction s generalizing t with
  | nil =>
    rw [List.eq_nil_of_length_eq_zero h.symm]
    rfl
  | cons c s ih =>
    cases t with
    | nil => cases h
    | cons d t =>
      rw [List.cons_append, List.cons_append, compareChars_cons, compareChars_cons,
        ih (Nat.succ.inj h), Ordering.then_assoc]

/-- What stands in front of both texts does not matter. -/
lemma compareChars_append_left (s t t' : List Char) :
    compareChars (s ++ t) (s ++ t') = compareChars t t' := by
  rw [compareChars_append rfl, compareChars_self, Ordering.eq_then]

/-- The first character of both texts does not matter. -/
lemma compareChars_cons_left (c : Char) (s t : List Char) :
    compareChars (c :: s) (c :: t) = compareChars s t :=
  compareChars_append_left [c] s t

/-! ## Numbers of one width -/

/-- The digits that follow decide between numbers only where the digits before agree. -/
lemma compare_ten_mul_add {m n d e : Nat} (hd : d ≤ 9) (he : e ≤ 9) :
    compare (10 * m + d) (10 * n + e) = (compare m n).then (compare d e) := by
  rcases Nat.lt_trichotomy m n with h | rfl | h
  · rw [Nat.compare_eq_lt.mpr h, Nat.compare_eq_lt.mpr (by omega)]
    rfl
  · simp only [Nat.compare_eq_ite_lt]
    grind
  · rw [Nat.compare_eq_gt.mpr h, Nat.compare_eq_gt.mpr (by omega)]
    rfl

/-- Digits of one number are compared as the numbers they stand for. -/
lemma compareChars_ofDigitChars {ds es : List Char} (hds : ∀ c ∈ ds, c.isDigit = true)
    (hes : ∀ c ∈ es, c.isDigit = true) (h : ds.length = es.length) :
    compareChars ds es =
      compare (Nat.ofDigitChars 10 ds 0) (Nat.ofDigitChars 10 es 0) := by
  -- the digits read so far are carried along as the numbers `m` and `n`
  suffices hfold : ∀ m n : Nat,
      compare (Nat.ofDigitChars 10 ds m) (Nat.ofDigitChars 10 es n) =
        (compare m n).then (compareChars ds es) from (hfold 0 0).symm
  induction ds generalizing es with
  | nil =>
    rw [List.eq_nil_of_length_eq_zero h.symm]
    simp
  | cons d ds ih =>
    cases es with
    | nil => cases h
    | cons e es =>
      rw [List.forall_mem_cons] at hds hes
      have hd : 48 ≤ d.toNat ∧ d.toNat ≤ 57 := Char.isDigit_iff_toNat.mp hds.1
      have he : 48 ≤ e.toNat ∧ e.toNat ≤ 57 := Char.isDigit_iff_toNat.mp hes.1
      have hzero : '0'.toNat = 48 := rfl
      intro m n
      have hcompare : compare (d.toNat - 48) (e.toNat - 48) = compare d.toNat e.toNat := by
        simp only [Nat.compare_eq_ite_lt]
        grind
      rw [Nat.ofDigitChars_cons, Nat.ofDigitChars_cons, ih hds.2 hes.2 (Nat.succ.inj h), hzero,
        compare_ten_mul_add (by omega) (by omega), hcompare, Ordering.then_assoc,
        compareChars_cons]

/-- Numbers of one width are compared as numbers, and then what follows them. -/
theorem compareChars_padded {width m n : Nat} (hm : m < 10 ^ width) (hn : n < 10 ^ width)
    (hwidth : width ≠ 0) (s t : List Char) :
    compareChars (padded width m ++ s) (padded width n ++ t) =
      (compare m n).then (compareChars s t) := by
  have hlength : (padded width m).length = (padded width n).length := by
    rw [length_padded hm hwidth, length_padded hn hwidth]
  rw [compareChars_append hlength, compareChars_ofDigitChars (isDigits_padded width m).2
    (isDigits_padded width n).2 hlength, ofDigitChars_padded, ofDigitChars_padded]

/-! ## Numbers of different widths -/

section Hyphen

variable {width : Nat} {ds es : List Char}

/-- Each zero behind digits makes their number ten times as great. -/
lemma ofDigitChars_append_zeros (ds : List Char) (k : Nat) :
    Nat.ofDigitChars 10 (ds ++ List.replicate k '0') 0 = Nat.ofDigitChars 10 ds 0 * 10 ^ k := by
  rw [Nat.ofDigitChars_append, Nat.ofDigitChars_replicate_zero, Nat.mul_comm]

/-- Zeros are at most as great as any digits. -/
lemma compareChars_zeros (hds : ∀ c ∈ ds, c.isDigit = true) :
    compareChars (List.replicate ds.length '0') ds ≠ .gt := by
  have hzeros : Nat.ofDigitChars 10 (List.replicate ds.length '0') 0 = 0 := by
    rw [Nat.ofDigitChars_replicate_zero, Nat.mul_zero]
  rw [compareChars_ofDigitChars (by simp) hds (by simp), hzeros, ne_eq, Nat.compare_eq_gt]
  omega

/-- The order of digits as if zeros filled them up to a width; of those that then agree, the shorter
ones come first. -/
def compareDigits (width : Nat) (ds es : List Char) : Ordering :=
  (compareChars (ds.rightpad width '0') (es.rightpad width '0')).then
    (compare ds.length es.length)

/-- Digits compared the other way round are in the opposite order. -/
lemma compareDigits_swap (width : Nat) (ds es : List Char) :
    compareDigits width ds es = (compareDigits width es ds).swap := by
  rw [compareDigits, compareDigits, Ordering.swap_then, ← compareChars_swap, Nat.compare_swap]

/-- No digits come before any. -/
lemma compareDigits_nil {e : Char} (hes : ∀ c ∈ e :: es, c.isDigit = true)
    (hew : (e :: es).length ≤ width) : compareDigits width [] (e :: es) = .lt := by
  have hzeros := compareChars_zeros (isDigit_rightpad hes width)
  rw [List.length_rightpad, max_eq_left hew] at hzeros
  have hlength : compare ([] : List Char).length (e :: es).length = .lt :=
    Nat.compare_eq_lt.mpr (Nat.succ_pos _)
  have hpad : ([] : List Char).rightpad width '0' = List.replicate width '0' := rfl
  rw [compareDigits, hlength, hpad]
  cases hpads : compareChars (List.replicate width '0')
    ((e :: es).rightpad width '0') with
  | gt => exact absurd hpads hzeros
  | lt | eq => rfl

/-- The first digits are compared first. -/
lemma compareDigits_cons (width : Nat) (d e : Char) (ds es : List Char) :
    compareDigits (width + 1) (d :: ds) (e :: es) =
      (compare d.toNat e.toNat).then (compareDigits width ds es) := by
  have hpad : ∀ (c : Char) (cs : List Char),
      (c :: cs).rightpad (width + 1) '0' = c :: cs.rightpad width '0' := by
    intro c cs
    simp [List.rightpad]
  have hlength : compare (d :: ds).length (e :: es).length = compare ds.length es.length := by
    simp only [List.length_cons, Nat.compare_eq_ite_lt, Nat.add_lt_add_iff_right]
  rw [compareDigits, compareDigits, hpad, hpad, hlength, compareChars_cons, Ordering.then_assoc]

/-- A hyphen comes before digits. -/
lemma compareChars_hyphen_cons {e : Char} (he : e.isDigit = true) (s t : List Char) :
    compareChars ('-' :: s) (e :: t) = .lt := by
  have hfirst : '-'.toNat < e.toNat :=
    Nat.lt_of_lt_of_le (by decide) (Char.isDigit_iff_toNat.mp he).1
  rw [compareChars_cons, Nat.compare_eq_lt.mpr hfirst, Ordering.lt_then]

/-- Digits with a hyphen behind them are compared as if zeros filled them up to one length, where
the hyphen of the shorter ones comes before a digit. -/
theorem compareChars_hyphen (hds : ∀ c ∈ ds, c.isDigit = true) (hes : ∀ c ∈ es, c.isDigit = true)
    (hdw : ds.length ≤ width) (hew : es.length ≤ width) (s t : List Char) :
    compareChars (ds ++ '-' :: s) (es ++ '-' :: t) =
      (compareDigits width ds es).then (compareChars s t) := by
  induction ds generalizing es width with
  | nil =>
    cases es with
    | nil => simp [compareChars_cons_left, compareDigits]
    | cons e es =>
      rw [compareDigits_nil hes hew, List.nil_append, List.cons_append,
        compareChars_hyphen_cons (hes e List.mem_cons_self)]
      rfl
  | cons d ds ih =>
    cases es with
    | nil =>
      rw [compareDigits_swap, compareDigits_nil hds hdw, compareChars_swap, List.nil_append,
        List.cons_append, compareChars_hyphen_cons (hds d List.mem_cons_self)]
      rfl
    | cons e es =>
      obtain ⟨width, rfl⟩ := Nat.exists_eq_add_one_of_ne_zero (Nat.ne_of_gt (Nat.zero_lt_of_lt hdw))
      rw [List.forall_mem_cons] at hds hes
      rw [List.cons_append, List.cons_append, compareChars_cons, compareDigits_cons,
        ih hds.2 hes.2 (Nat.le_of_succ_le_succ hdw) (Nat.le_of_succ_le_succ hew),
        Ordering.then_assoc]

end Hyphen

/-! ## Years -/

/-- The digits of a year as the first six digits of a number. -/
def leadingDigits (n : Nat) : Nat :=
  if n < 10000 then 100 * n else if n < 100000 then 10 * n else n

/-- Whether the texts of an earlier and a later year are in order. -/
def YearsInOrder (earlier later : Int) : Prop :=
  if later < 0 then leadingDigits earlier.natAbs < leadingDigits later.natAbs
  else later ≤ 9999 ∨ 9999 < earlier ∧
    leadingDigits earlier.natAbs ≤ leadingDigits later.natAbs

instance (y z : Int) : Decidable (YearsInOrder y z) := by
  unfold YearsInOrder
  infer_instance

/-- Years from 0 to 9999 are in order, after each other and after years before them. -/
lemma yearsInOrder_of_le {y z : Int} (hfirst : 0 ≤ z) (hlast : z ≤ 9999) : YearsInOrder y z := by
  rw [YearsInOrder, if_neg (by omega)]
  exact .inl hlast

/-- A number of at most six digits, of which at least four are written. -/
lemma length_padded_four {n : Nat} (hn : n < 1000000) :
    (padded 4 n).length = if n < 10000 then 4 else if n < 100000 then 5 else 6 := by
  have hle : ∀ k, 0 < k → ((decimalDigits n).length ≤ k ↔ n < 10 ^ k) := fun k hk =>
    Nat.length_toDigits_le_iff (by decide) hk
  have hfour := hle 4 (by decide)
  have hfive := hle 5 (by decide)
  have hsix := hle 6 (by decide)
  have hlength : (padded 4 n).length = max 4 (decimalDigits n).length := by
    rw [padded, List.length_leftpad]
  split_ifs <;> omega

/-- The order of two years of one sign, without the sign and with a hyphen behind them. -/
lemma compareChars_padded_four {m n : Nat} (hm : m < 1000000) (hn : n < 1000000) (hne : m ≠ n)
    (s t : List Char) :
    compareChars (padded 4 m ++ '-' :: s) (padded 4 n ++ '-' :: t) =
      (compare (leadingDigits m) (leadingDigits n)).then (compare m n) := by
  have hwidth : ∀ {k}, k < 1000000 → (padded 4 k).length ≤ 6 ∧
      Nat.ofDigitChars 10 ((padded 4 k).rightpad 6 '0') 0 = leadingDigits k := by
    intro k hk
    have hlength := length_padded_four hk
    rw [List.rightpad, ofDigitChars_append_zeros, ofDigitChars_padded, hlength, leadingDigits]
    split_ifs <;> omega
  have hlengths : ((padded 4 m).rightpad 6 '0').length = ((padded 4 n).rightpad 6 '0').length := by
    rw [List.length_rightpad, List.length_rightpad, max_eq_left (hwidth hm).1,
      max_eq_left (hwidth hn).1]
  rw [compareChars_hyphen (isDigits_padded 4 m).2 (isDigits_padded 4 n).2 (hwidth hm).1
    (hwidth hn).1, compareDigits,
    compareChars_ofDigitChars (isDigit_rightpad (isDigits_padded 4 m).2 6)
      (isDigit_rightpad (isDigits_padded 4 n).2 6) hlengths,
    (hwidth hm).2, (hwidth hn).2, Ordering.then_assoc]
  -- numbers with the same leading digits differ in length
  rcases hleading : compare (leadingDigits m) (leadingDigits n) with _ | _ | _
  · rfl
  · rw [Nat.compare_eq_eq] at hleading
    have hlength : compare (padded 4 m).length (padded 4 n).length = compare m n := by
      rw [length_padded_four hm, length_padded_four hn]
      simp only [leadingDigits] at hleading
      rcases Nat.lt_or_gt_of_ne hne with h | h
      · rw [Nat.compare_eq_lt.mpr h, Nat.compare_eq_lt]
        grind
      · rw [Nat.compare_eq_gt.mpr h, Nat.compare_eq_gt]
        grind
    rw [hlength, Ordering.eq_then, Ordering.eq_then]
    rcases Nat.lt_or_gt_of_ne hne with h | h
    · rw [Nat.compare_eq_lt.mpr h, Ordering.lt_then]
    · rw [Nat.compare_eq_gt.mpr h, Ordering.gt_then]
  · rfl

/-- A year before 0 is written with a minus. -/
lemma yearText_of_neg {y : Int} (h : y < 0) : yearText y = '-' :: padded 4 y.natAbs := by
  rw [yearText, if_neg (by omega), if_pos h]

/-- A year from 0 to 9999 is written without a sign. -/
lemma yearText_of_le {y : Int} (hfirst : 0 ≤ y) (hlast : y ≤ 9999) :
    yearText y = padded 4 y.natAbs := by
  rw [yearText, if_pos ⟨hfirst, hlast⟩, show y.toNat = y.natAbs by omega]

/-- A year after 9999 is written with a plus. -/
lemma yearText_of_gt {y : Int} (h : 9999 < y) : yearText y = '+' :: padded 4 y.natAbs := by
  rw [yearText, if_neg (by omega), if_neg (by omega)]

/-- What comes before all digits comes before a number. -/
lemma compareChars_sign_padded {c : Char} (hc : c.toNat < 48) (width n : Nat)
    (s t : List Char) : compareChars (c :: s) (padded width n ++ t) = .lt := by
  obtain ⟨hne, hdigits⟩ := isDigits_padded width n
  obtain ⟨d, ds, hds⟩ := List.exists_cons_of_ne_nil hne
  have hd : 48 ≤ d.toNat ∧ d.toNat ≤ 57 := Char.isDigit_iff_toNat.mp (hdigits d (by simp [hds]))
  rw [hds, List.cons_append, compareChars_cons, Nat.compare_eq_lt.mpr (by omega),
    Ordering.lt_then]

/-- The texts of an earlier and a later year, with hyphens behind them. -/
theorem compareChars_yearText_iff {y z : Int} (hy : -1000000 < y) (hyz : y < z) (hz : z < 1000000)
    (s t : List Char) :
    compareChars (yearText y ++ '-' :: s) (yearText z ++ '-' :: t) ≠ .gt ↔
      YearsInOrder y z := by
  have hsigned : ∀ c m n, compareChars (c :: padded 4 m ++ '-' :: s)
      (c :: padded 4 n ++ '-' :: t) =
        compareChars (padded 4 m ++ '-' :: s) (padded 4 n ++ '-' :: t) :=
    fun c _ _ => compareChars_cons_left c _ _
  unfold YearsInOrder
  by_cases hzneg : z < 0
  · -- the later of two years before 0 has the smaller number
    have hlater : compare y.natAbs z.natAbs = .gt := Nat.compare_eq_gt.mpr (by omega)
    rw [if_pos hzneg, yearText_of_neg hzneg, yearText_of_neg (by omega), hsigned,
      compareChars_padded_four (by omega) (by omega) (by omega), hlater, ne_eq,
      Ordering.then_eq_gt, Nat.compare_eq_gt, Nat.compare_eq_eq]
    simp only [and_true]
    omega
  rw [if_neg hzneg]
  by_cases hzlast : z ≤ 9999
  · rw [yearText_of_le (by omega) hzlast]
    refine iff_of_true ?_ (.inl hzlast)
    by_cases hyneg : y < 0
    · rw [yearText_of_neg hyneg, List.cons_append, compareChars_sign_padded (by decide)]
      decide
    · have hearlier : compare y.natAbs z.natAbs = .lt := Nat.compare_eq_lt.mpr (by omega)
      rw [yearText_of_le (by omega) (by omega), compareChars_padded (by omega) (by omega)
        (by decide), hearlier, Ordering.lt_then]
      decide
  · have hzgt : 9999 < z := by omega
    rw [yearText_of_gt hzgt]
    by_cases hylast : y ≤ 9999
    · -- a plus comes before a hyphen and before digits
      refine iff_of_false (not_not.mpr ?_) (by omega)
      by_cases hyneg : y < 0
      · rw [yearText_of_neg hyneg]
        rfl
      · rw [yearText_of_le (by omega) hylast, compareChars_swap, List.cons_append,
          compareChars_sign_padded (by decide)]
        rfl
    · have hearlier : compare y.natAbs z.natAbs = .lt := Nat.compare_eq_lt.mpr (by omega)
      rw [yearText_of_gt (by omega), hsigned, compareChars_padded_four (by omega) (by omega)
        (by omega), hearlier, ne_eq, Ordering.then_eq_gt, Nat.compare_eq_gt]
      simp only [reduceCtorEq, and_false, or_false, not_lt]
      omega

/-! ## Date-times -/

namespace DateTime

/-- The fields of a date-time, the longest units first. -/
def parts (t : DateTime) : List Int :=
  [t.year, t.month, t.day, t.hour, t.minute, t.second, t.nanos]

/-- Whether a date-time comes before another: the first field in which they differ is less. -/
def IsBefore (a b : DateTime) : Prop := a.parts < b.parts

instance (a b : DateTime) : Decidable (a.IsBefore b) :=
  inferInstanceAs (Decidable (a.parts < b.parts))

variable {a b : DateTime}

/-- The bounds of the fields that are written with two digits, and of the fraction. -/
lemma written_lt (t : DateTime) : t.month < 100 ∧ t.day < 100 ∧ t.hour < 100 ∧
    t.minute < 100 ∧ t.writtenSecond < 100 ∧ t.writtenMillis < 1000 := by
  obtain ⟨⟨-, hday, hdays⟩, hhour, hminute, hsecond, hnanos, -⟩ := t.valid
  have hmonth := le_of_daysInMonth (hday.trans hdays)
  have hlast := hdays.trans (daysInMonth_le _ _)
  simp only [nanosPerSecond] at hnanos
  have hwritten : t.writtenSecond = t.second + t.nanos / 1000000000 := rfl
  have hmillis : t.writtenMillis = t.nanos % 1000000000 / 1000000 := rfl
  omega

/-- What is written after the year. -/
def textAfterYear (t : DateTime) : List Char :=
  padded 2 t.month ++ '-' :: (padded 2 t.day ++ ' ' :: (padded 2 t.hour ++ ':' ::
    (padded 2 t.minute ++ ':' :: (padded 2 t.writtenSecond ++ '.' :: padded 3 t.writtenMillis))))

/-- A date-time is written as its year, a hyphen and the rest. -/
lemma text_eq (t : DateTime) : t.text = yearText t.year ++ '-' :: t.textAfterYear := by
  simp [text, textAfterYear]

/-- All characters of a date-time are ASCII. -/
lemma toNat_lt_of_mem_text (t : DateTime) : ∀ c ∈ t.text, c.toNat < 128 := by
  have hpadded : ∀ width n, ∀ c ∈ padded width n, c.toNat < 128 := by
    intro width n c hc
    have hbounds : 48 ≤ c.toNat ∧ c.toNat ≤ 57 :=
      Char.isDigit_iff_toNat.mp ((isDigits_padded width n).2 c hc)
    omega
  have hyear : ∀ c ∈ yearText t.year, c.toNat < 128 := by
    unfold yearText
    split_ifs
    · exact hpadded 4 _
    · exact List.forall_mem_cons.mpr ⟨by decide, hpadded 4 _⟩
    · exact List.forall_mem_cons.mpr ⟨by decide, hpadded 4 _⟩
  simp only [text_eq, textAfterYear, List.forall_mem_append, List.forall_mem_cons]
  exact ⟨hyear, by decide, hpadded 2 _, by decide, hpadded 2 _, by decide, hpadded 2 _, by decide,
    hpadded 2 _, by decide, hpadded 2 _, by decide, hpadded 3 _⟩

/-- A date-time is written as it is when cut to milliseconds. -/
lemma text_wholeMillis (t : DateTime) : t.wholeMillis.text = t.text := by
  have hsecond : t.wholeMillis.writtenSecond = t.writtenSecond := by
    simp only [writtenSecond, wholeMillis, nanosPerSecond]
    omega
  have hmillis : t.wholeMillis.writtenMillis = t.writtenMillis := by
    simp only [writtenMillis, wholeMillis, nanosPerSecond]
    omega
  rw [text, hsecond, hmillis]
  rfl

/-- After the year, texts are compared field by field. -/
lemma compareChars_textAfterYear (a b : DateTime) :
    compareChars a.textAfterYear b.textAfterYear =
      (compare a.month b.month).then ((compare a.day b.day).then ((compare a.hour b.hour).then
        ((compare a.minute b.minute).then ((compare a.writtenSecond b.writtenSecond).then
          (compare a.writtenMillis b.writtenMillis))))) := by
  obtain ⟨hmonth, hday, hhour, hminute, hsecond, hmillis⟩ := a.written_lt
  obtain ⟨hmonth', hday', hhour', hminute', hsecond', hmillis'⟩ := b.written_lt
  have hlast := compareChars_padded (show _ < 10 ^ 3 from hmillis) (show _ < 10 ^ 3 from hmillis')
    (by decide) [] []
  rw [List.append_nil, List.append_nil, compareChars_self, Ordering.then_eq] at hlast
  rw [textAfterYear, textAfterYear,
    compareChars_padded hmonth hmonth' (by decide), compareChars_cons_left,
    compareChars_padded hday hday' (by decide), compareChars_cons_left,
    compareChars_padded hhour hhour' (by decide), compareChars_cons_left,
    compareChars_padded hminute hminute' (by decide), compareChars_cons_left,
    compareChars_padded hsecond hsecond' (by decide), compareChars_cons_left, hlast]

/-- A leap second is written after the second before it, and a fraction is cut. -/
lemma written_of_lt (h : a.second < b.second ∨ a.second = b.second ∧ a.nanos < b.nanos) :
    a.writtenSecond < b.writtenSecond ∨
      a.writtenSecond = b.writtenSecond ∧ a.writtenMillis ≤ b.writtenMillis := by
  obtain ⟨-, -, -, -, hnanos, hleap⟩ := a.valid
  have hlast : b.second < 60 := b.valid.2.2.2.1
  simp only [nanosPerSecond] at hnanos hleap
  have ha : a.writtenSecond = a.second + a.nanos / 1000000000 := rfl
  have hb : b.writtenSecond = b.second + b.nanos / 1000000000 := rfl
  have ha' : a.writtenMillis = a.nanos % 1000000000 / 1000000 := rfl
  have hb' : b.writtenMillis = b.nanos % 1000000000 / 1000000 := rfl
  omega

/-- The texts of an earlier and a later date-time are in order if and only if they are of one year,
or their years are in order. -/
theorem compareChars_text_iff (h : a.IsBefore b) :
    compareChars a.text b.text ≠ .gt ↔ a.year = b.year ∨ YearsInOrder a.year b.year := by
  obtain ⟨⟨hafirst, -⟩, -⟩ := a.valid.1
  obtain ⟨⟨-, hblast⟩, -⟩ := b.valid.1
  simp only [IsBefore, parts, List.cons_lt_cons_iff, Nat.cast_inj, Nat.cast_lt, List.not_lt_nil,
    and_false, or_false] at h
  rw [text_eq, text_eq]
  rcases h with hyear | ⟨hyear, h⟩
  · rw [compareChars_yearText_iff (by omega) hyear (by omega)]
    simp [hyear.ne]
  · refine iff_of_true ?_ (.inl hyear)
    rw [hyear, compareChars_append_left, compareChars_cons_left, compareChars_textAfterYear]
    have hwritten := written_of_lt (a := a) (b := b)
    simp only [ne_eq, Ordering.then_eq_gt, Nat.compare_eq_gt, Nat.compare_eq_eq]
    omega

end DateTime

end TypedSql.Calendar
