import Mathlib.Algebra.Order.Ring.Nat
import Mathlib.Data.List.TakeWhile
import Mathlib.Data.Nat.Basic
import Mathlib.Tactic.ByContra
import Mathlib.Tactic.SplitIfs
import TypedSql.Number.RealText

/-!
# The form of real numbers as text

The text of a finite real is an optional minus followed by digits with a fraction, an exponent or
both. The only danger is an empty list of significant digits, from which `0.` or `e5` would arise;
it is ruled out because no decimal with coefficient zero is chosen for a number other than zero.

## Main definitions

* `IsDigits` — a non-empty list of decimal digits.
* `IsReal` — digits with a fraction, an exponent or both.

## Main results

* `shortest_coefficient_ne_zero` — the shortest decimal of a number other than zero is not zero.
* `realText_of_isFinite` — the text of a finite real.
-/

set_option autoImplicit false

namespace TypedSql.Number

/-! ## Digits -/

/-- A non-empty list of decimal digits. -/
def IsDigits (ds : List Char) : Prop := ds ≠ [] ∧ ∀ c ∈ ds, c.isDigit = true

/-- The sign of an exponent: a minus or nothing. -/
def IsSign (s : List Char) : Prop := s = [] ∨ s = ['-']

/-- Digits with a fraction, an exponent or both. -/
inductive IsReal : List Char → Prop where
  | point {whole part : List Char} (hw : IsDigits whole) (hp : IsDigits part) :
    IsReal (whole ++ '.' :: part)
  | power {whole sign digits : List Char} (hw : IsDigits whole) (hs : IsSign sign)
    (hd : IsDigits digits) : IsReal (whole ++ 'e' :: (sign ++ digits))
  | pointPower {whole part sign digits : List Char} (hw : IsDigits whole) (hp : IsDigits part)
    (hs : IsSign sign) (hd : IsDigits digits) :
    IsReal (whole ++ '.' :: (part ++ 'e' :: (sign ++ digits)))

/-- A real has a character that is no digit. -/
lemma IsReal.all_isDigit {body : List Char} (h : IsReal body) :
    body.all Char.isDigit = false := by
  cases h <;> simp

/-- Digits that are filled up with zeros are digits. -/
lemma isDigit_rightpad {ds : List Char} (hds : ∀ c ∈ ds, c.isDigit = true) (width : Nat) :
    ∀ c ∈ ds.rightpad width '0', c.isDigit = true := by
  intro c hc
  rcases List.mem_append.mp hc with hc | hc
  · exact hds c hc
  · rw [List.eq_of_mem_replicate hc]
    rfl

/-- The digits of a natural number are digits. -/
lemma isDigits_decimalDigits (n : Nat) : IsDigits (decimalDigits n) :=
  ⟨Nat.toDigits_ne_nil, fun _ hc => Nat.isDigit_of_mem_toDigits (by decide) (by decide) hc⟩

/-- A number is below the power of ten with as many zeros as it has digits. -/
lemma lt_pow_length_decimalDigits (n : Nat) : n < 10 ^ (decimalDigits n).length :=
  (Nat.length_toDigits_le_iff (by decide) Nat.length_toDigits_pos).mp le_rfl

/-- A number other than zero is at least the power of ten with one zero less than its digits. -/
lemma pow_length_decimalDigits_le {n : Nat} (h : n ≠ 0) :
    10 ^ ((decimalDigits n).length - 1) ≤ n := by
  by_cases hl : (decimalDigits n).length - 1 = 0
  · rw [hl]
    omega
  · by_contra hlt
    have := (Nat.length_toDigits_le_iff (b := 10) (by decide) (Nat.pos_of_ne_zero hl)).mpr
      (Nat.lt_of_not_le hlt)
    have hpos : 0 < (decimalDigits n).length := Nat.length_toDigits_pos
    unfold decimalDigits at *
    omega

/-- A digit remains when the zeros at the end are dropped, unless all digits are zero. -/
lemma isDigits_dropEndZeros {n : Nat} (h : n ≠ 0) :
    IsDigits (dropEndZeros (decimalDigits n)) := by
  refine ⟨fun hnil => h ?_, fun c hc => ?_⟩
  · -- a list of zeros stands for zero
    simp only [dropEndZeros, List.reverse_eq_nil_iff, List.dropWhile_eq_nil_iff, List.mem_reverse,
      beq_iff_eq] at hnil
    have zeros := List.eq_replicate_of_mem hnil
    have value : Nat.ofDigitChars 10 (decimalDigits n) 0 = n := Nat.ofDigitChars_ten_toDigits
    rw [zeros, Nat.ofDigitChars_replicate_zero] at value
    omega
  · refine (isDigits_decimalDigits n).2 c ?_
    have := (List.dropWhile_sublist _).subset (List.mem_reverse.mp hc)
    exact List.mem_reverse.mp this

/-! ## The shortest decimal of a number other than zero -/

/-- The decimal exponent is not too large. -/
lemma floorLog10_spec {num : Nat} (den : Nat) (hnum : num ≠ 0) :
    (∃ k : Nat, floorLog10 num den = k ∧ (0 < den → den * 10 ^ k ≤ num)) ∨
      ∃ k : Nat, floorLog10 num den = -(k : Int) ∧ den ≤ num * 10 ^ k := by
  unfold floorLog10
  split
  · rename_i hle
    left
    have hpos : 0 < (decimalDigits (num / den)).length := Nat.length_toDigits_pos
    refine ⟨(decimalDigits (num / den)).length - 1, by omega, fun hden => ?_⟩
    have hq : num / den ≠ 0 := Nat.ne_of_gt (Nat.div_pos hle hden)
    calc den * 10 ^ ((decimalDigits (num / den)).length - 1)
        ≤ den * (num / den) := Nat.mul_le_mul_left _ (pow_length_decimalDigits_le hq)
      _ ≤ num := Nat.mul_div_le num den
  · right
    have hlt := lt_pow_length_decimalDigits ((den + num - 1) / num - 1)
    simp only [Int.negOfNat_eq, Int.ofNat_eq_natCast]
    generalize (decimalDigits ((den + num - 1) / num - 1)).length = k at hlt ⊢
    refine ⟨k, rfl, ?_⟩
    have hk : (den + num - 1) / num ≤ 10 ^ k := by omega
    have hup : den ≤ (den + num - 1) / num * num := by
      have := Nat.div_add_mod (den + num - 1) num
      have := Nat.mod_lt (den + num - 1) (Nat.pos_of_ne_zero hnum)
      rw [Nat.mul_comm]
      omega
    calc den ≤ (den + num - 1) / num * num := hup
      _ ≤ 10 ^ k * num := Nat.mul_le_mul_right _ hk
      _ = num * 10 ^ k := Nat.mul_comm _ _

/-- The digits from the leading one on give at least one. -/
lemma le_scaleTen_floorLog10 {num den digits : Nat} (hnum : num ≠ 0) (hden : 0 < den)
    (hdigits : 0 < digits) :
    (scaleTen num den (-(floorLog10 num den - Int.ofNat digits + 1))).2 ≤
      (scaleTen num den (-(floorLog10 num den - Int.ofNat digits + 1))).1 := by
  rcases floorLog10_spec den hnum with ⟨k, hk, hle⟩ | ⟨k, hk, hle⟩
  · have hle := hle hden
    rw [hk]
    unfold scaleTen
    split
    · calc den ≤ den * 10 ^ k := Nat.le_mul_of_pos_right _ (Nat.pow_pos (by decide))
        _ ≤ num := hle
        _ ≤ num * 10 ^ _ := Nat.le_mul_of_pos_right _ (Nat.pow_pos (by decide))
    · rename_i hneg
      have hexp : (-(-((k : Int) - Int.ofNat digits + 1))).toNat ≤ k := by
        simp only [Int.ofNat_eq_natCast] at hneg ⊢
        omega
      exact Nat.le_trans (Nat.mul_le_mul_left _ (Nat.pow_le_pow_right Nat.succ_pos' hexp)) hle
  · rw [hk]
    unfold scaleTen
    split
    · rename_i hpos
      have hexp : k ≤ (-(-(k : Int) - Int.ofNat digits + 1)).toNat := by
        simp only [Int.ofNat_eq_natCast] at hpos ⊢
        omega
      exact Nat.le_trans hle (Nat.mul_le_mul_left _ (Nat.pow_le_pow_right Nat.succ_pos' hexp))
    · rename_i hneg
      simp only [Int.ofNat_eq_natCast] at hneg
      omega

namespace RoundingInterval

variable {f : FloatFormat} {mantissa : Nat} (place : Int)

/-- The interval of a number other than zero lies above zero. -/
lemma ofReading_pos (h : mantissa ≠ 0) :
    let i := ofReading f mantissa place
    0 < i.low ∧ 0 < i.value ∧ 0 < i.den := by
  have hshift : ∀ n e, 0 < n → 0 < n <<< e := fun n e hn => by
    rw [Nat.shiftLeft_eq]
    exact Nat.mul_pos hn (Nat.pow_pos (by decide))
  have hscale : 0 < (scaleTwo 1 4 place).1 ∧ 0 < (scaleTwo 1 4 place).2 := by
    unfold scaleTwo
    split
    · exact ⟨hshift _ _ Nat.one_pos, Nat.succ_pos 3⟩
    · exact ⟨Nat.one_pos, hshift _ _ (Nat.succ_pos 3)⟩
  simp only [ofReading]
  refine ⟨Nat.mul_pos ?_ hscale.1, Nat.mul_pos (by omega) hscale.1, hscale.2⟩
  split <;> omega

/-- Zero lies in no interval above zero. -/
lemma coefficient_ne_zero_of_holds {i : RoundingInterval} (hlow : 0 < i.low) {x : Decimal}
    (h : i.holds x = true) : x.coefficient ≠ 0 := by
  intro hzero
  have hscale : (scaleTen x.coefficient 1 x.exponent).1 = 0 ∧
      0 < (scaleTen x.coefficient 1 x.exponent).2 := by
    unfold scaleTen
    rw [hzero]
    split
    · simp
    · simp only [true_and]
      exact Nat.mul_pos (by decide) (Nat.pow_pos (by decide))
  have hpos := Nat.mul_pos hlow hscale.2
  simp only [holds, hscale.1, Nat.zero_mul] at h
  split at h
  · simp only [Nat.le_zero, Bool.and_eq_true, decide_eq_true_eq] at h
    omega
  · simp at h

/-- A chosen decimal lies in the interval. -/
lemma holds_of_pick? {i : RoundingInterval} {digits : Nat} {x : Decimal}
    (h : i.pick? digits = some x) : i.holds x = true := by
  simp only [pick?] at h
  split at h
  · rename_i hlow hhigh
    cases h
    split <;> assumption
  · rename_i hlow _
    cases h
    exact hlow
  · rename_i _ hhigh
    cases h
    exact hhigh
  · cases h

end RoundingInterval

/-- The shortest decimal of a number other than zero is not zero. -/
theorem shortest_coefficient_ne_zero {f : FloatFormat} {mantissa : Nat} (place : Int)
    (h : mantissa ≠ 0) : (shortest f mantissa place).coefficient ≠ 0 := by
  obtain ⟨hlow, hvalue, hden⟩ := RoundingInterval.ofReading_pos (f := f) place h
  unfold shortest
  generalize RoundingInterval.ofReading f mantissa place = i at hlow hvalue hden ⊢
  simp only
  split
  · rename_i x hx
    obtain ⟨n, -, hpick⟩ := List.exists_of_findSome?_eq_some hx
    exact RoundingInterval.coefficient_ne_zero_of_holds hlow
      (RoundingInterval.holds_of_pick? hpick)
  · -- even where no candidate lies in the interval, the leading digit is at least one
    have hle := le_scaleTen_floorLog10 (Nat.ne_of_gt hvalue) hden
      (show 0 < maxDigits by decide)
    have hd : 0 < (scaleTen i.value i.den
        (-(floorLog10 i.value i.den - Int.ofNat maxDigits + 1))).2 := by
      unfold scaleTen
      split
      · exact hden
      · exact Nat.mul_pos hden (Nat.pow_pos (by decide))
    exact Nat.ne_of_gt (Nat.div_pos hle hd)

/-! ## Layouts -/

/-- Digits in positional notation. -/
lemma isReal_positional {digits : List Char} (h : IsDigits digits) (exponent : Int) :
    IsReal (positional digits exponent) := by
  unfold positional
  split
  · -- the digits are padded with zeros to one more than the whole part
    simp only
    generalize hwhole : exponent.toNat + 1 = whole
    have hdigit := isDigit_rightpad h.2 (whole + 1)
    generalize hpadded : digits.rightpad (whole + 1) '0' = padded at hdigit
    have hlen : whole + 1 ≤ padded.length := by
      rw [← hpadded, List.length_rightpad]
      exact le_max_left _ _
    refine .point ⟨?_, fun c hc => hdigit c (List.mem_of_mem_take hc)⟩
      ⟨?_, fun c hc => hdigit c (List.mem_of_mem_drop hc)⟩
    · rw [← List.length_pos_iff, List.length_take]
      omega
    · rw [← List.length_pos_iff, List.length_drop]
      omega
  · have hzero : IsDigits ['0'] := ⟨by simp, by simp⟩
    refine .point hzero ⟨by simp [h.1], fun c hc => ?_⟩
    rcases List.mem_append.mp hc with hc | hc
    · rw [(List.mem_replicate.mp hc).2]
      rfl
    · exact h.2 c hc

/-- Digits with an exponent. -/
lemma isReal_scientific {digits : List Char} (h : IsDigits digits) (exponent : Int) :
    IsReal (scientific 'e' digits exponent) := by
  have hsign : IsSign (if exponent < 0 then ['-'] else []) := by
    split
    · exact .inr rfl
    · exact .inl rfl
  have hpower := isDigits_decimalDigits exponent.natAbs
  unfold scientific
  match digits, h with
  | [d], h => exact .power h hsign hpower
  | d :: d' :: ds, h =>
    have hd : IsDigits [d] := ⟨by simp, fun c hc => h.2 c (by simp_all)⟩
    have hds : IsDigits (d' :: ds) := ⟨by simp, fun c hc => h.2 c (by simp_all)⟩
    simpa using .pointPower hd hds hsign hpower

/-- The text of a finite real: a minus or nothing, and digits with a fraction, an exponent or
both. -/
theorem realText_of_isFinite {x : Binary64} (h : x.isFinite = true) :
    ∃ sign body, realText x = sign ++ body ∧ IsSign sign ∧ IsReal body := by
  unfold Binary64.isFinite at h
  unfold realText
  split at h
  · rename_i negative mantissa place hx
    rw [hx]
    refine ⟨if negative then ['-'] else [], _, rfl, ?_, ?_⟩
    · split
      · exact .inr rfl
      · exact .inl rfl
    · split
      · have hzero : IsDigits ['0'] := ⟨by simp, by simp⟩
        exact .point hzero hzero
      · rename_i hm
        have hdigits := isDigits_dropEndZeros
          (shortest_coefficient_ne_zero (f := .binary64) place hm)
        unfold Decimal.text
        simp only
        split
        · exact isReal_positional hdigits _
        · exact isReal_scientific hdigits _
  · cases h

end TypedSql.Number
