import TypedSql.Proofs.Number.Representation

/-!
# Values of the narrower format in the wider one

Every value of 32 bits is one of 64 bits, so that rounding changes it neither on the way there nor
on the way back. Only the digits are put differently: the wider format has room for a leading one
where the narrower one has none.

## Main results

* `FloatFormat.floorLog2_eq` — the binary exponent of a value that is given by its digits.
* `FloatFormat.nearest_eq` — rounding a value of a format changes nothing, in any format.
* `Binary64.toBinary32_ofBinary32` — a number of 32 bits is the same after it has had 64.
-/

set_option autoImplicit false

namespace TypedSql.Number

namespace FloatFormat

/-! ## Rounding a value of the format -/

/-- Scaling by a power of two multiplies the numerator or the denominator. -/
lemma scaleTwo_eq (num den : Nat) (e : Int) :
    scaleTwo num den e = (num * 2 ^ e.toNat, den * 2 ^ (-e).toNat) := by
  unfold scaleTwo
  split
  · rename_i h
    rw [Nat.shiftLeft_eq, Int.toNat_of_nonpos (show -e ≤ 0 by omega), Nat.pow_zero, Nat.mul_one]
  · rename_i h
    rw [Nat.shiftLeft_eq, Int.toNat_of_nonpos (show e ≤ 0 by omega), Nat.pow_zero, Nat.mul_one]

section Value

variable {num den m k p : Nat}

/-- A value is at least a power of two if its digits are, in the same units. -/
lemma scaleTwo_le_iff (hden : 0 < den) (h : num * 2 ^ p = m * 2 ^ k * den) (e : Int) :
    (scaleTwo num den (-e)).2 ≤ (scaleTwo num den (-e)).1 ↔
      2 ^ (e.toNat + p) ≤ m * 2 ^ (k + (-e).toNat) := by
  have hleft : den * 2 ^ e.toNat * 2 ^ p = 2 ^ (e.toNat + p) * den := by rw [Nat.pow_add]; ring
  have hright : num * 2 ^ (-e).toNat * 2 ^ p = m * 2 ^ (k + (-e).toNat) * den := by
    rw [Nat.mul_right_comm, h, Nat.pow_add]
    ring
  rw [scaleTwo_eq, Int.neg_neg]
  simp only
  rw [← Nat.mul_le_mul_right_iff (Nat.two_pow_pos p), hleft, hright,
    Nat.mul_le_mul_right_iff hden]

/-- The binary exponent of a value is that of its digits. -/
theorem floorLog2_eq (hden : 0 < den) (hm : m ≠ 0) (h : num * 2 ^ p = m * 2 ^ k * den) :
    floorLog2 num den = (m.log2 : Int) + k - p := by
  have hnum : num ≠ 0 := by
    rintro rfl
    rw [Nat.zero_mul] at h
    have := Nat.mul_pos (Nat.mul_pos (Nat.pos_of_ne_zero hm) (Nat.two_pow_pos k)) hden
    omega
  -- the difference of the exponents is right, or too great by one
  have hlow : m.log2 + k + den.log2 < num.log2 + 1 + p := by
    refine (Nat.pow_lt_pow_iff_right (by decide : 1 < 2)).mp ?_
    calc 2 ^ (m.log2 + k + den.log2) = 2 ^ m.log2 * 2 ^ k * 2 ^ den.log2 := by
          rw [Nat.pow_add, Nat.pow_add]
      _ ≤ m * 2 ^ k * den := Nat.mul_le_mul (Nat.mul_le_mul_right _ (Nat.log2_self_le hm))
          (Nat.log2_self_le hden.ne')
      _ = num * 2 ^ p := h.symm
      _ < 2 ^ (num.log2 + 1) * 2 ^ p :=
          Nat.mul_lt_mul_of_pos_right Nat.lt_log2_self (Nat.two_pow_pos p)
      _ = 2 ^ (num.log2 + 1 + p) := (Nat.pow_add ..).symm
  have hhigh : num.log2 + p < m.log2 + 1 + k + (den.log2 + 1) := by
    refine (Nat.pow_lt_pow_iff_right (by decide : 1 < 2)).mp ?_
    calc 2 ^ (num.log2 + p) = 2 ^ num.log2 * 2 ^ p := Nat.pow_add ..
      _ ≤ num * 2 ^ p := Nat.mul_le_mul_right _ (Nat.log2_self_le hnum)
      _ = m * 2 ^ k * den := h
      _ < 2 ^ (m.log2 + 1) * 2 ^ k * 2 ^ (den.log2 + 1) :=
          Nat.mul_lt_mul'' (Nat.mul_lt_mul_of_pos_right Nat.lt_log2_self (Nat.two_pow_pos k))
            Nat.lt_log2_self
      _ = 2 ^ (m.log2 + 1 + k + (den.log2 + 1)) := by ring
  have htest := scaleTwo_le_iff hden h (Int.ofNat num.log2 - Int.ofNat den.log2)
  simp only [floorLog2, htest]
  simp only [Int.ofNat_eq_natCast] at *
  obtain hexact | hgreat : (num.log2 : Int) - den.log2 = m.log2 + k - p ∨
      (num.log2 : Int) - den.log2 = m.log2 + k - p + 1 := by omega
  · rw [if_pos, hexact]
    rw [show ((num.log2 : Int) - den.log2).toNat + p =
      m.log2 + (k + (-((num.log2 : Int) - den.log2)).toNat) by omega, Nat.pow_add]
    exact Nat.mul_le_mul_right _ (Nat.log2_self_le hm)
  · rw [if_neg, hgreat]
    · omega
    · rw [show ((num.log2 : Int) - den.log2).toNat + p =
        m.log2 + 1 + (k + (-((num.log2 : Int) - den.log2)).toNat) by omega, Nat.pow_add]
      exact Nat.not_le.mpr (Nat.mul_lt_mul_of_pos_right Nat.lt_log2_self (Nat.two_pow_pos _))

/-- A value that is scaled by its last place is its digits. -/
lemma roundHalfEven_eq (hden : 0 < den) (h : num * 2 ^ p = m * 2 ^ k * den) :
    roundHalfEven (scaleTwo num den (-((k : Int) - p))).1
      (scaleTwo num den (-((k : Int) - p))).2 = m := by
  rw [scaleTwo_eq, Int.neg_neg]
  have hunits : num * 2 ^ (-((k : Int) - p)).toNat = m * (den * 2 ^ ((k : Int) - p).toNat) := by
    refine Nat.eq_of_mul_eq_mul_right (Nat.two_pow_pos p) ?_
    calc num * 2 ^ (-((k : Int) - p)).toNat * 2 ^ p
        = m * den * (2 ^ k * 2 ^ (-((k : Int) - p)).toNat) := by rw [Nat.mul_right_comm, h]; ring
      _ = m * den * (2 ^ ((k : Int) - p).toNat * 2 ^ p) := by
          rw [← Nat.pow_add, ← Nat.pow_add]
          congr 2
          omega
      _ = _ := by ring
  simp only [hunits]
  exact roundHalfEven_mul (Nat.mul_pos hden (Nat.two_pow_pos _)) m

/-- A value of a format, given by its digits and how often the last place is doubled, is rounded to
the word of these, up to infinity. -/
theorem nearest_eq {f : FloatFormat} (hplace : f.leastPlace = -(p : Int)) (hden : 0 < den)
    (hlt : m < 2 ^ (f.fractionBits + 1)) (hle : k ≠ 0 → 2 ^ f.fractionBits ≤ m)
    (h : num * 2 ^ p = m * 2 ^ k * den) :
    f.nearest num den = min f.infinity (k * f.fractions + m) := by
  by_cases hm : m = 0
  · have hk : k = 0 := by
      by_contra hk
      have := hle hk
      have := Nat.two_pow_pos f.fractionBits
      omega
    have hnum : num = 0 := by
      rw [hm, Nat.zero_mul, Nat.zero_mul] at h
      exact (Nat.mul_eq_zero.mp h).resolve_right (Nat.two_pow_pos p).ne'
    simp [nearest, hnum, hm, hk]
  · have hnum : num ≠ 0 := by
      rintro rfl
      rw [Nat.zero_mul] at h
      have := Nat.mul_pos (Nat.mul_pos (Nat.pos_of_ne_zero hm) (Nat.two_pow_pos k)) hden
      omega
    have hbits : m.log2 ≤ f.fractionBits := Nat.lt_succ_iff.mp ((Nat.log2_lt hm).mpr hlt)
    have hnormal : k ≠ 0 → f.fractionBits ≤ m.log2 := fun hk => (Nat.le_log2 hm).mpr (hle hk)
    have hlast : max f.leastPlace (floorLog2 num den - f.fractionBits) = (k : Int) - p := by
      rw [floorLog2_eq hden hm h, hplace]
      by_cases hk : k = 0
      · omega
      · have := hnormal hk
        omega
    have hdoublings : ((k : Int) - p - f.leastPlace).toNat = k := by
      rw [hplace]
      omega
    have hround := roundHalfEven_eq hden h
    rw [nearest, if_neg hnum]
    simp only [hlast, hdoublings, hround]

end Value

end FloatFormat

/-! ## The narrower format -/

namespace FloatFormat

/-- A single has 23 bits of fraction. -/
lemma fractions_binary32 : binary32.fractions = 2 ^ 23 := by decide

/-- The exponent of a single has 8 bits. -/
lemma topExponent_binary32 : binary32.topExponent = 255 := by decide

/-- The sign of a single is its highest bit. -/
lemma signWord_binary32 : binary32.signWord = 2 ^ 31 := by decide

/-- The word of infinity has all bits of the exponent and none of the fraction. -/
lemma infinity_binary32 : binary32.infinity = 255 * 2 ^ 23 := by decide

/-- The lowest bit of a single stands for the power of two to -149. -/
lemma leastPlace_binary32 : binary32.leastPlace = -149 := by decide

end FloatFormat

namespace Binary32

open FloatFormat (binary32)

/-- What a word is read as: NaN, an infinity, or the digits that it is put together from. -/
lemma reading_cases (x : Binary32) :
    x.reading = .nan ∨
      (∃ s, x.reading = .infinite s ∧ x.bits.toNat = binary32.withSign s binary32.infinity) ∨
      ∃ s m k, x.reading = .finite s m ((k : Nat) - 149) ∧ m < 2 ^ 24 ∧ (k ≠ 0 → 2 ^ 23 ≤ m) ∧
        k * 2 ^ 23 + m < binary32.infinity ∧
        x.bits.toNat = binary32.withSign s (k * 2 ^ 23 + m) := by
  have hbits : x.bits.toNat < 2 ^ 32 := x.bits.toNat_lt
  rw [reading]
  generalize x.bits.toNat = b at hbits
  -- the fields, and the word that is put together from them
  have hword : ∀ w, w = b % 2 ^ 31 → b = binary32.withSign (b / 2 ^ 31 % 2 == 1) w := by
    rintro w rfl
    rw [FloatFormat.withSign, FloatFormat.signWord_binary32]
    split
    · rename_i hsign
      rw [beq_iff_eq] at hsign
      omega
    · rename_i hsign
      rw [beq_iff_eq] at hsign
      omega
  unfold FloatFormat.read
  rw [FloatFormat.fractions_binary32, FloatFormat.topExponent_binary32,
    FloatFormat.signWord_binary32, FloatFormat.infinity_binary32, FloatFormat.leastPlace_binary32]
  simp only
  split_ifs with htop hzero hleast
  · exact .inr (.inl ⟨_, rfl, hword _ (by omega)⟩)
  · exact .inl rfl
  · refine .inr (.inr ⟨_, b % 2 ^ 23, 0, rfl, by omega, by simp, by omega, hword _ (by omega)⟩)
  · refine .inr (.inr ⟨_, 2 ^ 23 + b % 2 ^ 23, b / 2 ^ 23 % 256 - 1, ?_, by omega, by omega,
      by omega, hword _ (by omega)⟩)
    congr 1
    omega

end Binary32

/-! ## From 32 bits to 64 and back -/

/-- A magnitude below infinity leaves room for a sign. -/
lemma FloatFormat.lt_signWord_of_lt_infinity {w : Nat} (h : w < binary64.infinity) :
    w < 2 ^ 63 := by
  rw [infinity_binary64] at h
  omega

namespace Binary64

open FloatFormat (binary32 binary64 doublings significand)

/-- Up to 24 digits, with a leading one and in smaller units, are digits of 64 bits. -/
lemma exists_digits {m k p : Nat} (hm : m < 2 ^ 24) (hp : 52 ≤ p) (hk : k + p ≤ 2074) :
    ∃ m' k', m' < 2 ^ 53 ∧ (k' ≠ 0 → 2 ^ 52 ≤ m') ∧ k' * 2 ^ 52 + m' < binary64.infinity ∧
      m' * 2 ^ k' = m * 2 ^ (k + p) := by
  by_cases hzero : m = 0
  · exact ⟨0, 0, by simp, by simp, by decide, by simp [hzero]⟩
  · have hlog : m.log2 < 24 := (Nat.log2_lt hzero).mpr hm
    have hdigits : m * 2 ^ (52 - m.log2) < 2 ^ 53 := calc
      m * 2 ^ (52 - m.log2) < 2 ^ (m.log2 + 1) * 2 ^ (52 - m.log2) :=
        Nat.mul_lt_mul_of_pos_right Nat.lt_log2_self (Nat.two_pow_pos _)
      _ = 2 ^ 53 := by rw [← Nat.pow_add]; congr 1; omega
    have hleading : 2 ^ 52 ≤ m * 2 ^ (52 - m.log2) := calc
      2 ^ 52 = 2 ^ m.log2 * 2 ^ (52 - m.log2) := by rw [← Nat.pow_add]; congr 1; omega
      _ ≤ m * 2 ^ (52 - m.log2) := Nat.mul_le_mul_right _ (Nat.log2_self_le hzero)
    refine ⟨m * 2 ^ (52 - m.log2), k + p + m.log2 - 52, hdigits, fun _ => hleading,
      FloatFormat.lt_infinity (by omega) hdigits, ?_⟩
    rw [Nat.mul_assoc, ← Nat.pow_add,
      show 52 - m.log2 + (k + p + m.log2 - 52) = k + p by omega]

/-- A number of 32 bits is the same after it has had 64 bits; NaN is some NaN.

Proof sketch. The value of a finite number is one of the wider format, so that it is not rounded
there; and it is one of the narrower format, so that it is not rounded on the way back. -/
theorem toBinary32_ofBinary32 (x : Binary32) :
    (ofBinary32 x).toBinary32 = x ∨
      x.isNaN = true ∧ (ofBinary32 x).toBinary32.isNaN = true := by
  rcases x.reading_cases with hnan | ⟨s, hinfinite, hbits⟩ |
    ⟨s, m, k, hfinite, hm, hle, hlt, hbits⟩
  · right
    have hwide : (ofBinary32 x).reading = .nan := by
      rw [ofBinary32, hnan]
      decide
    rw [toBinary32, hwide, Binary32.isNaN, hnan]
    decide
  · left
    have hwide : (ofBinary32 x).reading = .infinite s := by
      rw [ofBinary32, hinfinite]
      cases s <;> decide
    rw [toBinary32, hwide]
    simp only [← hbits, UInt32.ofNat_toNat]
  · left
    -- the difference of the exponents is kept as a variable, so that the power is not computed
    obtain ⟨p, hp⟩ : ∃ p, p = 925 := ⟨_, rfl⟩
    have hk : k + p ≤ 2074 := by
      rw [FloatFormat.infinity_binary32] at hlt
      by_cases hk : k = 0
      · omega
      · have := hle hk
        omega
    obtain ⟨m', k', hm', hle', hlt', hvalue⟩ := exists_digits hm (by omega) hk
    have hplace : binary64.leastPlace = -((149 + p : Nat) : Int) := by
      rw [hp]
      decide
    have hwide : (ofBinary32 x).reading = .finite s m' ((k' : Nat) - ((149 + p : Nat) : Int)) := by
      obtain ⟨n, d, hscale, hd, hnd⟩ := FloatFormat.scaleTwo_sub m k 149
      have hunits : n * 2 ^ (149 + p) = m' * 2 ^ k' * d := by
        rw [hvalue, Nat.pow_add, ← Nat.mul_assoc, hnd, Nat.pow_add]
        ring
      have hnearest : binary64.nearest n d = k' * 2 ^ 52 + m' := by
        rw [FloatFormat.nearest_eq hplace hd hm' hle' hunits, FloatFormat.fractions_binary64]
        exact Nat.min_eq_right hlt'.le
      have hword := FloatFormat.lt_signWord_of_lt_infinity hlt'
      obtain ⟨hdoublings, hsignificand⟩ := FloatFormat.fields_add hm' hle'
      rw [ofBinary32, hfinite]
      simp only [Nat.cast_ofNat] at hscale
      simp only [hscale]
      rw [nearest, hnearest, reading_ofWord (FloatFormat.withSign_lt s hword),
        FloatFormat.read_withSign_of_lt s hlt', hdoublings, hsignificand, hp]
      rfl
    obtain ⟨n, d, hscale, hd, hnd⟩ := FloatFormat.scaleTwo_sub m' k' (149 + p)
    have hunits : n * 2 ^ 149 = m * 2 ^ k * d := by
      refine Nat.eq_of_mul_eq_mul_right (Nat.two_pow_pos p) ?_
      rw [Nat.mul_assoc, ← Nat.pow_add, hnd, hvalue, Nat.pow_add]
      ring
    have hnearest : binary32.nearest n d = k * 2 ^ 23 + m := by
      rw [FloatFormat.nearest_eq FloatFormat.leastPlace_binary32 hd hm hle hunits,
        FloatFormat.fractions_binary32]
      exact Nat.min_eq_right hlt.le
    rw [toBinary32, hwide]
    simp only [hscale, hnearest, ← hbits, UInt32.ofNat_toNat]

end Binary64

end TypedSql.Number
