import Mathlib.Tactic.LinearCombination
import Mathlib.Tactic.Positivity
import Mathlib.Tactic.Ring
import TypedSql.Proofs.Number.Arithmetic

/-!
# Floating-point numbers with one value

A finite word of 64 bits is a sign and a magnitude. The magnitude is its value: it counts off the
values of the format from zero on, so that two magnitudes never have one value, and rounding a value
of the format gives the magnitude that has it.

## Main definitions

* `FloatFormat.units` — the value of a magnitude, in units of the smallest positive value.
* `Binary64.magnitude`, `Binary64.signedUnits` — the magnitude of a word, and the value with its
  sign.

## Main results

* `FloatFormat.units_injective` — two magnitudes never have one value.
* `FloatFormat.units_nearest` — rounding an integer that is a value of the format changes nothing.
* `Binary64.eq_of_compare` — two words with one value are equal, but for the sign of zero.
* `Binary64.ofInt_of_compare` — a word whose value is an integer is what the integer converts to.
-/

set_option autoImplicit false

namespace TypedSql.Number

namespace FloatFormat

/-! ## Magnitudes -/

/-- How often the last place of a magnitude is doubled. -/
def doublings (w : Nat) : Nat := w / 2 ^ 52 - 1

/-- The digits of a magnitude as an integer, with the leading one that a word leaves out. -/
def significand (w : Nat) : Nat := w - doublings w * 2 ^ 52

/-- The value of a magnitude, in units of the smallest positive value. -/
def units (w : Nat) : Nat := significand w * 2 ^ doublings w

section Fields

variable {v w k m : Nat}

/-- A significand has at most 53 bits. -/
lemma significand_lt (w : Nat) : significand w < 2 ^ 53 := by
  unfold significand doublings
  omega

/-- Above the least exponent the highest bit of a significand is set. -/
lemma le_significand (h : doublings w ≠ 0) : 2 ^ 52 ≤ significand w := by
  unfold significand doublings at *
  omega

/-- A word is put together from its number of doublings and its significand. -/
lemma eq_doublings_add (w : Nat) : w = doublings w * 2 ^ 52 + significand w := by
  unfold significand doublings
  omega

/-- The fields of a magnitude that is put together. -/
lemma fields_add (hlt : m < 2 ^ 53) (hle : k ≠ 0 → 2 ^ 52 ≤ m) :
    doublings (k * 2 ^ 52 + m) = k ∧ significand (k * 2 ^ 52 + m) = m := by
  have hk : doublings (k * 2 ^ 52 + m) = k := by
    unfold doublings
    by_cases h : k = 0
    · omega
    · have := hle h
      omega
  refine ⟨hk, ?_⟩
  rw [significand, hk]
  omega

/-- A word that is put together from parts has the significand doubled that many times. -/
lemma units_add (hlt : m < 2 ^ 53) (hle : k ≠ 0 → 2 ^ 52 ≤ m) :
    units (k * 2 ^ 52 + m) = m * 2 ^ k := by
  obtain ⟨hk, hm⟩ := fields_add hlt hle
  rw [units, hk, hm]

/-- A number with its last place doubled more often is greater. -/
lemma units_lt_of_doublings_lt (h : doublings v < doublings w) : units v < units w := by
  have hw := le_significand (w := w) (by omega)
  calc units v < 2 ^ 53 * 2 ^ doublings v :=
        Nat.mul_lt_mul_of_pos_right (significand_lt v) (Nat.two_pow_pos _)
    _ = 2 ^ 52 * 2 ^ (doublings v + 1) := by ring
    _ ≤ 2 ^ 52 * 2 ^ doublings w :=
        Nat.mul_le_mul_left _ (Nat.pow_le_pow_right (by omega) h)
    _ ≤ units w := Nat.mul_le_mul_right _ hw

/-- Two magnitudes never have one value. -/
theorem units_injective (h : units v = units w) : v = w := by
  have hk : doublings v = doublings w := by
    rcases Nat.lt_trichotomy (doublings v) (doublings w) with hlt | heq | hlt
    · exact absurd h (units_lt_of_doublings_lt hlt).ne
    · exact heq
    · exact absurd h (units_lt_of_doublings_lt hlt).ne'
  have hm : significand v = significand w := by
    rw [units, units, hk] at h
    exact Nat.eq_of_mul_eq_mul_right (Nat.two_pow_pos _) h
  rw [eq_doublings_add v, eq_doublings_add w, hk, hm]

/-- The word zero has no units. -/
lemma units_zero : units 0 = 0 := rfl

/-- Only the word zero has no units. -/
lemma units_eq_zero : units w = 0 ↔ w = 0 :=
  ⟨fun h => units_injective (h.trans units_zero.symm), fun h => h ▸ units_zero⟩

end Fields

/-- A word up to infinity is read as its fields. -/
lemma read_withSign_of_lt (negative : Bool) {w : Nat} (h : w < binary64.infinity) :
    binary64.read (binary64.withSign negative w) =
      .finite negative (significand w) (doublings w - 1074) := by
  rw [infinity_binary64] at h
  obtain ⟨hexponent, hfraction⟩ := fields_withSign negative (show w < 2 ^ 63 by omega)
  have hsign : (binary64.withSign negative w / 2 ^ 63 % 2 == 1) = negative := by
    rw [withSign, signWord_binary64]
    cases negative <;> simp <;> omega
  have hplace : binary64.leastPlace = -1074 := by decide
  unfold read
  rw [fractions_binary64, topExponent_binary64, signWord_binary64, hplace]
  simp only [hexponent, hfraction, hsign]
  rw [if_neg (by omega)]
  split
  · have hk : doublings w = 0 := by unfold doublings; omega
    have hm : significand w = w % 2 ^ 52 := by unfold significand; omega
    rw [hk, hm]
    rfl
  · have hm : significand w = 2 ^ 52 + w % 2 ^ 52 := by unfold significand doublings; omega
    have hk : (doublings w : Int) = (w / 2 ^ 52 : Nat) - 1 := by unfold doublings; omega
    rw [hm, hk, Int.add_comm, Int.sub_eq_add_neg]
    rfl

/-- Infinity is read as infinity. -/
lemma read_withSign_infinity (negative : Bool) :
    binary64.read (binary64.withSign negative binary64.infinity) = .infinite negative := by
  cases negative <;> decide

/-! ## Rounding -/

/-- The fraction of a product and one of its factors. -/
lemma roundHalfEven_mul {d : Nat} (h : 0 < d) (q : Nat) : roundHalfEven (q * d) d = q := by
  rw [roundHalfEven, Nat.mul_div_cancel _ h, Nat.mul_mod_left]
  simp [h]

/-- Scaling by a positive power of two multiplies the numerator. -/
lemma scaleTwo_natCast (n d k : Nat) : scaleTwo n d k = (n * 2 ^ k, d) := by
  rw [scaleTwo, if_pos (Int.natCast_nonneg k), Int.toNat_natCast, Nat.shiftLeft_eq]

/-- Scaling by a negative power of two multiplies the denominator. -/
lemma scaleTwo_neg_natCast (n d k : Nat) : scaleTwo n d (-k) = (n, d * 2 ^ k) := by
  unfold scaleTwo
  split
  · obtain rfl : k = 0 := by omega
    simp
  · rw [Int.neg_neg, Int.toNat_natCast, Nat.shiftLeft_eq]

/-- A fraction that is scaled down has the value of one that is scaled up, in smaller units. -/
lemma scaleTwo_sub (m k p : Nat) :
    ∃ a b, scaleTwo m 1 (k - p) = (a, b) ∧ 0 < b ∧ a * 2 ^ p = m * 2 ^ k * b := by
  rcases Nat.le_total p k with hle | hle
  · refine ⟨m * 2 ^ (k - p), 1, ?_, Nat.one_pos, ?_⟩
    · rw [← scaleTwo_natCast]
      congr 1
      omega
    · rw [Nat.mul_assoc, ← Nat.pow_add, Nat.sub_add_cancel hle, Nat.mul_one]
  · refine ⟨m, 1 * 2 ^ (p - k), ?_, by simp, ?_⟩
    · rw [← scaleTwo_neg_natCast]
      congr 1
      omega
    · rw [Nat.one_mul, Nat.mul_assoc, ← Nat.pow_add, Nat.add_sub_cancel' hle]

/-- The binary logarithm of a quotient by one is that of the numerator. -/
lemma floorLog2_one {n : Nat} (h : n ≠ 0) : floorLog2 n 1 = n.log2 := by
  have hone : Nat.log2 1 = 0 := by decide
  have hscale : scaleTwo n 1 (-(n.log2 : Int)) = (n, 1 * 2 ^ n.log2) :=
    scaleTwo_neg_natCast n 1 n.log2
  simp [floorLog2, hone, hscale, Nat.log2_self_le h]

/-- The digits to which an integer is rounded that is a value of the format. -/
lemma exists_digits {n m k p : Nat} (hn : n ≠ 0) (hm : m < 2 ^ 53)
    (h : n * 2 ^ (p + 52) = m * 2 ^ k) :
    n.log2 + p ≤ k ∧ ∃ q, q * 2 ^ (n.log2 + p) = n * 2 ^ (p + 52) ∧ 2 ^ 52 ≤ q ∧ q < 2 ^ 53 := by
  have hle : 2 ^ n.log2 ≤ n := Nat.log2_self_le hn
  have hlt : n < 2 ^ (n.log2 + 1) := Nat.lt_log2_self
  have hk : n.log2 + p ≤ k := by
    have hpow : 2 ^ (n.log2 + p + 52) < 2 ^ (k + 53) := calc
      2 ^ (n.log2 + p + 52) = 2 ^ n.log2 * 2 ^ (p + 52) := by ring
      _ ≤ n * 2 ^ (p + 52) := Nat.mul_le_mul_right _ hle
      _ = m * 2 ^ k := h
      _ < 2 ^ 53 * 2 ^ k := Nat.mul_lt_mul_of_pos_right hm (Nat.two_pow_pos k)
      _ = 2 ^ (k + 53) := by ring
    have := (Nat.pow_lt_pow_iff_right (by decide : 1 < 2)).mp hpow
    omega
  have hq : m * 2 ^ (k - (n.log2 + p)) * 2 ^ (n.log2 + p) = n * 2 ^ (p + 52) := by
    rw [Nat.mul_assoc, ← Nat.pow_add, Nat.sub_add_cancel hk, h]
  refine ⟨hk, _, hq, ?_, ?_⟩
  · refine Nat.le_of_mul_le_mul_right ?_ (Nat.two_pow_pos (n.log2 + p))
    calc 2 ^ 52 * 2 ^ (n.log2 + p) = 2 ^ n.log2 * 2 ^ (p + 52) := by ring
      _ ≤ n * 2 ^ (p + 52) := Nat.mul_le_mul_right _ hle
      _ = _ := hq.symm
  · refine Nat.lt_of_mul_lt_mul_right (a := 2 ^ (n.log2 + p)) ?_
    calc _ = n * 2 ^ (p + 52) := hq
      _ < 2 ^ (n.log2 + 1) * 2 ^ (p + 52) := Nat.mul_lt_mul_of_pos_right hlt (Nat.two_pow_pos _)
      _ = 2 ^ 53 * 2 ^ (n.log2 + p) := by ring

/-- Rounding to the last place leaves the digits of a value of the format. -/
lemma roundHalfEven_scaleTwo {n q p : Nat} (h : q * 2 ^ (n.log2 + p) = n * 2 ^ (p + 52)) :
    roundHalfEven (scaleTwo n 1 (-((n.log2 : Int) - 52))).1
      (scaleTwo n 1 (-((n.log2 : Int) - 52))).2 = q := by
  rcases Nat.le_total n.log2 52 with hle | hle
  · have hscale : scaleTwo n 1 (-((n.log2 : Int) - 52)) = (n * 2 ^ (52 - n.log2), 1) := by
      rw [← scaleTwo_natCast]
      congr 1
      omega
    have hq : q = n * 2 ^ (52 - n.log2) := by
      refine Nat.eq_of_mul_eq_mul_right (Nat.two_pow_pos (n.log2 + p)) (h.trans ?_)
      rw [Nat.mul_assoc, ← Nat.pow_add]
      congr 2
      omega
    rw [hscale, hq]
    simpa using roundHalfEven_mul Nat.one_pos (n * 2 ^ (52 - n.log2))
  · have hscale : scaleTwo n 1 (-((n.log2 : Int) - 52)) = (n, 1 * 2 ^ (n.log2 - 52)) := by
      rw [← scaleTwo_neg_natCast]
      congr 2
      omega
    have hq : n = q * 2 ^ (n.log2 - 52) := by
      refine Nat.eq_of_mul_eq_mul_right (Nat.two_pow_pos (p + 52)) (h.symm.trans ?_)
      rw [Nat.mul_assoc, ← Nat.pow_add]
      congr 2
      omega
    have hround := roundHalfEven_mul (Nat.two_pow_pos (n.log2 - 52)) q
    rw [hscale, Nat.one_mul]
    rwa [← hq] at hround

/-- One, in units of the smallest positive value. -/
def unitsOfOne : Nat := 2 ^ 1074

/-- A magnitude whose last place is doubled at most 2045 times is below infinity. -/
lemma lt_infinity {k m : Nat} (hk : k ≤ 2045) (hm : m < 2 ^ 53) :
    k * 2 ^ 52 + m < binary64.infinity := by
  rw [infinity_binary64]
  omega

/-- There are units in one. -/
lemma unitsOfOne_pos : 0 < unitsOfOne := by
  unfold unitsOfOne
  positivity

/-- An integer other than zero is not rounded to zero. -/
lemma nearest_one_ne_zero {n : Nat} (hn : n ≠ 0) : binary64.nearest n 1 ≠ 0 := by
  have hleast : binary64.leastPlace = -1074 := by decide
  have hbits : (binary64.fractionBits : Int) = 52 := by decide
  have hplace : 1 ≤ (max binary64.leastPlace (floorLog2 n 1 - binary64.fractionBits) -
      binary64.leastPlace).toNat := by
    rw [floorLog2_one hn, hleast, hbits]
    omega
  rw [nearest, if_neg hn]
  simp only [fractions_binary64]
  rw [infinity_binary64]
  omega

/-- An integer that is a value of the format is rounded to the magnitude that has it. -/
theorem units_nearest {n m k : Nat} (hn : n ≠ 0) (hm : m < 2 ^ 53) (hk : k ≤ 2045)
    (h : n * unitsOfOne = m * 2 ^ k) :
    binary64.nearest n 1 < binary64.infinity ∧
      units (binary64.nearest n 1) = n * unitsOfOne := by
  -- the exponent is kept as a variable, so that the power is not computed
  obtain ⟨p, hp⟩ : ∃ p, p = 1022 := ⟨_, rfl⟩
  have hone : unitsOfOne = 2 ^ (p + 52) := by rw [unitsOfOne, show p + 52 = 1074 by omega]
  rw [hone] at h ⊢
  obtain ⟨hle, q, hq, hq52, hq53⟩ := exists_digits hn hm h
  have hplace : max binary64.leastPlace (floorLog2 n 1 - binary64.fractionBits) =
      (n.log2 : Int) - 52 := by
    have hleast : binary64.leastPlace = -1074 := by decide
    have hbits : (binary64.fractionBits : Int) = 52 := by decide
    rw [floorLog2_one hn, hleast, hbits]
    omega
  have hdoublings : ((n.log2 : Int) - 52 - binary64.leastPlace).toNat = n.log2 + p := by
    have hleast : binary64.leastPlace = -1074 := by decide
    rw [hleast, hp]
    omega
  have hlt := lt_infinity (hle.trans hk) hq53
  have hnearest : binary64.nearest n 1 = (n.log2 + p) * 2 ^ 52 + q := by
    have hround := roundHalfEven_scaleTwo hq
    rw [nearest, if_neg hn]
    simp only [hplace, hdoublings, hround, fractions_binary64]
    exact Nat.min_eq_right hlt.le
  rw [hnearest, units_add hq53 fun _ => hq52]
  exact ⟨hlt, hq⟩

end FloatFormat

/-! ## Numbers -/

/-- Two quotients are equal if their cross products are. -/
lemma Exact.compare_rational {a c : Int} {b d : Nat} :
    (rational a b).compare (rational c d) = .eq ↔ a * d = c * b :=
  compare_eq_iff_eq

namespace Binary64

open FloatFormat (binary64 units doublings significand unitsOfOne)

/-- The word without its sign. -/
def magnitude (x : Binary64) : Nat := x.bits.toNat % 2 ^ 63

/-- The value of a finite number, in units of the smallest positive value. -/
def signedUnits (x : Binary64) : Int :=
  if x.isNegative then -(units x.magnitude : Int) else units x.magnitude

section Words

variable {x y : Binary64}

/-- A word is its sign and its magnitude. -/
lemma bits_eq (x : Binary64) :
    x.bits.toNat = binary64.withSign x.isNegative x.magnitude := by
  have hlt : x.bits.toNat < 2 ^ 64 := x.bits.toNat_lt
  unfold FloatFormat.withSign isNegative magnitude
  rw [FloatFormat.signWord_binary64]
  split
  · rename_i h
    have hsign : 2 ^ 63 ≤ x.bits.toNat := by simpa using h
    omega
  · rename_i h
    have hsign : ¬ 2 ^ 63 ≤ x.bits.toNat := by simpa using h
    omega

/-- A real is given by its sign and its magnitude. -/
lemma ext_magnitude (hsign : x.isNegative = y.isNegative) (h : x.magnitude = y.magnitude) :
    x = y := by
  have hbits : x.bits.toNat = y.bits.toNat := by rw [bits_eq x, bits_eq y, hsign, h]
  cases x
  cases y
  exact congrArg Binary64.mk (UInt64.toNat_inj.mp hbits)

/-- A real is read from its sign and its magnitude. -/
lemma reading_eq (x : Binary64) :
    x.reading = binary64.read (binary64.withSign x.isNegative x.magnitude) := by
  rw [reading, bits_eq]

/-- The sign and the magnitude of a word that is put together. -/
lemma fields_ofWord (negative : Bool) {w : Nat} (h : w < 2 ^ 63) :
    (ofWord (binary64.withSign negative w)).isNegative = negative ∧
      (ofWord (binary64.withSign negative w)).magnitude = w := by
  have hbits : (ofWord (binary64.withSign negative w)).bits.toNat =
      binary64.withSign negative w := by
    rw [ofWord, UInt64.toNat_ofNat', Nat.mod_eq_of_lt (FloatFormat.withSign_lt negative h)]
  rw [isNegative, magnitude, hbits, FloatFormat.withSign, FloatFormat.signWord_binary64]
  cases negative <;> simp <;> omega

/-! ## Values -/

/-- The value of a word below infinity. -/
lemma value?_of_lt (h : x.magnitude < binary64.infinity) :
    ∃ a b, x.value? = some (.rational a b) ∧ 0 < b ∧ a * unitsOfOne = x.signedUnits * b := by
  obtain ⟨p, hp⟩ : ∃ p, p = 1074 := ⟨_, rfl⟩
  have hplace : (doublings x.magnitude : Int) - 1074 = doublings x.magnitude - (p : Nat) := by
    rw [hp]
    rfl
  have hone : unitsOfOne = 2 ^ p := by rw [hp, unitsOfOne]
  obtain ⟨a, b, hscale, hb, hab⟩ :=
    FloatFormat.scaleTwo_sub (significand x.magnitude) (doublings x.magnitude) p
  have hunits : (a : Int) * unitsOfOne = units x.magnitude * b := by
    rw [hone]
    exact_mod_cast hab
  rw [value?, reading_eq, FloatFormat.read_withSign_of_lt _ h]
  simp only [hplace, hscale]
  refine ⟨_, b, rfl, hb, ?_⟩
  unfold signedUnits
  split
  · rw [Int.neg_mul, Int.neg_mul]
    exact congrArg Neg.neg hunits
  · exact hunits

/-- The value of an infinite word. -/
lemma value?_of_eq (h : x.magnitude = binary64.infinity) :
    x.value? = some (if x.isNegative then .negativeInfinity else .positiveInfinity) := by
  rw [value?, reading_eq, h, FloatFormat.read_withSign_infinity]

/-- A word above infinity has no value. -/
lemma value?_of_gt (h : binary64.infinity < x.magnitude) : x.value? = none := by
  have hlt : x.magnitude < 2 ^ 63 := Nat.mod_lt _ (by decide)
  obtain ⟨hexponent, hfraction⟩ := FloatFormat.fields_withSign x.isNegative hlt
  rw [FloatFormat.infinity_binary64] at h
  have hnan : x.reading = .nan := by
    rw [reading_eq, FloatFormat.read, FloatFormat.fractions_binary64,
      FloatFormat.topExponent_binary64]
    simp only [hexponent, hfraction]
    rw [if_pos (by omega), if_neg (by omega)]
  rw [value?, hnan]

/-- A word with a value is below infinity, or it is an infinity. -/
lemma value?_cases {u : Exact} (h : x.value? = some u) :
    (x.magnitude < binary64.infinity ∧
      ∃ a b, u = .rational a b ∧ 0 < b ∧ a * unitsOfOne = x.signedUnits * b) ∨
    x.magnitude = binary64.infinity ∧
      u = if x.isNegative then .negativeInfinity else .positiveInfinity := by
  rcases Nat.lt_trichotomy x.magnitude binary64.infinity with hlt | heq | hgt
  · obtain ⟨a, b, hvalue, hrest⟩ := value?_of_lt hlt
    exact .inl ⟨hlt, a, b, Option.some.inj (h.symm.trans hvalue), hrest⟩
  · exact .inr ⟨heq, Option.some.inj (h.symm.trans (value?_of_eq heq))⟩
  · cases (value?_of_gt hgt).symm.trans h

/-- Two words below infinity with one value other than zero are equal. -/
lemma eq_of_signedUnits (h : x.signedUnits = y.signedUnits) (hne : x.signedUnits ≠ 0) :
    x = y := by
  have hsign : x.isNegative = y.isNegative := by
    unfold signedUnits at h hne
    cases hx : x.isNegative <;> cases hy : y.isNegative <;> simp [hx, hy] at h hne ⊢ <;> omega
  refine ext_magnitude hsign (FloatFormat.units_injective ?_)
  unfold signedUnits at h
  rw [hsign] at h
  split at h <;> omega

/-- The units of a value other than zero. -/
lemma ne_zero_of_units {a : Int} {b : Nat} (h : a * unitsOfOne = x.signedUnits * b)
    (ha : a ≠ 0) : x.signedUnits ≠ 0 := by
  intro hzero
  rw [hzero, Int.zero_mul] at h
  exact (mul_ne_zero ha (Int.natCast_ne_zero.mpr FloatFormat.unitsOfOne_pos.ne')) h

/-- Two words with one value are equal, but for the sign of zero. -/
theorem eq_of_compare {u v : Exact} (hx : x.value? = some u) (hy : y.value? = some v)
    (h : u.compare v = .eq) :
    x = y ∨ u.compare (.ofInt 0) = .eq ∧ v.compare (.ofInt 0) = .eq := by
  rcases value?_cases hx with ⟨-, a, b, rfl, hb, hab⟩ | ⟨hxm, hu⟩ <;>
    rcases value?_cases hy with ⟨-, c, d, rfl, hd, hcd⟩ | ⟨hym, hv⟩
  · have hcross := Exact.compare_rational.mp h
    by_cases hzero : a = 0
    · have hzero' : c = 0 := by
        rw [hzero, Int.zero_mul] at hcross
        exact (mul_eq_zero.mp hcross.symm).resolve_right (Int.natCast_ne_zero.mpr hb.ne')
      refine .inr ⟨Exact.compare_rational.mpr ?_, Exact.compare_rational.mpr ?_⟩
      · rw [hzero, Int.zero_mul, Int.zero_mul]
      · rw [hzero', Int.zero_mul, Int.zero_mul]
    · refine .inl (eq_of_signedUnits ?_ (ne_zero_of_units hab hzero))
      refine Int.eq_of_mul_eq_mul_right (a := (b * d : Int)) (by positivity) ?_
      calc x.signedUnits * (b * d) = a * unitsOfOne * d := by rw [hab]; ring
        _ = c * unitsOfOne * b := by linear_combination unitsOfOne * hcross
        _ = y.signedUnits * (b * d) := by rw [hcd]; ring
  · cases hy : y.isNegative <;> rw [hy] at hv <;> cases hv <;> cases h
  · cases hx : x.isNegative <;> rw [hx] at hu <;> cases hu <;> cases h
  · left
    refine ext_magnitude ?_ (hxm.trans hym.symm)
    cases hx : x.isNegative <;> cases hy : y.isNegative <;> rw [hx] at hu <;> rw [hy] at hv <;>
      cases hu <;> cases hv <;> first | rfl | cases h

/-- What an integer other than zero converts to, by its sign and its magnitude. -/
lemma fields_ofInt {n : Int} (hn : n ≠ 0) :
    (ofInt n).isNegative = decide (n < 0) ∧
      (ofInt n).magnitude = binary64.nearest n.natAbs 1 := by
  have hle : binary64.nearest n.natAbs 1 ≤ binary64.infinity := by
    rw [FloatFormat.nearest, if_neg (Int.natAbs_ne_zero.mpr hn)]
    exact Nat.min_le_left _ _
  have hlt : binary64.nearest n.natAbs 1 < 2 ^ 63 := by
    rw [FloatFormat.infinity_binary64] at hle
    omega
  rw [ofInt, ofRational, if_neg hn]
  exact fields_ofWord _ hlt

/-- The sign of a word whose value is an integer other than zero. -/
lemma isNegative_of_signedUnits {n : Int} (h : x.signedUnits = n * unitsOfOne) (hn : n ≠ 0) :
    x.isNegative = decide (n < 0) := by
  have hone : (0 : Int) < unitsOfOne := by exact_mod_cast FloatFormat.unitsOfOne_pos
  unfold signedUnits at h
  cases hx : x.isNegative with
  | true =>
    rw [if_pos hx] at h
    refine (decide_eq_true (lt_of_le_of_ne (not_lt.mp fun hlt => ?_) hn)).symm
    have := mul_pos hlt hone
    omega
  | false =>
    rw [if_neg (by simp [hx])] at h
    refine (decide_eq_false fun hlt => ?_).symm
    have := mul_neg_of_neg_of_pos hlt hone
    omega

/-- A word whose value is an integer other than zero is what the integer converts to. -/
theorem ofInt_of_compare {u : Exact} {n : Int} (hx : x.value? = some u)
    (h : u.compare (.ofInt n) = .eq) (hn : n ≠ 0) : ofInt n = x := by
  rcases value?_cases hx with ⟨hlt, a, b, rfl, hb, hab⟩ | ⟨-, hu⟩
  · have hvalue : a * 1 = n * b := Exact.compare_rational.mp h
    have hunits : x.signedUnits = n * unitsOfOne := by
      refine Int.eq_of_mul_eq_mul_right (a := (b : Int)) (by positivity) ?_
      rw [← hab]
      linear_combination unitsOfOne * hvalue
    have hmagnitude : units x.magnitude = n.natAbs * unitsOfOne := by
      rw [← Int.natAbs_natCast unitsOfOne, ← Int.natAbs_mul, ← hunits, signedUnits]
      split <;> simp
    have hdoublings : doublings x.magnitude ≤ 2045 := by
      rw [FloatFormat.infinity_binary64] at hlt
      unfold doublings
      omega
    obtain ⟨-, hnearest⟩ := FloatFormat.units_nearest (Int.natAbs_ne_zero.mpr hn)
      (FloatFormat.significand_lt _) hdoublings hmagnitude.symm
    obtain ⟨hsign, hword⟩ := fields_ofInt hn
    refine ext_magnitude ?_ (hword.trans (FloatFormat.units_injective
      (hnearest.trans hmagnitude.symm)))
    rw [hsign, isNegative_of_signedUnits hunits hn]
  · cases hx : x.isNegative <;> rw [hx] at hu <;> cases hu <;> cases h

/-- An integer other than zero does not convert to zero. -/
lemma compare_ofInt_zero {n : Int} (hn : n ≠ 0) {u : Exact} (hu : (ofInt n).value? = some u) :
    u.compare (.ofInt 0) ≠ .eq := by
  obtain ⟨-, hmagnitude⟩ := fields_ofInt hn
  rcases value?_cases hu with ⟨hlt, a, b, rfl, hb, hab⟩ | ⟨-, hu⟩
  · intro h
    have hzero : a = 0 := by simpa using Exact.compare_rational.mp h
    have hunits : (ofInt n).signedUnits = 0 := by
      rw [hzero, Int.zero_mul] at hab
      exact (mul_eq_zero.mp hab.symm).resolve_right (Int.natCast_ne_zero.mpr hb.ne')
    have hnone : units (ofInt n).magnitude = 0 := by
      unfold signedUnits at hunits
      split at hunits <;> omega
    rw [hmagnitude, FloatFormat.units_eq_zero] at hnone
    exact FloatFormat.nearest_one_ne_zero (Int.natAbs_ne_zero.mpr hn) hnone
  · cases hx : (ofInt n).isNegative <;> rw [hx] at hu <;> cases hu <;> exact nofun

end Words

end Binary64

end TypedSql.Number
