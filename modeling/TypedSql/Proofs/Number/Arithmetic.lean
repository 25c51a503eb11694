import Mathlib.Algebra.Order.Ring.Nat
import Mathlib.Tactic.SplitIfs
import TypedSql.Number.Binary

/-!
# Arithmetic on floating-point numbers gives numbers

Rounding gives a word up to infinity, so that a result which is rounded is never NaN. Arithmetic on
finite numbers gives NaN only where it divides by zero.

## Main results

* `Binary64.isNaN_ofRational` — a rounded rational is a number.
* `Binary64.isNaN_add`, `isNaN_sub`, `isNaN_mul`, `isNaN_div` — arithmetic on finite numbers.
-/

set_option autoImplicit false

namespace TypedSql.Number

/-! ## Words -/

namespace FloatFormat

/-- A double has 52 bits of fraction. -/
lemma fractions_binary64 : binary64.fractions = 2 ^ 52 := by decide

/-- The exponent of a double has 11 bits. -/
lemma topExponent_binary64 : binary64.topExponent = 2047 := by decide

/-- The sign of a double is its highest bit. -/
lemma signWord_binary64 : binary64.signWord = 2 ^ 63 := by decide

/-- The word of infinity has all bits of the exponent and none of the fraction. -/
lemma infinity_binary64 : binary64.infinity = 2047 * 2 ^ 52 := by decide

/-- A magnitude with a sign fits into 64 bits. -/
lemma withSign_lt (negative : Bool) {magnitude : Nat} (h : magnitude < 2 ^ 63) :
    binary64.withSign negative magnitude < 2 ^ 64 := by
  unfold withSign
  split
  · rw [signWord_binary64]
    omega
  · omega

/-- The exponent and the fraction of a word do not depend on its sign. -/
lemma fields_withSign (negative : Bool) {magnitude : Nat} (h : magnitude < 2 ^ 63) :
    binary64.withSign negative magnitude / 2 ^ 52 % 2048 = magnitude / 2 ^ 52 ∧
      binary64.withSign negative magnitude % 2 ^ 52 = magnitude % 2 ^ 52 := by
  unfold withSign
  split
  · rw [signWord_binary64]
    omega
  · omega

/-- A word up to infinity, with any sign, is read as a number. -/
lemma read_withSign_ne_nan (negative : Bool) {magnitude : Nat}
    (h : magnitude ≤ binary64.infinity) :
    binary64.read (binary64.withSign negative magnitude) ≠ .nan := by
  rw [infinity_binary64] at h
  obtain ⟨hexponent, hfraction⟩ := fields_withSign negative (show magnitude < 2 ^ 63 by omega)
  unfold read
  rw [fractions_binary64, topExponent_binary64]
  simp only [hexponent, hfraction]
  split_ifs with htop hzero <;> simp
  omega

end FloatFormat

/-! ## Numbers -/

namespace Binary64

open FloatFormat (binary64)

/-- The value of a finite number is rational, and only that. -/
lemma isFinite_iff {x : Binary64} :
    x.isFinite = true ↔ ∃ n d, x.value? = some (.rational n d) := by
  unfold isFinite value?
  cases x.reading with
  | infinite negative => cases negative <;> simp
  | nan | finite _ _ _ => simp

/-- A finite real is a number. -/
lemma isNaN_of_isFinite {x : Binary64} (h : x.isFinite = true) : x.isNaN = false := by
  unfold isFinite at h
  unfold isNaN
  cases hx : x.reading <;> simp_all

/-- A word of 64 bits is read as it is. -/
lemma reading_ofWord {n : Nat} (h : n < 2 ^ 64) : (ofWord n).reading = binary64.read n := by
  rw [reading, ofWord, UInt64.toNat_ofNat', Nat.mod_eq_of_lt h]

/-- The number nearest to a fraction is a number. -/
lemma isNaN_nearest (negative : Bool) (num den : Nat) :
    (nearest negative num den).isNaN = false := by
  have hle : binary64.nearest num den ≤ binary64.infinity := by
    unfold FloatFormat.nearest
    split
    · exact Nat.zero_le _
    · exact Nat.min_le_left _ _
  have hlt : binary64.nearest num den < 2 ^ 63 := by
    rw [FloatFormat.infinity_binary64] at hle
    omega
  rw [isNaN, nearest, reading_ofWord (FloatFormat.withSign_lt negative hlt)]
  simpa using FloatFormat.read_withSign_ne_nan negative hle

/-- The real nearest to a quotient is a number. -/
theorem isNaN_ofRational (negativeZero : Bool) (num : Int) (den : Nat) :
    (ofRational negativeZero num den).isNaN = false :=
  isNaN_nearest _ _ _

/-- A number is finite if and only if its negation is. -/
lemma isFinite_neg (x : Binary64) : x.neg.isFinite = x.isFinite := by
  have hbits : x.bits.toNat < 2 ^ 64 := x.bits.toNat_lt
  have hlt : x.bits.toNat % 2 ^ 63 < 2 ^ 63 := Nat.mod_lt _ (by decide)
  have hword : x.neg.reading =
      binary64.read (binary64.withSign (!x.isNegative) (x.bits.toNat % 2 ^ 63)) := by
    rw [neg, FloatFormat.signWord_binary64]
    exact reading_ofWord (FloatFormat.withSign_lt _ hlt)
  obtain ⟨hexponent, hfraction⟩ := FloatFormat.fields_withSign (!x.isNegative) hlt
  have hexponent' : x.bits.toNat % 2 ^ 63 / 2 ^ 52 = x.bits.toNat / 2 ^ 52 % 2048 := by omega
  have hfraction' : x.bits.toNat % 2 ^ 63 % 2 ^ 52 = x.bits.toNat % 2 ^ 52 := by omega
  unfold isFinite
  rw [hword, reading]
  unfold FloatFormat.read
  rw [FloatFormat.fractions_binary64, FloatFormat.topExponent_binary64]
  simp only [hexponent, hfraction, hexponent', hfraction']
  split_ifs <;> rfl

/-! ## Arithmetic -/

section Arithmetic

variable {x y : Binary64}

/-- Sums of finite numbers are numbers. -/
theorem isNaN_add (hx : x.isFinite = true) (hy : y.isFinite = true) :
    (x.add y).isNaN = false := by
  obtain ⟨a, b, hx⟩ := isFinite_iff.mp hx
  obtain ⟨c, d, hy⟩ := isFinite_iff.mp hy
  simp only [add, hx, hy]
  exact isNaN_ofRational _ _ _

/-- Differences of finite numbers are numbers. -/
theorem isNaN_sub (hx : x.isFinite = true) (hy : y.isFinite = true) :
    (x.sub y).isNaN = false :=
  isNaN_add hx ((isFinite_neg y).trans hy)

/-- Products of finite numbers are numbers. -/
theorem isNaN_mul (hx : x.isFinite = true) (hy : y.isFinite = true) :
    (x.mul y).isNaN = false := by
  obtain ⟨a, b, hx⟩ := isFinite_iff.mp hx
  obtain ⟨c, d, hy⟩ := isFinite_iff.mp hy
  simp only [mul, hx, hy]
  exact isNaN_ofRational _ _ _

/-- Quotients of finite numbers by numbers other than zero are numbers. -/
theorem isNaN_div (hx : x.isFinite = true) (hy : y.isFinite = true)
    (hzero : ∀ d, y.value? ≠ some (.rational 0 d)) : (x.div y).isNaN = false := by
  obtain ⟨a, b, hx⟩ := isFinite_iff.mp hx
  obtain ⟨c, d, hy⟩ := isFinite_iff.mp hy
  have hc : c ≠ 0 := fun h => hzero d (h ▸ hy)
  simp only [div, hx, hy, if_neg hc]
  exact isNaN_ofRational _ _ _

end Arithmetic

end Binary64

end TypedSql.Number
