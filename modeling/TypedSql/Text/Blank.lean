/-!
# Blanks

The characters with the Unicode property White_Space.

## Main definitions

* `isBlank` — the property.
* `trimStart`, `trim` — a text without the blanks at its start, and at both ends.
-/

set_option autoImplicit false

namespace TypedSql.Text

/-- Whether a character has the property White_Space. -/
def isBlank (c : Char) : Bool :=
  let n := c.toNat
  (0x09 ≤ n && n ≤ 0x0d) || n == 0x20 || n == 0x85 || n == 0xa0 || n == 0x1680 ||
    (0x2000 ≤ n && n ≤ 0x200a) || n == 0x2028 || n == 0x2029 || n == 0x202f || n == 0x205f ||
    n == 0x3000

/-- Drops the blanks at the start of a text. -/
def trimStart (s : List Char) : List Char := s.dropWhile isBlank

/-- Drops the blanks at both ends of a text. -/
def trim (s : List Char) : List Char :=
  (trimStart (trimStart s).reverse).reverse

/-- The blanks of the ASCII range are blanks. -/
theorem isBlank_of_isWhitespace {c : Char} (h : c.isWhitespace = true) : isBlank c = true := by
  simp only [Char.isWhitespace, Bool.or_eq_true, decide_eq_true_eq] at h
  rcases h with ((h | h) | h) | h <;> subst h <;> decide

/-- No decimal digit is a blank. -/
theorem isBlank_digit {c : Char} (h : c.isDigit = true) : isBlank c = false := by
  have hc : 48 ≤ c.toNat ∧ c.toNat ≤ 57 := Char.isDigit_iff_toNat.mp h
  simp only [isBlank, Bool.or_eq_false_iff, Bool.and_eq_false_iff, decide_eq_false_iff_not,
    beq_eq_false_iff_ne]
  omega

end TypedSql.Text
