/-!
# Identifiers

The names that are written unquoted: an ASCII letter or underscore, then ASCII letters, digits and
underscores.

## Main definitions

* `IsIdentifier` — the names of that form.
-/

set_option autoImplicit false

namespace TypedSql.Text

/-- An ASCII letter or an underscore. -/
def isNameStart (c : Char) : Bool := c.isAlpha || c == '_'

/-- An ASCII letter, a digit or an underscore. -/
def isNameChar (c : Char) : Bool := c.isAlphanum || c == '_'

/-- Whether the characters form an identifier. -/
def isName : List Char → Bool
  | [] => false
  | c :: rest => isNameStart c && rest.all isNameChar

/-- A text is an identifier if it starts with a letter or an underscore and goes on with letters,
digits and underscores. -/
def IsIdentifier (s : String) : Prop := isName s.toList = true

instance (s : String) : Decidable (IsIdentifier s) :=
  inferInstanceAs (Decidable (_ = _))

/-- The first character of a name may stand at any of its places. -/
theorem isNameChar_of_isNameStart {c : Char} (h : isNameStart c = true) : isNameChar c = true := by
  simp only [isNameStart, isNameChar, Char.isAlphanum, Bool.or_eq_true] at *
  exact h.imp_left Or.inl

namespace IsIdentifier

variable {s t : String}

/-- All characters of an identifier may stand at any place of a name. -/
theorem all_isNameChar (h : IsIdentifier s) : s.toList.all isNameChar = true := by
  unfold IsIdentifier at h
  cases hs : s.toList with
  | nil => rfl
  | cons c rest =>
    rw [hs, isName, Bool.and_eq_true] at h
    rw [List.all_cons, isNameChar_of_isNameStart h.1, h.2]
    rfl

/-- An identifier may go on with characters of names. -/
theorem append (h : IsIdentifier s) (ht : t.toList.all isNameChar = true) :
    IsIdentifier (s ++ t) := by
  unfold IsIdentifier at h ⊢
  cases hs : s.toList with
  | nil => rw [hs] at h; cases h
  | cons c rest =>
    rw [hs, isName, Bool.and_eq_true] at h
    rw [String.toList_append, hs, List.cons_append, isName, List.all_append, h.1, h.2, ht]
    rfl

end IsIdentifier

end TypedSql.Text
