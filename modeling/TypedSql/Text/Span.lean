/-!
# Sets of characters as spans

A Unicode property is written as a list of spans of code points. A span has a stride, since the
capital letters of many scripts are every other code point of a block.

## Main definitions

* `Span` — the code points `first`, `first + stride`, … up to `last`.
* `Span.covers` — whether one of the spans of a list holds a character.
-/

set_option autoImplicit false

namespace TypedSql.Text

/-- The code points from `first` to `last` in steps of `stride`. -/
structure Span where
  first : Nat
  last : Nat
  stride : Nat
  deriving DecidableEq, Repr

namespace Span

/-- Whether the span holds the code point. -/
def holds (s : Span) (n : Nat) : Bool :=
  s.first ≤ n && n ≤ s.last && (n - s.first) % s.stride == 0

/-- Whether one of the spans holds the character. -/
def covers (spans : List Span) (c : Char) : Bool :=
  spans.any (·.holds c.toNat)

/-- A list of spans covers what one of its parts covers. -/
theorem covers_append (s t : List Span) (c : Char) :
    covers (s ++ t) c = (covers s c || covers t c) := by
  simp [covers, List.any_append]

end Span

end TypedSql.Text
