/-!
# Searching in texts

## Main definitions

* `occursIn` — whether a list stands somewhere in another.
* `dropRepeated` — a list without the repetitions of another at its start.
-/

set_option autoImplicit false

namespace TypedSql.Text

/-- Whether the list `part` stands somewhere in a list. -/
def occursIn (part : List Char) : List Char → Bool
  | [] => part.isEmpty
  | c :: rest => part.isPrefixOf (c :: rest) || occursIn part rest

/-- Drops a list from the start of another, as often as it stands there. The bound is the length
of what is left. -/
def dropRepeatedWithin (start : List Char) : Nat → List Char → List Char
  | 0, s => s
  | n + 1, s =>
    if start.isPrefixOf s then dropRepeatedWithin start n (s.drop start.length) else s

/-- Drops a list from the start of another, as often as it stands there. -/
def dropRepeated (start s : List Char) : List Char := dropRepeatedWithin start s.length s

end TypedSql.Text
