import TypedSql.Text.Blank

/-!
# Type parameters of a record

Between the name of a record and its fields stands a text with the record's type parameters: a
list between `<` and `>`, or nothing, and then perhaps a condition on types. Blanks and comments
may stand anywhere in it. A comment goes from `//` to the end of its line or from `/*` to `*/`, and
comments of the second form may hold others of that form.

## Main definitions

* `withoutComments` — a text without its comments.
* `hasTypeParameters` — whether the list is there and holds something.

## Main results

* `withoutComments_of_no_slash` — a text without a slash is kept.
-/

set_option autoImplicit false

namespace TypedSql

/-- Where a character of the text stands. -/
inductive CommentState where
  | outside
  /-- In a comment that ends with its line. -/
  | line
  /-- In a comment that ends with `*/`, inside as many others as `depth` says. -/
  | block (depth : Nat)
  deriving DecidableEq, Repr

/-- The characters of a text outside its comments. -/
def withoutComments : CommentState → List Char → List Char
  | _, [] => []
  | .outside, '/' :: '/' :: rest => withoutComments .line rest
  | .outside, '/' :: '*' :: rest => withoutComments (.block 0) rest
  | .outside, c :: rest => c :: withoutComments .outside rest
  | .line, '\n' :: rest => withoutComments .outside rest
  | .line, _ :: rest => withoutComments .line rest
  | .block d, '/' :: '*' :: rest => withoutComments (.block (d + 1)) rest
  | .block 0, '*' :: '/' :: rest => withoutComments .outside rest
  | .block (d + 1), '*' :: '/' :: rest => withoutComments (.block d) rest
  | .block d, _ :: rest => withoutComments (.block d) rest

/-- Whether a character only separates others: the blanks and the two marks that set the direction
of writing. -/
def isSeparator (c : Char) : Bool := Text.isBlank c || c.toNat == 0x200e || c.toNat == 0x200f

/-- Whether the text after the name of a record lists type parameters. -/
def hasTypeParameters (text : String) : Bool :=
  match (withoutComments .outside text.toList).filter (!isSeparator ·) with
  | '<' :: '>' :: _ => false
  | '<' :: _ => true
  | _ => false

/-- A text without a slash has no comments. -/
theorem withoutComments_of_no_slash {s : List Char} (h : '/' ∉ s) :
    withoutComments .outside s = s := by
  induction s with
  | nil => rfl
  | cons c rest ih =>
    have hc : c ≠ '/' := fun hc => h (hc ▸ List.mem_cons_self)
    rw [withoutComments]
    · rw [ih fun hr => h (List.mem_cons_of_mem _ hr)]
    · exact fun _ hc' _ => hc hc'
    · exact fun _ hc' _ => hc hc'

end TypedSql
