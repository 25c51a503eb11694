import Mathlib.Data.List.Forall2
import TypedSql.Proofs.Sql.Pieces

/-!
# Reading the text of a write

The text of a write names columns and gives placeholders to them, in two lists that belong together
place by place or in equations. The reader of such a text takes its lexemes one after another. It
knows nothing of how the text is assembled, and it takes a word for a name wherever a name has to
stand, so that a column may be called like a keyword.

## Main definitions

* `Write` — what a write says, with a value for each of its placeholders.
* `Write.ofText?` — the write that a text says.
* `Write.fill` — a write in which the placeholders are filled with parameters.

## Main results

* `Sql.readSeparated_of_forall₂`, `Sql.readList_of_forall₂` — lists of items are read back.
* `Write.fillAll_range'` — placeholders in order are filled with the parameters in order.
-/

set_option autoImplicit false

namespace TypedSql

/-- What a write says, with a value for each of its placeholders. -/
inductive Write (α : Type) where
  /-- Adds a row with the given values in some columns. -/
  | insert (table : String) (given : List (String × α))
  /-- Adds a row with the given values. If there is one with the same values in the key columns,
  then the first column of each update takes over the value for the second one; without updates
  nothing changes. -/
  | upsert (table : String) (given : List (String × α)) (keys : List String)
      (updates : List (String × String))
  /-- Gives some columns new values in the rows that match the given values of others. -/
  | update (table : String) (assigned matched : List (String × α))
  deriving DecidableEq, Repr

namespace Sql

/-! ## Lists of items -/

section Lists

variable {α : Type}

/-- The items at the front of a list of lexemes, with a separator between each two, and what follows
the last of them. The test for progress always holds; it lets the recursion be seen to end. -/
def readSeparated (separator : Lexeme) (item : List Lexeme → Option (α × List Lexeme))
    (ls : List Lexeme) : Option (List α × List Lexeme) :=
  match item ls with
  | none => none
  | some (a, []) => some ([a], [])
  | some (a, l :: after) =>
    if l = separator ∧ after.length < ls.length then
      (readSeparated separator item after).map fun (as, rest) => (a :: as, rest)
    else some ([a], l :: after)
termination_by ls.length

/-- The items between parentheses, with commas between them, and what follows. There may be none. -/
def readList (item : List Lexeme → Option (α × List Lexeme)) :
    List Lexeme → Option (List α × List Lexeme)
  | .mark .opening :: .mark .closing :: rest => some ([], rest)
  | .mark .opening :: rest =>
    match readSeparated (.mark .comma) item rest with
    | some (as, .mark .closing :: after) => some (as, after)
    | _ => none
  | _ => none

/-- Whether the pieces are read back as an item in front of every text that the test passes. -/
def ReadsAs (item : List Lexeme → Option (α × List Lexeme)) (follows : List Lexeme → Prop)
    (ps : List Piece) (a : α) : Prop :=
  ∀ rest, follows rest → item (lexemes ps ++ rest) = some (a, rest)

section Read

variable {item : List Lexeme → Option (α × List Lexeme)} {follows : List Lexeme → Prop}
  {pss : List (List Piece)} {as : List α} {between : List Piece} {rest : List Lexeme}

/-- Separated items are read back, if each item is read back in front of a separator and of what
follows, which is no separator. -/
theorem readSeparated_of_forall₂ {separator : Lexeme} (hbetween : lexemes between = [separator])
    (hseparator : ∀ rest, follows (separator :: rest)) (hfollows : follows rest)
    (hrest : ∀ l ∈ rest.head?, l ≠ separator) (h : List.Forall₂ (ReadsAs item follows) pss as)
    (has : as ≠ []) :
    readSeparated separator item (lexemes (between.intercalate pss) ++ rest) = some (as, rest) := by
  induction h with
  | nil => exact absurd rfl has
  | @cons ps a pss as hitem hitems ih =>
    cases hitems with
    | nil =>
      rw [List.intercalate_singleton, readSeparated, hitem rest hfollows]
      cases rest with
      | nil => rfl
      | cons l after => simp [hrest l rfl]
    | @cons qs b pss as hitem' hitems =>
      have hread := ih (List.cons_ne_nil b as)
      rw [List.intercalate_cons_cons, lexemes_append, lexemes_append, hbetween, List.append_assoc,
        List.append_assoc, List.singleton_append, readSeparated, hitem _ (hseparator _)]
      simp only [hread, true_and, List.length_append, List.length_cons]
      rw [if_pos (by omega)]
      rfl

/-- Items between parentheses are read back, if none starts with a closing parenthesis. -/
theorem readList_of_forall₂ (hbetween : lexemes between = [.mark .comma])
    (hfollows : ∀ m rest, follows (.mark m :: rest))
    (hclosing : ∀ rest, item (.mark .closing :: rest) = none)
    (h : List.Forall₂ (ReadsAs item follows) pss as) (rest : List Lexeme) :
    readList item
      (.mark .opening :: (lexemes (between.intercalate pss) ++ .mark .closing :: rest)) =
      some (as, rest) := by
  cases h with
  | nil => rfl
  | @cons ps a pss as hitem hitems =>
    have hread : readSeparated (.mark .comma) item
        (lexemes (between.intercalate (ps :: pss)) ++ .mark .closing :: rest) =
        some (a :: as, .mark .closing :: rest) :=
      readSeparated_of_forall₂ hbetween (fun _ => hfollows _ _) (hfollows _ _) (by simp)
        (.cons hitem hitems) (List.cons_ne_nil a as)
    unfold readList
    split
    · rename_i heq
      rw [(List.cons.inj heq).2, readSeparated, hclosing] at hread
      cases hread
    · rename_i heq
      obtain rfl := (List.cons.inj heq).2
      rw [hread]
    · rename_i hopening
      exact absurd rfl (hopening _)

end Read

section Spelled

variable {item : List Lexeme → Option (α × List Lexeme)} {spelled : α → List Piece}

/-- Items are read back one by one, if each is in front of every text. -/
lemma forall₂_readsAs (hitem : ∀ a rest, item (lexemes (spelled a) ++ rest) = some (a, rest))
    (as : List α) : List.Forall₂ (ReadsAs item fun _ => True) (as.map spelled) as :=
  List.forall₂_map_left_iff.mpr (List.forall₂_same.mpr fun a _ rest _ => hitem a rest)

/-- Separated items are read back, if each item is read back in front of every text, and what
follows is no separator. -/
lemma readSeparated_append {separator : Lexeme} {between : List Piece}
    (hbetween : lexemes between = [separator])
    (hitem : ∀ a rest, item (lexemes (spelled a) ++ rest) = some (a, rest)) {rest : List Lexeme}
    (hrest : ∀ l ∈ rest.head?, l ≠ separator) {as : List α} (has : as ≠ []) :
    readSeparated separator item (lexemes (between.intercalate (as.map spelled)) ++ rest) =
      some (as, rest) :=
  readSeparated_of_forall₂ hbetween (fun _ => trivial) trivial hrest (forall₂_readsAs hitem as) has

/-- Items between parentheses are read back, if none starts with a closing parenthesis. -/
lemma readList_append (hitem : ∀ a rest, item (lexemes (spelled a) ++ rest) = some (a, rest))
    (hclosing : ∀ rest, item (.mark .closing :: rest) = none) (as : List α) (rest : List Lexeme) :
    readList item (lexemes (parenthesized (commaList (as.map spelled))) ++ rest) =
      some (as, rest) := by
  have hlexemes : lexemes (parenthesized (commaList (as.map spelled))) ++ rest =
      .mark .opening :: (lexemes (commaList (as.map spelled)) ++ .mark .closing :: rest) := by
    simp [parenthesized]
  rw [hlexemes]
  exact readList_of_forall₂ rfl (fun _ _ => trivial) hclosing (forall₂_readsAs hitem as) rest

end Spelled

end Lists

/-! ## Items -/

/-- A name. -/
def readName : List Lexeme → Option (String × List Lexeme)
  | .word w :: rest => some (w, rest)
  | _ => none

/-- A placeholder. -/
def readPlaceholder : List Lexeme → Option (Nat × List Lexeme)
  | .placeholder n :: rest => some (n, rest)
  | _ => none

/-- The equation of a column with a placeholder. -/
def readEquation : List Lexeme → Option ((String × Nat) × List Lexeme)
  | .word column :: .mark .equal :: .placeholder n :: rest => some ((column, n), rest)
  | _ => none

/-- The equation of a column with a column of the new row. -/
def readTakeover : List Lexeme → Option ((String × String) × List Lexeme)
  | .word column :: .mark .equal :: .word "excluded" :: .mark .dot :: .word other :: rest =>
    some ((column, other), rest)
  | _ => none

/-! ## Writes -/

/-- A new row: a table, names of columns and as many placeholders, in pairs. -/
def readInsert : List Lexeme → Option ((String × List (String × Nat)) × List Lexeme)
  | .word "INSERT" :: .word "INTO" :: .word table :: rest =>
    match readList readName rest with
    | some (columns, .word "VALUES" :: rest) =>
      match readList readPlaceholder rest with
      | some (values, rest) =>
        if columns.length = values.length then some ((table, columns.zip values), rest) else none
      | none => none
    | _ => none
  | _ => none

/-- What happens to the columns of a row with the same key. -/
def readUpdates : List Lexeme → Option (List (String × String))
  | [.word "DO", .word "NOTHING"] => some []
  | .word "DO" :: .word "UPDATE" :: .word "SET" :: rest =>
    match readSeparated (.mark .comma) readTakeover rest with
    | some (updates, []) => some updates
    | _ => none
  | _ => none

/-- The columns of a key, and what happens to a row that has the same values in them. -/
def readConflict : List Lexeme → Option (List String × List (String × String))
  | .word "ON" :: .word "CONFLICT" :: rest =>
    match readList readName rest with
    | some (keys, rest) => (readUpdates rest).map (keys, ·)
    | none => none
  | _ => none

/-- New values of some columns, and the values that others have to match. -/
def readUpdate : List Lexeme → Option (Write Nat)
  | .word "UPDATE" :: .word table :: .word "SET" :: rest =>
    match readSeparated (.mark .comma) readEquation rest with
    | some (assigned, .word "WHERE" :: rest) =>
      match readSeparated (.word "AND") readEquation rest with
      | some (matched, []) => some (.update table assigned matched)
      | _ => none
    | _ => none
  | _ => none

/-- The write that some lexemes say. -/
def readWrite (ls : List Lexeme) : Option (Write Nat) :=
  match readInsert ls with
  | some ((table, given), []) => some (.insert table given)
  | some ((table, given), rest) =>
    (readConflict rest).map fun (keys, updates) => .upsert table given keys updates
  | none => readUpdate ls

end Sql

namespace Write

/-- The write that a text says, with the positions of its placeholders. -/
def ofText? (text : String) : Option (Write Nat) := (Sql.lex text.toList).bind Sql.readWrite

/-! ## Filling placeholders -/

/-- The parameter at a position, which is counted from one. -/
def parameter? (params : List Cell) : Nat → Option Cell
  | 0 => none
  | n + 1 => params[n]?

/-- Columns with the parameters at the positions of their placeholders. -/
def fillAll (params : List Cell) : List (String × Nat) → Option (List (String × Cell))
  | [] => some []
  | (column, n) :: given => do
    let cell ← parameter? params n
    return (column, cell) :: (← fillAll params given)

/-- The write in which every placeholder is filled with its parameter. -/
def fill (params : List Cell) : Write Nat → Option (Write Cell)
  | .insert table given => (fillAll params given).map (.insert table)
  | .upsert table given keys updates =>
    (fillAll params given).map fun given => .upsert table given keys updates
  | .update table assigned matched => do
    return .update table (← fillAll params assigned) (← fillAll params matched)

/-- Placeholders in order are filled with the parameters in order. -/
theorem fillAll_range' {columns : List String} {cells : List Cell}
    (hlength : columns.length = cells.length) (before after : List Cell) :
    fillAll (before ++ cells ++ after)
        (columns.zip (List.range' (before.length + 1) columns.length)) =
      some (columns.zip cells) := by
  induction columns generalizing before cells with
  | nil => rfl
  | cons column columns ih =>
    obtain ⟨cell, cells, rfl⟩ := List.exists_cons_of_length_eq_add_one hlength.symm
    have hcell : parameter? (before ++ cell :: cells ++ after) (before.length + 1) = some cell := by
      simp [parameter?]
    have hrest := ih (Nat.succ.inj hlength) (before ++ [cell])
    rw [List.length_append, List.length_singleton, List.append_assoc before,
      List.singleton_append] at hrest
    rw [List.length_cons, List.range'_succ, List.zip_cons_cons, fillAll, hcell, hrest]
    rfl

end Write

end TypedSql
