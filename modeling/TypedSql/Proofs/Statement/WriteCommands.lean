import TypedSql.Statement.Command
import TypedSql.Proofs.Sql.WriteText

/-!
# The text of the commands that write a row

The commands that write a row put lists of names, of placeholders and of equations together, and the
placeholders are counted anew in each command. This file reads their texts back: every column is
paired with its placeholder, and the placeholders are one, two and so on in the order of the text.

## Main results

* `Command.standsApart_insert`, `standsApart_conflict`, `standsApart_update` — no piece of the texts
  runs into the next one.
* `Command.placeholdersOf_insertPieces`, `placeholdersOf_updatePieces` — the placeholders in order.
* `Command.ofText?_insert`, `ofText?_upsert`, `ofText?_update` — the texts are read back.
-/

set_option autoImplicit false

namespace TypedSql

open Sql (Lexeme Piece StandsApart lexemes placeholdersOf commaList parenthesized word words mark
  blank placeholder)
open Text (IsIdentifier)

/-! ## The text of the commands -/

namespace Command

variable {table : String} {columns keys updated assigned : List String}

/-- The placeholders are numbered from the first on. -/
lemma placeholders_eq (start count : Nat) :
    placeholders start count = (List.range' start count).map placeholder := by
  rw [placeholders, List.range'_eq_map_range, List.map_map]
  rfl

/-- The equations of columns with placeholders, pair by pair. -/
lemma equations_eq (start : Nat) (columns : List String) :
    equations start columns = (columns.zip (List.range' start columns.length)).map
      fun (c, n) => equation c (placeholder n) := by
  rw [equations, placeholders_eq, List.zipWith_map_right, List.map_zip_eq_zipWith]
  rfl

section StandsApart

/-- The names of a list can be told apart. -/
lemma standsApart_names (h : ∀ c ∈ columns, IsIdentifier c) :
    StandsApart (parenthesized (commaList (columns.map word))) :=
  (StandsApart.commaList (by simpa using fun c hc => StandsApart.word (h c hc))).parenthesized

/-- The words of an equation can be told apart if those on its right side can. -/
lemma standsApart_equation {c : String} (hc : IsIdentifier c) {other : List Piece}
    (hother : StandsApart other) : StandsApart (equation c other) :=
  ((StandsApart.word hc).append_blank (.mark .equal)).append_blank hother

/-- The words of each equation can be told apart. -/
lemma standsApart_equations (start : Nat) (h : ∀ c ∈ columns, IsIdentifier c) :
    ∀ ps ∈ equations start columns, StandsApart ps := by
  rw [equations_eq]
  intro ps hps
  obtain ⟨⟨c, n⟩, hmem, rfl⟩ := List.mem_map.mp hps
  exact standsApart_equation (h c (List.of_mem_zip hmem).1) (.placeholder n)

/-- The words of an insertion can be told apart. -/
theorem standsApart_insert (htable : IsIdentifier table) (h : ∀ c ∈ columns, IsIdentifier c) :
    StandsApart (insertPieces table columns) := by
  have hplaceholders : StandsApart (parenthesized (commaList (placeholders 1 columns.length))) := by
    refine (StandsApart.commaList fun ps hps => ?_).parenthesized
    rw [placeholders_eq] at hps
    obtain ⟨n, -, rfl⟩ := List.mem_map.mp hps
    exact .placeholder n
  have hwords : ∀ w ∈ ["INSERT", "INTO", table], IsIdentifier w := by
    simp only [List.forall_mem_cons, List.not_mem_nil, false_imp_iff, implies_true, and_true]
    exact ⟨by decide, by decide, htable⟩
  exact (((StandsApart.words hwords).append_blank (standsApart_names h)).append_blank
    (.word (by decide))).append_blank hplaceholders

/-- The words of a conflict clause can be told apart. -/
theorem standsApart_conflict (hkeys : ∀ c ∈ keys, IsIdentifier c)
    (hupdated : ∀ c ∈ updated, IsIdentifier c) : StandsApart (conflictPieces keys updated) := by
  have hwords : StandsApart (words ["ON", "CONFLICT"]) := .words (by decide)
  have hkey := hwords.append_blank (standsApart_names hkeys)
  unfold conflictPieces
  split
  · exact hkey.append_blank (.words (by decide))
  · refine hkey.append_blank ((StandsApart.words (by decide)).append_blank (.commaList ?_))
    intro ps hps
    obtain ⟨c, hc, rfl⟩ := List.mem_map.mp hps
    exact standsApart_equation (hupdated c hc) (.word_dot_word (by decide) (hupdated c hc))

/-- The words of an update can be told apart. -/
theorem standsApart_update (htable : IsIdentifier table)
    (hassigned : ∀ c ∈ assigned, IsIdentifier c) (hkeys : ∀ c ∈ keys, IsIdentifier c) :
    StandsApart (updatePieces table assigned keys) := by
  have hwords : ∀ w ∈ ["UPDATE", table, "SET"], IsIdentifier w := by
    simp only [List.forall_mem_cons, List.not_mem_nil, false_imp_iff, implies_true, and_true]
    exact ⟨by decide, htable, by decide⟩
  have hand : ∀ {ps qs : List Piece}, StandsApart ps → StandsApart qs →
      StandsApart (ps ++ (blank ++ word "AND" ++ blank) ++ qs) := fun hp hq => by
    simpa only [List.append_assoc] using
      (hp.append_blank (.word (w := "AND") (by decide))).append_blank hq
  exact ((((StandsApart.words hwords).append_blank
    (.commaList (standsApart_equations 1 hassigned))).append_blank (.word (by decide))).append_blank
    (.intercalate hand (standsApart_equations _ hkeys)))

end StandsApart

/-! ## Placeholders -/

section Placeholders

/-- The positions of placeholders that are numbered from a first one on. -/
lemma flatMap_placeholders (start count : Nat) :
    (placeholders start count).flatMap placeholdersOf = List.range' start count := by
  rw [placeholders_eq, List.flatMap_map]
  simp

/-- The placeholders of equations are numbered from the first on. -/
lemma flatMap_equations (start : Nat) (columns : List String) :
    (equations start columns).flatMap placeholdersOf = List.range' start columns.length := by
  have hequation : ∀ p : String × Nat, placeholdersOf (equation p.1 (placeholder p.2)) = [p.2] :=
    fun p => by simp [equation]
  rw [equations_eq, List.flatMap_map]
  simp only [hequation]
  rw [← List.map_eq_flatMap, List.map_snd_zip (by simp)]

/-- The placeholders of an insertion are numbered from one, one for each column. -/
theorem placeholdersOf_insertPieces (table : String) (columns : List String) :
    placeholdersOf (insertPieces table columns) = List.range' 1 columns.length := by
  have hnames : (columns.map word).flatMap placeholdersOf = [] := by simp [List.flatMap_map]
  simp [insertPieces, hnames, flatMap_placeholders]

/-- There are no placeholders in a conflict clause. -/
lemma placeholdersOf_conflictPieces (keys updated : List String) :
    placeholdersOf (conflictPieces keys updated) = [] := by
  have hnames : (keys.map word).flatMap placeholdersOf = [] := by simp [List.flatMap_map]
  unfold conflictPieces
  split <;> simp [hnames, equation, List.flatMap_map]

/-- The placeholders of the matched columns go on after those of the assigned ones. -/
theorem placeholdersOf_updatePieces (table : String) (assigned keys : List String) :
    placeholdersOf (updatePieces table assigned keys) =
      List.range' 1 (assigned.length + keys.length) := by
  have hmatched : placeholdersOf ((blank ++ word "AND" ++ blank).intercalate
      (equations (assigned.length + 1) keys)) = List.range' (assigned.length + 1) keys.length := by
    rw [Sql.placeholdersOf_intercalate (by simp), flatMap_equations]
  simp only [updatePieces, Sql.placeholdersOf_append, Sql.placeholdersOf_words,
    Sql.placeholdersOf_blank, Sql.placeholdersOf_commaList, Sql.placeholdersOf_word,
    flatMap_equations, hmatched, List.nil_append, List.append_nil]
  rw [Nat.add_comm assigned.length 1, List.range'_append_1]

end Placeholders

/-! ## Reading the commands back -/

section Reading

/-- Names between parentheses are read back. -/
lemma readList_names (columns : List String) (rest : List Lexeme) :
    Sql.readList Sql.readName (lexemes (parenthesized (commaList (columns.map word))) ++ rest) =
      some (columns, rest) :=
  Sql.readList_append (fun _ _ => rfl) (fun _ => rfl) columns rest

/-- Placeholders between parentheses are read back. -/
lemma readList_placeholders (start count : Nat) (rest : List Lexeme) :
    Sql.readList Sql.readPlaceholder
      (lexemes (parenthesized (commaList (placeholders start count))) ++ rest) =
      some (List.range' start count, rest) := by
  rw [placeholders_eq]
  exact Sql.readList_append (fun _ _ => rfl) (fun _ => rfl) _ rest

/-- Equations are read back, up to what is no separator. -/
lemma readSeparated_equations {between : List Piece} {separator : Lexeme}
    (hbetween : lexemes between = [separator]) (start : Nat) (h : columns ≠ [])
    {rest : List Lexeme} (hrest : ∀ l ∈ rest.head?, l ≠ separator) :
    Sql.readSeparated separator Sql.readEquation
      (lexemes (between.intercalate (equations start columns)) ++ rest) =
      some (columns.zip (List.range' start columns.length), rest) := by
  have hne : columns.zip (List.range' start columns.length) ≠ [] := by
    simpa [List.zip_eq_nil_iff] using h
  rw [equations_eq]
  exact Sql.readSeparated_append hbetween (fun _ _ => rfl) hrest hne

/-- The text of pieces that stand apart is read by their lexemes. -/
lemma ofText?_spell {ps : List Piece} (h : StandsApart ps) :
    Write.ofText? (Sql.spell ps) = Sql.readWrite (lexemes ps) := by
  rw [Write.ofText?, h.lex_spell, Option.bind_some]

/-- The front of an insertion is read back. -/
lemma readInsert_append (table : String) (columns : List String) (rest : List Lexeme) :
    Sql.readInsert (lexemes (insertPieces table columns) ++ rest) =
      some ((table, columns.zip (List.range' 1 columns.length)), rest) := by
  have hlexemes : lexemes (insertPieces table columns) ++ rest =
      .word "INSERT" :: .word "INTO" :: .word table ::
        (lexemes (parenthesized (commaList (columns.map word))) ++ .word "VALUES" ::
          (lexemes (parenthesized (commaList (placeholders 1 columns.length))) ++ rest)) := by
    simp [insertPieces, words, List.intercalate]
  rw [hlexemes]
  unfold Sql.readInsert
  simp only [readList_names, readList_placeholders, List.length_range', if_true]

/-- The text of an insertion pairs the columns with the placeholders in order. -/
theorem ofText?_insert (htable : IsIdentifier table) (h : ∀ c ∈ columns, IsIdentifier c) :
    Write.ofText? (insert table columns).text =
      some (.insert table (columns.zip (List.range' 1 columns.length))) := by
  have hread := readInsert_append table columns []
  rw [List.append_nil] at hread
  rw [text, pieces, ofText?_spell (standsApart_insert htable h), Sql.readWrite, hread]

/-- Columns that take over their own new values are read back. -/
lemma readSeparated_takeovers (h : updated ≠ []) :
    Sql.readSeparated (.mark .comma) Sql.readTakeover (lexemes (commaList
      (updated.map fun c => equation c (word "excluded" ++ mark .dot ++ word c)))) =
      some (updated.map fun c => (c, c), []) := by
  have hread : Sql.readSeparated (.mark .comma) Sql.readTakeover
      (lexemes ((mark .comma ++ blank).intercalate ((updated.map fun c => (c, c)).map
        fun p => equation p.1 (word "excluded" ++ mark .dot ++ word p.2))) ++ []) =
      some (updated.map fun c => (c, c), []) :=
    Sql.readSeparated_append rfl (fun _ _ => rfl) (by simp) (by simpa using h)
  rwa [List.map_map, List.append_nil] at hread

/-- What an upsert does with a taken key is read back. -/
lemma readConflict_conflictPieces (keys updated : List String) :
    Sql.readConflict (lexemes (conflictPieces keys updated)) =
      some (keys, updated.map fun c => (c, c)) := by
  cases updated with
  | nil =>
    have hlexemes : lexemes (conflictPieces keys []) = .word "ON" :: .word "CONFLICT" ::
        (lexemes (parenthesized (commaList (keys.map word))) ++
          [.word "DO", .word "NOTHING"]) := by
      simp [conflictPieces, words, List.intercalate]
    rw [hlexemes]
    unfold Sql.readConflict
    simp only [readList_names]
    rfl
  | cons c cs =>
    have hlexemes : lexemes (conflictPieces keys (c :: cs)) = .word "ON" :: .word "CONFLICT" ::
        (lexemes (parenthesized (commaList (keys.map word))) ++
          .word "DO" :: .word "UPDATE" :: .word "SET" :: lexemes (commaList
            ((c :: cs).map fun c => equation c (word "excluded" ++ mark .dot ++ word c)))) := by
      simp [conflictPieces, words, List.intercalate]
    have htakeovers := readSeparated_takeovers (List.cons_ne_nil c cs)
    rw [hlexemes]
    unfold Sql.readConflict
    simp only [readList_names]
    unfold Sql.readUpdates
    simp only [htakeovers, Option.map_some]

/-- The text of an upsert pairs the columns with the placeholders in order; each updated column
takes over the new value of its own. -/
theorem ofText?_upsert (htable : IsIdentifier table) (h : ∀ c ∈ columns, IsIdentifier c)
    (hkeys : ∀ c ∈ keys, IsIdentifier c) (hupdated : ∀ c ∈ updated, IsIdentifier c) :
    Write.ofText? (upsert table columns keys updated).text =
      some (.upsert table (columns.zip (List.range' 1 columns.length)) keys
        (updated.map fun c => (c, c))) := by
  have happart := (standsApart_insert htable h).append_blank (standsApart_conflict hkeys hupdated)
  have hlexemes : lexemes (insertPieces table columns ++ blank ++ conflictPieces keys updated) =
      lexemes (insertPieces table columns) ++ lexemes (conflictPieces keys updated) := by simp
  obtain ⟨l, ls, hconflict⟩ : ∃ l ls, lexemes (conflictPieces keys updated) = l :: ls :=
    ⟨.word "ON", _, by simp [conflictPieces, words, List.intercalate]; rfl⟩
  have hread := readConflict_conflictPieces keys updated
  rw [hconflict] at hread
  rw [text, pieces, ofText?_spell happart, hlexemes, hconflict, Sql.readWrite, readInsert_append]
  simp only [hread, Option.map_some]

/-- The text of an update pairs the assigned columns and then the matched ones with the
placeholders in order. -/
theorem ofText?_update (htable : IsIdentifier table) (hassigned : ∀ c ∈ assigned, IsIdentifier c)
    (hkeys : ∀ c ∈ keys, IsIdentifier c) (hassigned_ne : assigned ≠ []) (hkeys_ne : keys ≠ []) :
    Write.ofText? (update table assigned keys).text =
      some (.update table (assigned.zip (List.range' 1 assigned.length))
        (keys.zip (List.range' (assigned.length + 1) keys.length))) := by
  have hmatched : Sql.readSeparated (.word "AND") Sql.readEquation
      (lexemes ((blank ++ word "AND" ++ blank).intercalate
        (equations (assigned.length + 1) keys)) ++ []) =
      some (keys.zip (List.range' (assigned.length + 1) keys.length), []) :=
    readSeparated_equations rfl _ hkeys_ne (by simp)
  rw [List.append_nil] at hmatched
  have hset : ∀ rest, Sql.readSeparated (.mark .comma) Sql.readEquation
      (lexemes ((mark .comma ++ blank).intercalate (equations 1 assigned)) ++
        .word "WHERE" :: rest) =
      some (assigned.zip (List.range' 1 assigned.length), .word "WHERE" :: rest) :=
    fun _ => readSeparated_equations rfl 1 hassigned_ne (by simp)
  have hlexemes : lexemes (updatePieces table assigned keys) =
      .word "UPDATE" :: .word table :: .word "SET" ::
        (lexemes ((mark .comma ++ blank).intercalate (equations 1 assigned)) ++
          .word "WHERE" :: lexemes ((blank ++ word "AND" ++ blank).intercalate
            (equations (assigned.length + 1) keys))) := by
    simp [updatePieces, words, List.intercalate, commaList]
  have hinsert : ∀ rest, Sql.readInsert (.word "UPDATE" :: rest) = none := fun _ => rfl
  rw [text, pieces, ofText?_spell (standsApart_update htable hassigned hkeys), hlexemes,
    Sql.readWrite, hinsert]
  unfold Sql.readUpdate
  simp only [hset, hmatched]

end Reading

end Command

end TypedSql
