import TypedSql.Database
import TypedSql.Proofs.Statement.Writes

/-!
# Which insertions can be executed

An insertion leaves out the auto-increment key, so its lists of columns and of values are what
remains of the declaration. SQL has no empty lists: an insertion without columns has to ask for the
default values. This file shows for which declarations the text of an insertion is well formed. The
insertion at the front of an upsert names all columns, and a declaration has at least one.

## Main definitions

* `Sql.IsInsertion` — the grammar of the insertion of one row.
* `Sql.SaysInsertion`, `Sql.SaysUpsert` — texts that are such an insertion, or that start with one.

## Main results

* `Command.isInsertion_insertPieces` — an insertion is well formed if and only if it names a column.
* `Table.exists_given_iff` — the one layout that leaves no column to name.
* `Statement.insert_wellFormed_iff` — when the two statements are well formed.
-/

set_option autoImplicit false

namespace TypedSql

open Text (IsIdentifier)

namespace Sql

/-! ## The grammar -/

/-- Lexemes between parentheses, with a comma between each two. -/
def listed (ls : List Lexeme) : List Lexeme :=
  .mark .opening :: (ls.intersperse (.mark .comma) ++ [.mark .closing])

/-- The insertion of one row. -/
inductive IsInsertion : List Lexeme → Prop
  /-- Some columns, at least one, and as many values. -/
  | values (table : String) {columns : List String} {positions : List Nat} (hne : columns ≠ [])
    (hlength : positions.length = columns.length) :
    IsInsertion (.word "INSERT" :: .word "INTO" :: .word table ::
      (listed (columns.map .word) ++ .word "VALUES" :: listed (positions.map .placeholder)))
  /-- The default values of all columns. -/
  | defaults (table : String) : IsInsertion
    [.word "INSERT", .word "INTO", .word table, .word "DEFAULT", .word "VALUES"]

/-- Whether a text is an insertion. -/
def SaysInsertion (text : String) : Prop := ∃ ls, lex text.toList = some ls ∧ IsInsertion ls

/-- Whether a text is an insertion up to what it does if there is a conflict. -/
def SaysUpsert (text : String) : Prop :=
  ∃ ls rest, lex text.toList = some (ls ++ .word "ON" :: .word "CONFLICT" :: rest) ∧ IsInsertion ls

/-! ## Lists -/

/-- The lexemes of separated items of one lexeme each. -/
lemma lexemes_intercalate {α : Type} {between : List Piece} {separator : Lexeme}
    (hbetween : lexemes between = [separator]) {spelled : α → List Piece} {lexeme : α → Lexeme}
    (hspelled : ∀ a, lexemes (spelled a) = [lexeme a]) (as : List α) :
    lexemes (between.intercalate (as.map spelled)) = (as.map lexeme).intersperse separator := by
  induction as with
  | nil => rfl
  | cons a as ih =>
    cases as with
    | nil =>
      rw [List.map_singleton, List.intercalate_singleton, hspelled]
      rfl
    | cons b as =>
      rw [List.map_cons, List.map_cons, List.intercalate_cons_cons, ← List.map_cons,
        lexemes_append, lexemes_append, hspelled, hbetween, ih]
      rfl

/-- The lexemes of a list of items of one lexeme each. -/
lemma lexemes_parenthesized_commaList {α : Type} {spelled : α → List Piece}
    {lexeme : α → Lexeme} (hspelled : ∀ a, lexemes (spelled a) = [lexeme a]) (as : List α) :
    lexemes (parenthesized (commaList (as.map spelled))) = listed (as.map lexeme) := by
  rw [parenthesized, lexemes_append, lexemes_append, commaList, lexemes_intercalate rfl hspelled]
  rfl

end Sql

/-! ## The commands -/

open Sql (Lexeme IsInsertion SaysInsertion SaysUpsert commaList lexemes parenthesized word words)

namespace Command

variable {table : String} {columns keys updated : List String}

/-- The lexemes of an insertion: its columns, and as many placeholders. -/
lemma lexemes_insertPieces (table : String) (columns : List String) :
    lexemes (insertPieces table columns) = .word "INSERT" :: .word "INTO" :: .word table ::
      (Sql.listed (columns.map .word) ++
        .word "VALUES" :: Sql.listed ((List.range' 1 columns.length).map .placeholder)) := by
  have hcolumns : lexemes (parenthesized (commaList (columns.map word))) =
      Sql.listed (columns.map .word) :=
    Sql.lexemes_parenthesized_commaList (fun _ => rfl) columns
  have hvalues : lexemes (parenthesized (commaList (placeholders 1 columns.length))) =
      Sql.listed ((List.range' 1 columns.length).map .placeholder) := by
    rw [placeholders_eq]
    exact Sql.lexemes_parenthesized_commaList (fun _ => rfl) _
  rw [insertPieces]
  simp only [Sql.lexemes_append, hcolumns, hvalues]
  simp [words, List.intercalate]

/-- An insertion is well formed if and only if it names a column. -/
theorem isInsertion_insertPieces :
    IsInsertion (lexemes (insertPieces table columns)) ↔ columns ≠ [] := by
  rw [lexemes_insertPieces]
  constructor
  · intro h hnil
    generalize hls : Lexeme.word "INSERT" :: _ = ls at h
    rw [hnil] at hls
    cases h with
    | values other hne hlength =>
      rename_i names positions
      -- the parenthesis is closed where the first column has to stand
      obtain ⟨name, names, rfl⟩ := List.exists_cons_of_ne_nil hne
      cases names <;> simp [Sql.listed] at hls
    | defaults other => simp [Sql.listed] at hls
  · exact fun hne => .values table hne List.length_range'

/-- The text of an insertion is well formed if and only if it names a column. -/
lemma saysInsertion_insert (htable : IsIdentifier table) (h : ∀ c ∈ columns, IsIdentifier c) :
    SaysInsertion (insert table columns).text ↔ columns ≠ [] := by
  have hlex : Sql.lex (insert table columns).text.toList =
      some (lexemes (insertPieces table columns)) := (standsApart_insert htable h).lex_spell
  simp only [SaysInsertion, hlex, Option.some.injEq, exists_eq_left', isInsertion_insertPieces]

/-- The text of an upsert starts with a well formed insertion if it names a column. -/
lemma saysUpsert_upsert (htable : IsIdentifier table) (h : ∀ c ∈ columns, IsIdentifier c)
    (hkeys : ∀ c ∈ keys, IsIdentifier c) (hupdated : ∀ c ∈ updated, IsIdentifier c)
    (hne : columns ≠ []) : SaysUpsert (upsert table columns keys updated).text := by
  have happart := (standsApart_insert htable h).append_blank (standsApart_conflict hkeys hupdated)
  obtain ⟨rest, hrest⟩ : ∃ rest, lexemes (conflictPieces keys updated) =
      .word "ON" :: .word "CONFLICT" :: rest :=
    ⟨_, by simp [conflictPieces, words, List.intercalate]; rfl⟩
  refine ⟨lexemes (insertPieces table columns), rest, ?_, isInsertion_insertPieces.mpr hne⟩
  rw [text, pieces, happart.lex_spell, Sql.lexemes_append, Sql.lexemes_append, Sql.lexemes_blank,
    List.append_nil, hrest]

end Command

/-! ## The layouts of a table -/

namespace Table

variable {t : Table} {row : List Cell}

/-- A table has columns. -/
lemma columns_ne_nil (t : Table) : t.columns ≠ [] :=
  (Fault.ofDeclaration?_eq_none.mp t.accepted).2.1

/-- The database chooses the values of all columns if and only if the auto-increment key is the only
one. -/
theorem exists_given_iff (t : Table) : (∃ c ∈ t.columns, c.autoIncrement = false) ↔
    ¬ ∃ c, t.columns = [c] ∧ c.autoIncrement = true := by
  constructor
  · rintro ⟨c, hc, hgiven⟩ ⟨d, hd, hauto⟩
    rw [hd] at hc
    obtain rfl := List.mem_singleton.mp hc
    exact Bool.false_ne_true (hgiven.symm.trans hauto)
  · intro honly
    by_contra hnone
    have hauto : ∀ c ∈ t.columns, c.autoIncrement = true := by simpa using hnone
    obtain ⟨c, hc⟩ := List.exists_mem_of_ne_nil _ t.columns_ne_nil
    -- all columns are keys, and `c` is the only key
    have hkeys : t.keys = t.columns :=
      List.filter_eq_self.mpr fun d hd => (of_autoIncrement hd (hauto d hd)).1
    exact honly ⟨c, hkeys.symm.trans (keys_of_autoIncrement hc (hauto c hc)), hauto c hc⟩

/-- With a cell for each column, an insertion is assembled; it names the columns that are not
counted up. -/
lemma insertStatement_ok (h : row.length = t.columns.length) : ∃ params,
    t.insertStatement row =
      .ok ⟨.insert t.name ((t.columns.filter (!·.autoIncrement)).map (·.name)), params⟩ :=
  ⟨_, by rw [insertStatement, pairCells_of_length h, ← names_filter_zip h]; rfl⟩

/-- With a key and a cell for each column, an upsert is assembled; it names all columns. -/
lemma upsertStatement_ok (hkey : ∃ c ∈ t.columns, c.primaryKey)
    (h : row.length = t.columns.length) : ∃ params,
    t.upsertStatement row = .ok ⟨.upsert t.name (t.columns.map (·.name)) t.keyNames
      ((t.columns.filter (!·.primaryKey)).map (·.name)), params⟩ := by
  have hall : (t.columns.zip row).map (·.1.name) = t.columns.map (·.name) := by
    conv_rhs => rw [← List.map_fst_zip h.ge, List.map_map]
    rfl
  exact ⟨_, by
    rw [upsertStatement, requireKey_eq, if_pos hkey, pairCells_of_length h, ← hall,
      ← names_filter_zip h]
    rfl⟩

/-- The names of some columns of a table are identifiers. -/
lemma isIdentifier_filter (t : Table) (p : Column → Bool) :
    ∀ n ∈ (t.columns.filter p).map (·.name), IsIdentifier n :=
  List.forall_mem_map.mpr fun _ hc => t.isIdentifier_column (List.mem_filter.mp hc).1

end Table

/-- No store runs an insertion that names no column. -/
lemma Store.run_insert_nil (s : Store) (table : String) (params : List Cell) :
    ∃ e, s.run ⟨.insert table [], params⟩ = .error e := by
  cases hrun : s.run ⟨.insert table [], params⟩ with
  | error e => exact ⟨e, rfl⟩
  | ok result =>
    simp only [run, except_bind_ok] at hrun
    obtain ⟨⟨n, s'⟩, hinsert, -⟩ := hrun
    simp only [insert, except_bind_ok] at hinsert
    obtain ⟨t, -, -, -, row, hrow, -⟩ := hinsert
    cases hrow

namespace Statement

variable {r : Registry} {t : TableType} {row : List Cell}

/-- For a valid declaration and a row with a cell for each column, an insertion is assembled. Its
text is a well formed insertion unless the auto-increment key is the only column, and then no store
runs it. If there is a key, an upsert is assembled too, and its text always starts with a well
formed insertion.

*Proof sketch.* The text is read as its lexemes, and these are an insertion if and only if the list
of columns is not empty. The columns of an insertion are those that are not counted up; since an
auto-increment column is the only key, there are none exactly if it is the only column. An upsert
names all columns, of which a valid declaration has at least one. -/
theorem insert_wellFormed_iff (hr : r.IsReachable) (ht : t.IsValid)
    (hrow : row.length = t.columns.length) :
    (∃ s, (insert t row r).1 = .ok s ∧
      (SaysInsertion s.text ↔ ¬ ∃ c, t.columns = [c] ∧ c.autoIncrement = true) ∧
      (SaysInsertion s.text ∨ ∀ store : Store, ∃ e, store.run s = .error e)) ∧
    ((∃ c ∈ t.columns, c.primaryKey) →
      ∃ s, (upsert t row r).1 = .ok s ∧ SaysUpsert s.text) := by
  obtain ⟨table, r', hregister⟩ := Registry.register_of_isValid r ht
  obtain ⟨-, hcolumns⟩ :=
    TableType.table_ok_iff.mp (Registry.register_ok hr.isSound hregister).1
  rw [← hcolumns] at hrow ⊢
  constructor
  · obtain ⟨params, hs⟩ := Table.insertStatement_ok hrow
    have htext := Command.saysInsertion_insert table.isIdentifier_name
      (table.isIdentifier_filter (!·.autoIncrement))
    refine ⟨_, by rw [insert, run_bind_of_ok hregister, hs]; rfl, ?_, ?_⟩
    · rw [Statement.text, htext, ← Table.exists_given_iff]
      simp
    · rw [Statement.text, htext, or_iff_not_imp_left, not_not]
      intro hnil store
      rw [hnil]
      exact store.run_insert_nil table.name params
  · intro hkey
    obtain ⟨params, hs⟩ := Table.upsertStatement_ok hkey hrow
    refine ⟨_, by rw [upsert, run_bind_of_ok hregister, hs]; rfl, ?_⟩
    refine Command.saysUpsert_upsert table.isIdentifier_name ?_
      (table.isIdentifier_filter (·.primaryKey)) (table.isIdentifier_filter (!·.primaryKey)) ?_
    · exact List.forall_mem_map.mpr fun c hc => table.isIdentifier_column hc
    · simpa using table.columns_ne_nil

end Statement

namespace Sample

/-- The insertion and the upsert of a person are well formed. -/
theorem person_wellFormed : person.IsValid ∧
    (∃ s, (Statement.insert person [.int 1, .text "Ann", .null] {}).1 = .ok s ∧
      SaysInsertion s.text) ∧
    ∃ s, (Statement.upsert person [.int 1, .text "Ann", .null] {}).1 = .ok s ∧
      SaysUpsert s.text := by
  have hvalid : person.IsValid := persons.accepted
  have hrow : [Cell.int 1, .text "Ann", .null].length = person.columns.length := rfl
  obtain ⟨⟨s, hs, htext, -⟩, hupsert⟩ :=
    Statement.insert_wellFormed_iff (r := {}) ⟨[], rfl⟩ hvalid hrow
  refine ⟨hvalid, ⟨s, hs, htext.mpr ?_⟩, hupsert ⟨_, List.mem_cons_self, rfl⟩⟩
  rintro ⟨c, hc, -⟩
  cases hc

/-- Tickets, which are nothing but a number. -/
def ticket : TableType where
  label := "Ticket"
  name := "ticket"
  columns := [(Column.new "id" (.plain .integer)).asAutoKey]

/-- The table of the tickets. -/
def tickets : Table := ⟨ticket.name, ticket.columns, by decide +kernel⟩

/-- The insertion of a ticket is no well formed insertion, and a database with the table of the
tickets fails to run it. -/
theorem ticket_not_inserted : ticket.IsValid ∧
    (∃ s, (Statement.insert ticket [.int 0] {}).1 = .ok s ∧
      s.text = "INSERT INTO ticket () VALUES ()" ∧ ¬ SaysInsertion s.text) ∧
    (Database.insert ticket [.int 0] { store := { tables := [{ declared := tickets }] } }).1 =
      .error (.store .emptyList) := by
  have htext : SaysInsertion (Command.insert "ticket" []).text ↔ ([] : List String) ≠ [] :=
    Command.saysInsertion_insert (by decide) (by simp)
  exact ⟨tickets.accepted, ⟨_, rfl, rfl, fun h => htext.mp h rfl⟩, by decide +kernel⟩

end Sample

end TypedSql
