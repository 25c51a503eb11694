import TypedSql.Statement.Basic
import TypedSql.Proofs.Schema.Accepted
import TypedSql.Proofs.Sql.CreationText
import TypedSql.Proofs.Statement.WriteCommands

/-!
# The texts that create a table

The texts that create a table and its indexes say all that its declaration says, except for the
kinds that share a type: they are read back as the outline of the table, whatever the names are.

## Main definitions

* `Table.outline` — what the texts that create a table should say.
* `Table.IsRecovered` — what is read back agrees with the table.
* `Column.Agrees` — columns that differ in kinds of one type at most.

## Main results

* `Table.ofTexts?_creation` — the texts are read back as the outline.
* `Table.creation_isRecovered` — what is read back, and which tables share their texts.
-/

set_option autoImplicit false

namespace TypedSql

open Sql (Lexeme Piece ReadsAs StandsApart commaList lexemes mark parenthesized word words blank)
open Text (IsIdentifier)

/-! ## The outline of a table -/

/-- What the definition of a column should say. -/
def Column.toText (c : Column) : ColumnText where
  name := c.name
  type := c.kind.sqlType
  notNull := !c.autoIncrement && !c.kind.isNullable
  autoIncrement := c.autoIncrement
  references := c.references
  cascade := c.cascade

namespace Table

/-- The clauses for the keys that are listed, of which there is one at most. -/
def keyTexts (t : Table) : List ClauseText :=
  if (Command.listedKeys t).isEmpty then [] else [.key (Command.listedKeys t)]

/-- What the texts that create a table should say. -/
def outline (t : Table) : TableText where
  name := t.name
  clauses := t.columns.map (fun c => .column c.toText) ++ t.keyTexts
  indexes := t.columns.filterMap fun c => c.index.map (c.name, ·)

end Table

namespace Command

/-! ## The pieces stand apart -/

section StandsApart

variable {t : Table} {c : Column}

/-- The SQL type of a kind is one word. -/
lemma isIdentifier_sqlType (k : Kind) : IsIdentifier k.sqlType := by
  have hscalar : ∀ s : Scalar, IsIdentifier s.sqlType := fun s => by cases s <;> decide
  exact hscalar k.scalar

/-- The name of an index is an identifier. -/
lemma isIdentifier_indexName {table column : String} (htable : IsIdentifier table)
    (hcolumn : IsIdentifier column) (index : Index) :
    IsIdentifier (indexName table column index) := by
  have hjoined := (htable.append (t := "_") (by decide)).append hcolumn.all_isNameChar
  cases index
  · exact hjoined.append (t := "_index") (by decide)
  · exact hjoined.append (t := "_unique") (by decide)

/-- The words of a reference can be told apart, and from what stands before it. -/
lemma standsApart_referencePieces
    (h : ∀ fk, c.references = some fk → IsIdentifier fk.table ∧ IsIdentifier fk.column) :
    StandsApart (referencePieces c) ∧ Sql.Delimited (Sql.chars (referencePieces c)) := by
  unfold referencePieces
  split
  · exact ⟨fun _ _ => trivial, by simp [Sql.Delimited]⟩
  · rename_i fk hfk
    obtain ⟨htable, hcolumn⟩ := h fk hfk
    have hwords : ∀ w ∈ ["REFERENCES", fk.table], IsIdentifier w := by
      simpa using ⟨by decide, htable⟩
    have htarget : StandsApart (blank ++ words ["REFERENCES", fk.table] ++
        parenthesized (word fk.column)) := by
      rw [List.append_assoc]
      exact (StandsApart.words_parenthesized hwords (.word hcolumn)).blank_append
    have hcascade : StandsApart (words ["ON", "DELETE", "CASCADE"]) := .words (by decide)
    constructor
    · split
      · simpa only [List.append_assoc] using htarget.append_blank hcascade
      · rwa [List.append_nil]
    · simpa only [List.append_assoc] using Sql.delimited_blank _

/-- The words of a column's declaration can be told apart. -/
lemma standsApart_columnPieces (hc : c ∈ t.columns) : StandsApart (columnPieces c) := by
  have hname : ∀ w ∈ [c.name, c.kind.sqlType], IsIdentifier w := by
    simpa using ⟨t.isIdentifier_column hc, isIdentifier_sqlType c.kind⟩
  obtain ⟨hreference, hdelimited⟩ := standsApart_referencePieces
    fun fk hfk => Table.isIdentifier_references hc hfk
  have hkey : StandsApart (words ["PRIMARY", "KEY", "AUTOINCREMENT"]) := .words (by decide)
  have hnotNull : StandsApart (words ["NOT", "NULL"]) := .words (by decide)
  refine StandsApart.append ?_ hreference hdelimited
  split
  · simpa only [List.append_assoc] using (StandsApart.words hname).append_blank hkey
  · split
    · rw [List.append_nil]
      exact .words hname
    · simpa only [List.append_assoc] using (StandsApart.words hname).append_blank hnotNull

/-- The words of the statement that creates a table can be told apart. -/
lemma standsApart_createTablePieces (t : Table) : StandsApart (createTablePieces t) := by
  have hwords : ∀ w ∈ ["CREATE", "TABLE", "IF", "NOT", "EXISTS", t.name], IsIdentifier w := by
    simp only [List.forall_mem_cons, List.not_mem_nil, false_imp_iff, implies_true, and_true]
    exact ⟨by decide, by decide, by decide, by decide, by decide, t.isIdentifier_name⟩
  have hclauses : ∀ ps ∈ t.columns.map columnPieces ++ keyClauses t, StandsApart ps := by
    rw [List.forall_mem_append, List.forall_mem_map]
    refine ⟨fun c hc => standsApart_columnPieces hc, fun ps hps => ?_⟩
    simp only [keyClauses] at hps
    split at hps
    · cases hps
    · obtain rfl := List.mem_singleton.mp hps
      have hkey : StandsApart (words ["PRIMARY", "KEY"]) := .words (by decide)
      refine hkey.append_blank (standsApart_names fun name hname => ?_)
      obtain ⟨c, hc, rfl⟩ := List.mem_map.mp hname
      exact t.isIdentifier_column (List.mem_of_mem_filter (List.mem_of_mem_filter hc))
  have hopened := ((StandsApart.words hwords).append_blank (.mark .opening)).append_gap
    .indentedLine (.intercalate (StandsApart.append_comma_gap .indentedLine) hclauses)
  exact hopened.append_gap .line (.mark .closing)

/-- The words of the statement that creates an index can be told apart. -/
lemma standsApart_createIndexPieces {table column : String} (htable : IsIdentifier table)
    (hcolumn : IsIdentifier column) (index : Index) :
    StandsApart (createIndexPieces table column index) := by
  refine StandsApart.words_parenthesized ?_ (.word hcolumn)
  have hname := isIdentifier_indexName htable hcolumn index
  simp only [List.forall_mem_append, List.forall_mem_cons, List.not_mem_nil, false_imp_iff,
    implies_true, and_true]
  refine ⟨⟨by decide, ?_⟩, by decide, by decide, by decide, by decide, hname, by decide, htable⟩
  split <;> decide

end StandsApart

/-! ## The pieces are read back -/

section Reading

/-- Whether a text ends, or goes on with a mark. -/
def StartsWithMark (rest : List Lexeme) : Prop := ∀ l ∈ rest.head?, ∃ m, l = .mark m

variable {rest : List Lexeme}

/-- Nothing more is said of a column in front of a mark. -/
lemma StartsWithMark.read (h : StartsWithMark rest) :
    Sql.readConstraint rest = ((false, false), rest) ∧ Sql.readCascade rest = (false, rest) ∧
      Sql.readReference rest = ((none, false), rest) := by
  cases rest with
  | nil => exact ⟨rfl, rfl, rfl⟩
  | cons l rest =>
    obtain ⟨m, rfl⟩ := h l rfl
    exact ⟨rfl, rfl, rfl⟩

/-- A reference is read back, and nothing is read where there is none. -/
lemma readReference_referencePieces {c : Column} (hc : c.references = none → c.cascade = false)
    (hrest : StartsWithMark rest) :
    Sql.readReference (lexemes (referencePieces c) ++ rest) =
      ((c.references, c.cascade), rest) := by
  unfold referencePieces
  split
  · rename_i hnone
    rw [hnone, hc hnone]
    exact hrest.read.2.2
  · rename_i fk hfk
    rw [hfk]
    cases c.cascade with
    | false =>
      have hcascade := hrest.read.2.1
      simp [words, List.intercalate, parenthesized, Sql.readReference, hcascade]
    | true => simp [words, List.intercalate, parenthesized, Sql.readReference, Sql.readCascade]

/-- What a column excludes is read back in front of a reference. -/
lemma readConstraint_referencePieces {c : Column} (hrest : StartsWithMark rest) :
    Sql.readConstraint (lexemes (referencePieces c) ++ rest) =
      ((false, false), lexemes (referencePieces c) ++ rest) := by
  unfold referencePieces
  split
  · exact hrest.read.1
  · simp [words, List.intercalate, parenthesized, Sql.readConstraint]

/-- The definition of a column is read back. -/
lemma readsAs_columnPieces {t : Table} {c : Column} (hc : c ∈ t.columns) :
    ReadsAs Sql.readClause StartsWithMark (columnPieces c) (.column c.toText) := by
  intro rest hrest
  have htype : c.kind.sqlType ≠ "KEY" := by
    have hscalar : ∀ s : Scalar, s.sqlType ≠ "KEY" := fun s => by cases s <;> decide
    exact hscalar c.kind.scalar
  have hreference := readReference_referencePieces (fun h => Table.cascade_of_references hc h) hrest
  have hnothing := readConstraint_referencePieces (c := c) hrest
  have hconstraint : Sql.readConstraint (lexemes
      (if c.autoIncrement then blank ++ words ["PRIMARY", "KEY", "AUTOINCREMENT"]
        else if c.kind.isNullable then [] else blank ++ words ["NOT", "NULL"]) ++
      (lexemes (referencePieces c) ++ rest)) =
      ((!c.autoIncrement && !c.kind.isNullable, c.autoIncrement),
        lexemes (referencePieces c) ++ rest) := by
    cases c.autoIncrement with
    | true => rfl
    | false =>
      cases c.kind.isNullable with
      | true => exact hnothing
      | false => rfl
  have hlexemes : lexemes (columnPieces c) ++ rest = .word c.name :: .word c.kind.sqlType ::
      (lexemes (if c.autoIncrement then blank ++ words ["PRIMARY", "KEY", "AUTOINCREMENT"]
        else if c.kind.isNullable then [] else blank ++ words ["NOT", "NULL"]) ++
      (lexemes (referencePieces c) ++ rest)) := by
    simp [columnPieces, words, List.intercalate]
  rw [hlexemes, Sql.readClause, if_neg fun h => htype h.2, hconstraint]
  simp only [hreference]
  rfl

/-- The clause for the key is read back. -/
lemma readsAs_keyClauses (t : Table) :
    List.Forall₂ (ReadsAs Sql.readClause StartsWithMark) (keyClauses t) t.keyTexts := by
  simp only [keyClauses, Table.keyTexts]
  split
  · exact .nil
  · refine .cons (fun rest _ => ?_) .nil
    have hlexemes : lexemes (words ["PRIMARY", "KEY"] ++ blank ++
        parenthesized (commaList ((listedKeys t).map word))) ++ rest =
        .word "PRIMARY" :: .word "KEY" ::
          (lexemes (parenthesized (commaList ((listedKeys t).map word))) ++ rest) := by
      simp [words, List.intercalate]
    rw [hlexemes, Sql.readClause, if_pos ⟨rfl, rfl⟩, readList_names]
    rfl

/-- The text that creates a table is read back. -/
lemma readTable_createTablePieces (t : Table) :
    Sql.readTable (lexemes (createTablePieces t)) = some (t.name, t.outline.clauses) := by
  have hcolumns : List.Forall₂ (ReadsAs Sql.readClause StartsWithMark)
      (t.columns.map columnPieces) (t.columns.map fun c => .column c.toText) := by
    rw [List.forall₂_map_left_iff, List.forall₂_map_right_iff, List.forall₂_same]
    exact fun c hc => readsAs_columnPieces hc
  have hcomma : lexemes (mark .comma ++ [.gap .indentedLine]) = [.mark .comma] := rfl
  have hclauses := Sql.readList_of_forall₂ hcomma
    (fun m rest l hl => ⟨m, (Option.some.inj hl).symm⟩) (fun _ => rfl)
    (List.rel_append hcolumns (readsAs_keyClauses t)) []
  have hlexemes : lexemes (createTablePieces t) = .word "CREATE" :: .word "TABLE" :: .word "IF" ::
      .word "NOT" :: .word "EXISTS" :: .word t.name :: .mark .opening ::
      (lexemes (List.intercalate (mark .comma ++ [.gap .indentedLine])
        (t.columns.map columnPieces ++ keyClauses t)) ++ [.mark .closing]) := by
    simp [createTablePieces, words, List.intercalate]
  rw [hlexemes]
  unfold Sql.readTable
  simp only [hclauses]
  rfl

/-- The text that creates an index is read back. -/
lemma readIndex_createIndexPieces (table column : String) (index : Index) :
    Sql.readIndex table (lexemes (createIndexPieces table column index)) =
      some (column, index) := by
  cases index <;>
    simp [createIndexPieces, words, List.intercalate, parenthesized, Sql.readIndex, Sql.readIndexed]

end Reading

end Command

namespace Table

variable {t u : Table} {c : Column}

/-! ## The texts of a table -/

/-- Where a function gives a value at each member of a list, it gives the list of the values. -/
lemma mapM_map_eq_some {α β γ : Type} {f : β → Option γ} {g : α → β} {v : α → γ} {xs : List α}
    (h : ∀ x ∈ xs, f (g x) = some (v x)) : (xs.map g).mapM f = some (xs.map v) := by
  induction xs with
  | nil => rfl
  | cons x xs ih =>
    obtain ⟨hx, hxs⟩ := List.forall_mem_cons.mp h
    rw [List.map_cons, List.mapM_cons, hx, ih hxs]
    rfl

/-- There is one statement for each index of the outline. -/
lemma indexCreation_eq (t : Table) :
    t.indexCreation = t.outline.indexes.map fun p => .createIndex t.name p.1 p.2 := by
  rw [indexCreation, outline, List.map_filterMap]
  congr 1
  funext c
  simp [indexCommand?, Function.comp_def]

/-- The columns with an index are those that the outline lists. -/
lemma mem_indexes_outline {p : String × Index} :
    p ∈ t.outline.indexes ↔ ∃ c ∈ t.columns, c.name = p.1 ∧ c.index = some p.2 := by
  obtain ⟨name, index⟩ := p
  simp only [outline, List.mem_filterMap, Option.map_eq_some_iff, Prod.mk.injEq]
  constructor
  · rintro ⟨c, hc, k, hk, rfl, rfl⟩
    exact ⟨c, hc, rfl, hk⟩
  · rintro ⟨c, hc, rfl, hk⟩
    exact ⟨c, hc, index, hk, rfl, rfl⟩

/-- The outline has the indexes of the columns. -/
lemma mem_indexes (hc : c ∈ t.columns) {k : Index} :
    (c.name, k) ∈ t.outline.indexes ↔ c.index = some k := by
  rw [mem_indexes_outline]
  constructor
  · rintro ⟨d, hd, hname, hk⟩
    cases (column?_eq_some_iff.mpr ⟨hd, hname⟩).symm.trans (column?_eq_some_iff.mpr ⟨hc, rfl⟩)
    exact hk
  · exact fun hk => ⟨c, hc, rfl, hk⟩

/-- The texts that create a table and its indexes are read back as its outline. -/
theorem ofTexts?_creation (t : Table) :
    TableText.ofTexts? (t.creation.map Command.text) = some t.outline := by
  have htable : (Sql.lex (Command.createTable t).text.toList).bind Sql.readTable =
      some (t.name, t.outline.clauses) := by
    rw [Command.text, Command.pieces, (Command.standsApart_createTablePieces t).lex_spell,
      Option.bind_some, Command.readTable_createTablePieces]
  have hindex : ∀ p ∈ t.outline.indexes,
      (Sql.lex (Command.createIndex t.name p.1 p.2).text.toList).bind (Sql.readIndex t.name) =
        some p := by
    intro p hp
    obtain ⟨c, hc, hname, -⟩ := mem_indexes_outline.mp hp
    have happart := Command.standsApart_createIndexPieces t.isIdentifier_name
      (t.isIdentifier_column hc) p.2
    rw [hname] at happart
    rw [Command.text, Command.pieces, happart.lex_spell, Option.bind_some,
      Command.readIndex_createIndexPieces]
  have hindexes : (t.indexCreation.map Command.text).mapM
      (fun text => (Sql.lex text.toList).bind (Sql.readIndex t.name)) =
      some t.outline.indexes := by
    rw [indexCreation_eq, List.map_map]
    exact (mapM_map_eq_some hindex).trans (congrArg some (List.map_id _))
  rw [creation, List.map_cons, TableText.ofTexts?, htable]
  simp only [Option.bind_eq_bind, Option.bind_some, hindexes]
  rfl

/-! ## What is read back -/

/-- The columns that are read back are those of the table. -/
lemma columns_outline (t : Table) : t.outline.columns = t.columns.map Column.toText := by
  have hkeys : t.keyTexts.filterMap ClauseText.column? = [] := by
    unfold keyTexts
    split <;> rfl
  rw [TableText.columns, outline, List.filterMap_append, hkeys, List.append_nil,
    List.filterMap_map]
  exact congrFun List.filterMap_eq_map t.columns

/-- The keys that are read back in a clause of their own are those that are listed. -/
lemma keyClauses_outline (t : Table) :
    t.outline.keyClauses =
      if (Command.listedKeys t).isEmpty then [] else [Command.listedKeys t] := by
  have hcolumns : (t.columns.map fun c => ClauseText.column c.toText).filterMap ClauseText.key? =
      [] := by
    rw [List.filterMap_eq_nil_iff]
    simp [ClauseText.key?]
  rw [TableText.keyClauses, outline, List.filterMap_append, hcolumns, List.nil_append, keyTexts]
  split <;> rfl

/-- The columns that are read back as keys where they are defined are those that are counted up. -/
lemma inlineKeys_outline (t : Table) :
    t.outline.inlineKeys = (t.keys.filter (·.autoIncrement)).map (·.name) := by
  have hkeys : t.keys.filter (·.autoIncrement) = t.columns.filter (·.autoIncrement) := by
    rw [keys, List.filter_filter]
    refine List.filter_congr fun c hc => ?_
    cases hauto : c.autoIncrement with
    | false => rfl
    | true => rw [(of_autoIncrement hc hauto).1]; rfl
  rw [TableText.inlineKeys, columns_outline, List.filter_map, List.map_map, hkeys]
  rfl

/-- The keys that are read back are those of the table, in the order of declaration. -/
lemma keys_outline (t : Table) : t.outline.keys = t.keyNames := by
  have hlisted : t.outline.keyClauses.flatten = Command.listedKeys t := by
    rw [keyClauses_outline]
    split
    · rename_i hempty
      rw [List.isEmpty_iff.mp hempty]
      rfl
    · simp
  rw [TableText.keys, hlisted, inlineKeys_outline, Command.listedKeys, ← List.map_append, keyNames]
  congr 1
  by_cases hauto : ∃ c ∈ t.keys, c.autoIncrement = true
  · obtain ⟨c, hc, hauto⟩ := hauto
    rw [keys_of_autoIncrement (List.mem_of_mem_filter hc) hauto]
    simp [hauto]
  · have hnone : ∀ c ∈ t.keys, c.autoIncrement = false := by simpa using hauto
    rw [List.filter_eq_nil_iff.mpr (by simpa using hnone), List.nil_append,
      List.filter_eq_self.mpr (by simpa using hnone)]

/-- The key consists of the columns that belong to it. -/
lemma mem_keyNames (hc : c ∈ t.columns) : c.name ∈ t.keyNames ↔ c.primaryKey = true := by
  constructor
  · intro hname
    obtain ⟨d, hd, hdc⟩ := List.mem_map.mp hname
    obtain ⟨hd, hkey⟩ := List.mem_filter.mp hd
    cases (column?_eq_some_iff.mpr ⟨hd, hdc⟩).symm.trans (column?_eq_some_iff.mpr ⟨hc, rfl⟩)
    exact hkey
  · exact fun hkey => List.mem_map_of_mem (List.mem_filter.mpr ⟨hc, hkey⟩)

/-- No key is named twice. -/
lemma nodup_keyNames (t : Table) : t.keyNames.Nodup :=
  t.nodup_names.sublist ((List.filter_sublist (l := t.columns)).map _)

/-- What is read back from the texts that create a table says what its declaration says. -/
structure IsRecovered (t : Table) (d : TableText) : Prop where
  name : d.name = t.name
  /-- The columns stand in the order of declaration. -/
  columns : d.columns = t.columns.map Column.toText
  /-- The keys stand in the order of declaration. -/
  keys : d.keys = t.keyNames
  /-- The indexes stand in the order of their columns. -/
  indexes : d.indexes = t.columns.filterMap fun c => c.index.map (c.name, ·)
  /-- Every key is declared once, and nothing else is declared a key. -/
  once : ∀ c ∈ t.columns, d.keys.count c.name = if c.primaryKey then 1 else 0
  /-- A key that is counted up is declared where its column is defined. -/
  inline : ∀ c ∈ t.columns, c.primaryKey = true → c.autoIncrement = true →
    c.name ∈ d.inlineKeys ∧ d.clauses = d.columns.map .column
  /-- The other keys are declared in one clause after the columns. -/
  listed : ∀ c ∈ t.columns, c.primaryKey = true → c.autoIncrement = false →
    ∃ columns, c.name ∈ columns ∧ d.clauses = d.columns.map .column ++ [.key columns]
  /-- Only columns that take NULL, and the key that is counted up, do not exclude it. -/
  notNull : ∀ c ∈ t.columns, c.toText.notNull = false →
    c.kind.isNullable = true ∨ c.primaryKey = true ∧ c.autoIncrement = true

/-- A table has the outline that is made of it. -/
lemma isRecovered_outline (t : Table) : t.IsRecovered t.outline where
  name := rfl
  columns := t.columns_outline
  keys := t.keys_outline
  indexes := rfl
  once c hc := by
    rw [keys_outline, t.nodup_keyNames.count]
    exact if_congr (mem_keyNames hc) rfl rfl
  inline c hc hkey hauto := by
    have hkeys := keys_of_autoIncrement hc hauto
    constructor
    · rw [inlineKeys_outline, hkeys]
      simp [hauto]
    · have hlisted : t.keyTexts = [] := by simp [keyTexts, Command.listedKeys, hkeys, hauto]
      rw [columns_outline, List.map_map, outline, hlisted, List.append_nil]
      rfl
  listed c hc hkey hauto := by
    have hlisted : c.name ∈ Command.listedKeys t :=
      List.mem_map_of_mem (List.mem_filter.mpr ⟨List.mem_filter.mpr ⟨hc, hkey⟩, by simp [hauto]⟩)
    refine ⟨Command.listedKeys t, hlisted, ?_⟩
    rw [columns_outline, List.map_map, outline, keyTexts,
      if_neg fun h => List.ne_nil_of_mem hlisted (List.isEmpty_iff.mp h)]
    rfl
  notNull c hc hnull := by
    simp only [Column.toText, Bool.and_eq_false_iff, Bool.not_eq_false'] at hnull
    rcases hnull with hauto | hnullable
    · exact .inr ⟨(of_autoIncrement hc hauto).1, hauto⟩
    · exact .inl hnullable

end Table

/-! ## Tables with the same texts -/

/-- Whether two columns are the same up to kinds of one type, which both take NULL or both do not.
-/
structure Column.Agrees (c d : Column) : Prop where
  eq : d = { c with kind := d.kind }
  sqlType : c.kind.sqlType = d.kind.sqlType
  isNullable : c.kind.isNullable = d.kind.isNullable

namespace Table

variable {t u : Table} {c d : Column}

/-- Columns that are said to be the same, in tables with the same outline, are the same up to their
kinds. -/
lemma agrees_of_toText (houtline : t.outline = u.outline) (hc : c ∈ t.columns)
    (hd : d ∈ u.columns) (htext : c.toText = d.toText) : c.Agrees d := by
  have hname : c.name = d.name := congrArg ColumnText.name htext
  have hkey : c.primaryKey = d.primaryKey := by
    have hkeys : t.keyNames = u.keyNames := by rw [← keys_outline, houtline, keys_outline]
    rw [Bool.eq_iff_iff, ← mem_keyNames hc, ← mem_keyNames hd, hname, hkeys]
  have hindex : c.index = d.index := by
    ext k
    rw [← mem_indexes hc, ← mem_indexes hd, hname, houtline]
  have hnull : c.kind.isNullable = d.kind.isNullable := by
    have hauto : c.autoIncrement = d.autoIncrement := congrArg ColumnText.autoIncrement htext
    cases hcauto : c.autoIncrement with
    | true => rw [(of_autoIncrement hc hcauto).2, (of_autoIncrement hd (hauto ▸ hcauto)).2]
    | false => simpa [Column.toText, ← hauto, hcauto] using congrArg ColumnText.notNull htext
  refine ⟨?_, congrArg ColumnText.type htext, hnull⟩
  obtain ⟨name, kind, primaryKey, autoIncrement, references, cascade, index⟩ := c
  obtain ⟨name', kind', primaryKey', autoIncrement', references', cascade', index'⟩ := d
  obtain ⟨rfl, -, -, rfl, rfl, rfl⟩ := ColumnText.mk.inj htext
  cases hkey
  cases hindex
  rfl

/-- The texts that create a table and its indexes are read back as what its declaration says; and
tables with the same texts have the same name, and the same columns up to kinds of one type.

Proof sketch. The pieces of the texts stand apart, so that their lexemes are read; these are read as
the outline of the table, clause by clause. Columns of one outline agree in what their definitions
say, and they are keys or indexed if their names are listed as such, since names are distinct. -/
theorem creation_isRecovered (t : Table) :
    (∃ d, TableText.ofTexts? (t.creation.map Command.text) = some d ∧ t.IsRecovered d) ∧
      ∀ u : Table, u.creation.map Command.text = t.creation.map Command.text →
        t.name = u.name ∧ List.Forall₂ Column.Agrees t.columns u.columns := by
  refine ⟨⟨t.outline, t.ofTexts?_creation, t.isRecovered_outline⟩, fun u htexts => ?_⟩
  have houtline : t.outline = u.outline := by
    rw [← Option.some.injEq, ← ofTexts?_creation, ← ofTexts?_creation, htexts]
  have hcolumns : t.columns.map Column.toText = u.columns.map Column.toText := by
    rw [← columns_outline, ← columns_outline, houtline]
  refine ⟨congrArg TableText.name houtline, List.forall₂_iff_get.mpr ⟨?_, fun i hi hi' => ?_⟩⟩
  · simpa using congrArg List.length hcolumns
  · refine agrees_of_toText houtline (List.get_mem _ _) (List.get_mem _ _) ?_
    simpa [hi, hi'] using congrArg (·[i]?) hcolumns

end Table

namespace Sample

/-- A table whose names are those of keywords, with a key of the given kind. -/
def keywords (key : Scalar) : Table where
  name := "TABLE"
  columns := [(Column.new "PRIMARY" (.plain key)).asKey,
    ((Column.new "REFERENCES" (.optional .text)).referring "NOT" "NULL").cascading.indexed .unique]
  accepted := by cases key <;> decide +kernel

/-- Keys of two kinds that share a type give the same texts, which are read back. -/
theorem keywords_recovered :
    (∃ d, TableText.ofTexts? ((keywords .integer).creation.map Command.text) = some d ∧
      d.keys = ["PRIMARY"] ∧ d.indexes = [("REFERENCES", .unique)]) ∧
    (keywords .boolean).creation.map Command.text = (keywords .integer).creation.map Command.text ∧
      List.Forall₂ Column.Agrees (keywords .integer).columns (keywords .boolean).columns := by
  obtain ⟨⟨d, hd, hrecovered⟩, hsame⟩ := (keywords .integer).creation_isRecovered
  have htexts : (keywords .boolean).creation.map Command.text =
      (keywords .integer).creation.map Command.text := rfl
  exact ⟨⟨d, hd, hrecovered.keys, hrecovered.indexes⟩, htexts, (hsame _ htexts).2⟩

end Sample

end TypedSql
