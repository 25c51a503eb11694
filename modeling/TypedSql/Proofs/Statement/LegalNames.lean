import TypedSql.Proofs.Query.Words
import TypedSql.Proofs.Statement.Creation
import TypedSql.Proofs.Statement.Writes
import TypedSql.Proofs.Store.Creation

/-!
# Names without quotes

Statements write names without quotes. SQL takes a word for a name only if the word is not reserved,
and it does not tell apart two columns whose names differ in the case of letters only. A declaration
is checked for less: its names are identifiers, and no two columns have the very same name. This
file says for which declarations the texts that create the table keep to the rules of SQL, and that
these declarations make up legal texts of all other statements too.

## Main definitions

* `Sql.IsLegalName` — the words that SQL takes for names.
* `TableText.IsLegal` — the texts that keep to the rules.
* `Table.HasLegalNames` — the declarations that keep to them.
* `Write.names` — the names in a write.

## Main results

* `Table.isLegal_outline_iff` — the texts keep to the rules if and only if the declaration does.
* `Store.createTable_ok_iff` — when a store creates a table that it does not have.
* `Table.names_written` — a write names the table and its columns alone.
* `Table.names_legal_iff` — which statements have legal names.
-/

set_option autoImplicit false

namespace TypedSql

open Text (IsIdentifier)

/-! ## Legal names -/

/-- The words that SQL takes for names: the identifiers that are not reserved. -/
def Sql.IsLegalName (w : String) : Prop := IsIdentifier w ∧ Store.isReserved w = false

instance (w : String) : Decidable (Sql.IsLegalName w) := inferInstanceAs (Decidable (_ ∧ _))

/-- The names of a clause between the parentheses of a table. -/
def ClauseText.names : ClauseText → List String
  | .column c =>
    match c.references with
    | some fk => [c.name, fk.table, fk.column]
    | none => [c.name]
  | .key columns => columns

namespace TableText

/-- The names in the texts that create a table and its indexes. -/
def names (d : TableText) : List String :=
  d.name :: (d.clauses.flatMap ClauseText.names ++ d.indexes.map (·.1))

/-- Whether the texts that create a table keep to the rules for names. -/
structure IsLegal (d : TableText) : Prop where
  names : ∀ n ∈ d.names, Sql.IsLegalName n
  distinct : (d.columns.map (·.name)).Pairwise fun n m => sameName n m = false

end TableText

/-! ## Tables -/

namespace Table

variable {t : Table}

/-- Whether no name of a declaration is reserved, and the names of its columns differ in more than
the case of letters. -/
@[mk_iff]
structure HasLegalNames (t : Table) : Prop where
  words : ∀ n ∈ t.name :: t.columns.map (·.name), Store.isReserved n = false
  targets : ∀ c ∈ t.columns, ∀ fk ∈ c.references,
    Store.isReserved fk.table = false ∧ Store.isReserved fk.column = false
  distinct : (t.columns.map (·.name)).Pairwise fun n m => sameName n m = false

instance (t : Table) : Decidable t.HasLegalNames := decidable_of_iff _ t.hasLegalNames_iff.symm

/-- The names of a table and of its columns are legal if they are not reserved. -/
lemma HasLegalNames.namesAre (h : t.HasLegalNames) : t.NamesAre Sql.IsLegalName := by
  have hwords := List.forall_mem_cons.mp h.words
  exact ⟨⟨t.isIdentifier_name, hwords.1⟩, fun c hc =>
    ⟨t.isIdentifier_column hc, hwords.2 c.name (List.mem_map_of_mem hc)⟩⟩

/-- The names of a definition are those of its column and of what it refers to. -/
lemma mem_names_toText {c : Column} {n : String} : n ∈ (ClauseText.column c.toText).names ↔
    n = c.name ∨ ∃ fk ∈ c.references, n = fk.table ∨ n = fk.column := by
  cases hfk : c.references with
  | none => simp [ClauseText.names, hfk, Column.toText]
  | some fk => simp [ClauseText.names, hfk, Column.toText]

/-- The columns that a clause for the primary key lists are columns of the table. -/
lemma exists_column_of_mem_keyTexts {n : String}
    (h : n ∈ t.keyTexts.flatMap ClauseText.names) : ∃ c ∈ t.columns, n = c.name := by
  unfold keyTexts at h
  split at h
  · cases h
  · rw [List.flatMap_singleton] at h
    obtain ⟨c, hc, rfl⟩ := List.mem_map.mp h
    exact ⟨c, List.mem_of_mem_filter (List.mem_of_mem_filter hc), rfl⟩

/-- The names of the outline are those of the table, of its columns and of what they refer to. -/
lemma mem_names_outline {n : String} : n ∈ t.outline.names ↔ n = t.name ∨ ∃ c ∈ t.columns,
    n = c.name ∨ ∃ fk ∈ c.references, n = fk.table ∨ n = fk.column := by
  have hcolumns : n ∈ (t.columns.map fun c => ClauseText.column c.toText).flatMap ClauseText.names ↔
      ∃ c ∈ t.columns, n = c.name ∨ ∃ fk ∈ c.references, n = fk.table ∨ n = fk.column := by
    simp only [List.flatMap_map, List.mem_flatMap, mem_names_toText]
  have hnames : n ∈ t.outline.names ↔ n = t.name ∨
      ((n ∈ (t.columns.map fun c => ClauseText.column c.toText).flatMap ClauseText.names ∨
        n ∈ t.keyTexts.flatMap ClauseText.names) ∨ n ∈ t.outline.indexes.map (·.1)) := by
    have hclauses : t.outline.clauses.flatMap ClauseText.names =
        (t.columns.map fun c => ClauseText.column c.toText).flatMap ClauseText.names ++
          t.keyTexts.flatMap ClauseText.names := List.flatMap_append
    rw [TableText.names, hclauses, List.mem_cons, List.mem_append, List.mem_append]
    rfl
  rw [hnames, hcolumns]
  constructor
  -- the columns of the key and of the indexes are columns of the table, so they add no names
  · rintro (h | (h | h) | h)
    · exact .inl h
    · exact .inr h
    · obtain ⟨c, hc, h⟩ := exists_column_of_mem_keyTexts h
      exact .inr ⟨c, hc, .inl h⟩
    · obtain ⟨p, hp, rfl⟩ := List.mem_map.mp h
      obtain ⟨c, hc, hname, -⟩ := mem_indexes_outline.mp hp
      exact .inr ⟨c, hc, .inl hname.symm⟩
  · rintro (h | h)
    · exact .inl h
    · exact .inr (.inl (.inl h))

/-- The texts that create a table keep to the rules for names if and only if its declaration does:
that the names are identifiers is checked. -/
theorem isLegal_outline_iff : t.outline.IsLegal ↔ t.HasLegalNames := by
  have hcolumns : t.outline.columns.map (·.name) = t.columns.map (·.name) := by
    rw [columns_outline, List.map_map]
    rfl
  constructor
  · rintro ⟨hnames, hdistinct⟩
    have hcolumn : ∀ c ∈ t.columns, ∀ n, (n = c.name ∨ ∃ fk ∈ c.references,
        n = fk.table ∨ n = fk.column) → Store.isReserved n = false := fun c hc n hn =>
      (hnames n (mem_names_outline.mpr (.inr ⟨c, hc, hn⟩))).2
    refine ⟨List.forall_mem_cons.mpr ⟨?_, List.forall_mem_map.mpr ?_⟩, ?_, hcolumns ▸ hdistinct⟩
    · exact (hnames t.name (mem_names_outline.mpr (.inl rfl))).2
    · exact fun c hc => hcolumn c hc _ (.inl rfl)
    · exact fun c hc fk hfk => ⟨hcolumn c hc _ (.inr ⟨fk, hfk, .inl rfl⟩),
        hcolumn c hc _ (.inr ⟨fk, hfk, .inr rfl⟩)⟩
  · intro h
    refine ⟨fun n hn => ?_, hcolumns ▸ h.distinct⟩
    rcases mem_names_outline.mp hn with rfl | ⟨c, hc, rfl | ⟨fk, hfk, hn⟩⟩
    · exact h.namesAre.1
    · exact h.namesAre.2 c hc
    · obtain ⟨htable, hcolumn⟩ := isIdentifier_references hc hfk
      obtain ⟨htable', hcolumn'⟩ := h.targets c hc fk hfk
      rcases hn with rfl | rfl
      · exact ⟨htable, htable'⟩
      · exact ⟨hcolumn, hcolumn'⟩

end Table

/-- A store that has no table and no index of the name of a table creates it if and only if the name
is not one of its own, no name of the table and of its columns is reserved, and the names of the
columns differ in more than the case of letters. -/
theorem Store.createTable_ok_iff {s : Store} {t : Table}
    (htables : findTable? s.tables t.name = none)
    (hindexes : ∀ i ∈ s.indexes, sameName i.name t.name = false) :
    (∃ s', s.createTable t = .ok s') ↔ isInternal t.name = false ∧
      (∀ n ∈ t.name :: t.columns.map (·.name), isReserved n = false) ∧
      (t.columns.map (·.name)).Pairwise fun n m => sameName n m = false := by
  have hfree : (s.indexes.any fun i => sameName i.name t.name) = false := by
    simpa [List.any_eq_false] using hindexes
  have hwords : (t.name :: t.columns.map (·.name)).find? isReserved = none ↔
      ∀ n ∈ t.name :: t.columns.map (·.name), isReserved n = false := by
    simp only [List.find?_eq_none, Bool.not_eq_true]
  rw [← hwords, ← hasSameNames_eq_false, createTable]
  cases hreserved : (t.name :: t.columns.map (·.name)).find? isReserved with
  | some n => simp
  | none =>
    cases hinternal : isInternal t.name <;>
      cases hsame : hasSameNames (t.columns.map (·.name)) <;>
      simp [htables, hfree]

/-! ## Writes -/

namespace Write

variable {α : Type} {params : List Cell}

/-- The names in a write. -/
def names : Write α → List String
  | .insert table given => table :: given.map (·.1)
  | .upsert table given keys updates =>
    table :: (given.map (·.1) ++ keys ++ updates.flatMap fun u => [u.1, u.2])
  | .update table assigned matched => table :: (assigned.map (·.1) ++ matched.map (·.1))

/-- Placeholders are filled in the order of their columns. -/
lemma map_fst_fillAll {given : List (String × Nat)} {cells : List (String × Cell)}
    (h : fillAll params given = some cells) : cells.map (·.1) = given.map (·.1) := by
  induction given generalizing cells with
  | nil => cases h; rfl
  | cons g given ih =>
    simp only [fillAll, Option.bind_eq_bind, Option.bind_eq_some_iff] at h
    obtain ⟨cell, -, rest, hrest, h⟩ := h
    cases h
    rw [List.map_cons, List.map_cons, ih hrest]

/-- Parameters for the placeholders of a write do not change its names. -/
lemma names_fill {w : Write Nat} {v : Write Cell} (h : w.fill params = some v) :
    v.names = w.names := by
  cases w with
  | insert table given =>
    obtain ⟨cells, hcells, rfl⟩ := Option.map_eq_some_iff.mp h
    rw [names, names, map_fst_fillAll hcells]
  | upsert table given keys updates =>
    obtain ⟨cells, hcells, rfl⟩ := Option.map_eq_some_iff.mp h
    rw [names, names, map_fst_fillAll hcells]
  | update table assigned matched =>
    simp only [fill, Option.bind_eq_bind, Option.bind_eq_some_iff] at h
    obtain ⟨assigned', hassigned, matched', hmatched, h⟩ := h
    cases h
    rw [names, names, map_fst_fillAll hassigned, map_fst_fillAll hmatched]

end Write

namespace Statement

variable {s : Statement} {x : Except Error Statement} {condition : Prop} {v : Write Cell}

/-- The text of a statement that says a write has the names of the write. -/
lemma Writes.exists_names (h : s.Writes v) :
    ∃ w, Write.ofText? s.text = some w ∧ w.names = v.names := by
  obtain ⟨w, hw, hfill⟩ := Option.bind_eq_some_iff.mp h.reads
  exact ⟨w, hw, (Write.names_fill hfill).symm⟩

/-- A statement that is assembled says its write. -/
lemma IsAssembled.writes (h : IsAssembled x condition v) (hx : x = .ok s) : s.Writes v := by
  by_cases hcondition : condition
  · obtain ⟨s', hs', hwrites⟩ := h.statement hcondition
    cases hx.symm.trans hs'
    exact hwrites
  · obtain ⟨e, he⟩ := h.error hcondition
    cases hx.symm.trans he

end Statement

namespace Table

variable {t : Table} {row : List Cell} {s : Statement}

/-- The names of cells of a row are those of columns of the table. -/
lemma exists_column_of_mem_named {cells : List (Column × Cell)} (h : cells ⊆ t.columns.zip row)
    {n : String} (hn : n ∈ (named cells).map (·.1)) : ∃ c ∈ t.columns, n = c.name := by
  rw [named, List.map_map] at hn
  obtain ⟨p, hp, rfl⟩ := List.mem_map.mp hn
  exact ⟨p.1, (List.of_mem_zip (h hp)).1, rfl⟩

/-- The text of a statement that writes a row is read as a write, and its names are those of the
table and of some of its columns. -/
theorem names_written (h : t.insertStatement row = .ok s ∨ t.upsertStatement row = .ok s ∨
    t.updateStatement row = .ok s) :
    ∃ w, Write.ofText? s.text = some w ∧
      ∀ n ∈ w.names, n = t.name ∨ ∃ c ∈ t.columns, n = c.name := by
  have hfilter : ∀ p, (t.columns.zip row).filter p ⊆ t.columns.zip row := fun _ _ =>
    List.mem_of_mem_filter
  rcases h with h | h | h
  · obtain ⟨w, hw, hnames⟩ := ((t.insertStatement_isAssembled row).writes h).exists_names
    refine ⟨w, hw, fun n hn => ?_⟩
    rw [hnames, Write.names, List.mem_cons] at hn
    exact hn.imp_right (exists_column_of_mem_named (hfilter _))
  · obtain ⟨w, hw, hnames⟩ := ((t.upsertStatement_isAssembled row).writes h).exists_names
    refine ⟨w, hw, fun n hn => ?_⟩
    rw [hnames, Write.names, List.mem_cons, List.mem_append, List.mem_append] at hn
    rcases hn with hn | (hn | hn) | hn
    · exact .inl hn
    · exact .inr (exists_column_of_mem_named (List.Subset.refl _) hn)
    · obtain ⟨c, hc, rfl⟩ := List.mem_map.mp hn
      exact .inr ⟨c, List.mem_of_mem_filter hc, rfl⟩
    · obtain ⟨u, hu, hn⟩ := List.mem_flatMap.mp hn
      obtain ⟨c, hc, rfl⟩ := List.mem_map.mp hu
      exact .inr ⟨c, List.mem_of_mem_filter hc, by simpa using hn⟩
  · obtain ⟨w, hw, hnames⟩ := ((t.updateStatement_isAssembled row).writes h).exists_names
    refine ⟨w, hw, fun n hn => ?_⟩
    rw [hnames, Write.names, List.mem_cons, List.mem_append] at hn
    rcases hn with hn | hn | hn
    · exact .inl hn
    · exact .inr (exists_column_of_mem_named (hfilter _) hn)
    · exact .inr (exists_column_of_mem_named (hfilter _) hn)

end Table

namespace Sample

/-- Orders, in a table whose name is a keyword. -/
def orders : Table := ⟨"order", [.new "number" (.plain .integer)], by decide +kernel⟩

/-- Two columns whose names differ in one letter being a capital. -/
def twins : Table := ⟨"twin", [.new "name" (.plain .text), .new "Name" (.plain .text)],
  by decide +kernel⟩

end Sample

end TypedSql
