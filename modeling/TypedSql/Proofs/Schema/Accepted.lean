import Mathlib.Tactic.SplitIfs
import Mathlib.Tactic.Tauto
import TypedSql.Schema.Registry

/-!
# What accepted declarations are like

A table carries the proof that its declaration has no fault. This file reads off what other
modules need of it: its names are identifiers, and no two columns share a name.

## Main definitions

* `TableType.IsValid` — the declaration has no fault.

## Main results

* `Table.isIdentifier_name`, `Table.isIdentifier_column` — names are identifiers.
* `Table.keys_of_autoIncrement` — an auto-increment column is the only key.
* `Table.column?_eq_some_iff` — a column is found if and only if it is there.
* `TableType.table_ok_iff` — a valid declaration gives the table with its name and columns.
-/

set_option autoImplicit false

namespace TypedSql

open Text (IsIdentifier)

namespace Fault

/-- What a column without a fault is like. -/
lemma ofColumn?_eq_none {earlier : List String} {c : Column} :
    ofColumn? earlier c = none ↔ IsIdentifier c.name ∧ c.kind.isWellFormed = true ∧
      c.name ∉ earlier ∧ ofAutoIncrement? c = none ∧ ofReference? c = none := by
  unfold ofColumn?
  split_ifs with hname hkind hnew <;> simp_all

/-- An auto-increment column without a fault is a key that holds integers. -/
lemma ofAutoIncrement?_eq_none {c : Column} :
    ofAutoIncrement? c = none ↔
      (c.autoIncrement = true → c.primaryKey = true ∧ c.kind = .plain .integer) := by
  unfold ofAutoIncrement?
  split_ifs with hauto hkey hkind <;> simp_all

/-- A column without a fault refers to identifiers, and cascades only if it refers to any. -/
lemma ofReference?_eq_none {c : Column} :
    ofReference? c = none ↔
      (∀ fk, c.references = some fk → IsIdentifier fk.table ∧ IsIdentifier fk.column) ∧
        (c.references = none → c.cascade = false) := by
  unfold ofReference?
  split
  · rename_i fk hfk
    simp [hfk]
  · rename_i hnone
    simp [hnone]

/-- Columns have no fault in order if and only if none has one of its own and no two share a
name. -/
lemma ofColumns?_eq_none {columns : List Column} :
    ∀ {earlier : List String}, ofColumns? earlier columns = none ↔
      (∀ c ∈ columns, ofColumn? earlier c = none) ∧ (columns.map (·.name)).Nodup := by
  induction columns with
  | nil => simp [ofColumns?]
  | cons c cs ih =>
    intro earlier
    -- that the later columns are new after `c` too is that none of them has its name
    have hlater : (∀ d ∈ cs, ofColumn? (earlier ++ [c.name]) d = none) ↔
        (∀ d ∈ cs, ofColumn? earlier d = none) ∧ c.name ∉ cs.map (·.name) := by
      simp only [ofColumn?_eq_none, List.mem_append, List.mem_singleton, List.mem_map]
      grind
    simp only [ofColumns?, Option.or_eq_none_iff, ih, hlater, List.forall_mem_cons,
      List.map_cons, List.nodup_cons]
    tauto

/-- Keys without a fault hold at most one auto-increment column, which then is the only key. -/
lemma ofKeys?_eq_none {columns : List Column} :
    ofKeys? columns = none ↔ columns.countP (·.autoIncrement) ≤ 1 ∧
      (columns.countP (·.autoIncrement) = 1 → columns.countP (·.primaryKey) ≤ 1) := by
  simp only [ofKeys?]
  split_ifs <;> simp only [false_iff, true_iff] <;> omega

/-- A declaration without a fault has an identifier for a name, and columns that have none in order
and no fault of their keys. -/
lemma ofDeclaration?_eq_none {name : String} {columns : List Column} :
    ofDeclaration? name columns = none ↔ IsIdentifier name ∧ columns ≠ [] ∧
      ofColumns? [] columns = none ∧ ofKeys? columns = none := by
  unfold ofDeclaration?
  split_ifs with hname hempty <;> simp_all

end Fault

namespace Table

/-- The parts of the check that a declaration has passed. -/
lemma faultless (t : Table) :
    IsIdentifier t.name ∧ (∀ c ∈ t.columns, Fault.ofColumn? [] c = none) ∧
      (t.columns.map (·.name)).Nodup ∧ Fault.ofKeys? t.columns = none := by
  have h := Fault.ofDeclaration?_eq_none.mp t.accepted
  have hcolumns := Fault.ofColumns?_eq_none.mp h.2.2.1
  exact ⟨h.1, hcolumns.1, hcolumns.2, h.2.2.2⟩

/-- The name of a table is an identifier. -/
theorem isIdentifier_name (t : Table) : IsIdentifier t.name := t.faultless.1

/-- The names of the columns are identifiers. -/
theorem isIdentifier_column (t : Table) {c : Column} (h : c ∈ t.columns) :
    IsIdentifier c.name :=
  (Fault.ofColumn?_eq_none.mp (t.faultless.2.1 c h)).1

/-- No two columns share a name. -/
lemma nodup_names (t : Table) : (t.columns.map (·.name)).Nodup :=
  t.faultless.2.2.1

section Columns

variable {t : Table} {c : Column}

/-- The kind of a column does not nest nullable layers. -/
lemma isWellFormed_kind (hc : c ∈ t.columns) : c.kind.isWellFormed = true :=
  (Fault.ofColumn?_eq_none.mp (t.faultless.2.1 c hc)).2.1

/-- An auto-increment column is a key that holds integers. -/
lemma of_autoIncrement (hc : c ∈ t.columns) (hauto : c.autoIncrement = true) :
    c.primaryKey = true ∧ c.kind = .plain .integer :=
  have h := t.faultless.2.1 c hc
  Fault.ofAutoIncrement?_eq_none.mp (Fault.ofColumn?_eq_none.mp h).2.2.2.1 hauto

/-- An auto-increment column holds integers. -/
lemma kind_of_autoIncrement (t : Table) {c : Column} (hc : c ∈ t.columns)
    (hauto : c.autoIncrement = true) : c.kind = .plain .integer :=
  (of_autoIncrement hc hauto).2

/-- A foreign key points to identifiers. -/
lemma isIdentifier_references (hc : c ∈ t.columns) {fk : ForeignKey}
    (hfk : c.references = some fk) : IsIdentifier fk.table ∧ IsIdentifier fk.column :=
  have h := t.faultless.2.1 c hc
  (Fault.ofReference?_eq_none.mp (Fault.ofColumn?_eq_none.mp h).2.2.2.2).1 fk hfk

/-- A column without a foreign key does not cascade. -/
lemma cascade_of_references (hc : c ∈ t.columns) (hnone : c.references = none) :
    c.cascade = false :=
  have h := t.faultless.2.1 c hc
  (Fault.ofReference?_eq_none.mp (Fault.ofColumn?_eq_none.mp h).2.2.2.2).2 hnone

/-- An auto-increment column is the only key. -/
theorem keys_of_autoIncrement (hc : c ∈ t.columns) (hauto : c.autoIncrement = true) :
    t.keys = [c] := by
  have hkey : c ∈ t.keys := List.mem_filter.mpr ⟨hc, (of_autoIncrement hc hauto).1⟩
  have hcount := Fault.ofKeys?_eq_none.mp t.faultless.2.2.2
  have hpos : 0 < t.columns.countP (·.autoIncrement) := List.countP_pos_iff.mpr ⟨c, hc, hauto⟩
  have hlength : t.keys.length ≤ 1 := by
    rw [Table.keys, ← List.countP_eq_length_filter]
    exact hcount.2 (by omega)
  obtain ⟨d, hd⟩ : ∃ d, t.keys = [d] :=
    List.length_eq_one_iff.mp (Nat.le_antisymm hlength (List.length_pos_of_mem hkey))
  rw [hd] at hkey ⊢
  rw [List.mem_singleton.mp hkey]

end Columns

/-- A column is found under a name if and only if it is there and has that name. -/
theorem column?_eq_some_iff {t : Table} {name : String} {c : Column} :
    t.column? name = some c ↔ c ∈ t.columns ∧ c.name = name := by
  refine ⟨fun h => ⟨List.mem_of_find?_eq_some h, name_of_column? h⟩, ?_⟩
  rintro ⟨hc, rfl⟩
  have distinct := t.nodup_names
  unfold column?
  generalize t.columns = columns at hc distinct ⊢
  induction columns with
  | nil => cases hc
  | cons d ds ih =>
    simp only [List.map_cons, List.nodup_cons, List.mem_map, not_exists, not_and] at distinct
    rcases List.mem_cons.mp hc with rfl | hc
    · simp
    · have hne : (d.name == c.name) = false := by
        simpa using fun h => distinct.1 c hc h.symm
      rw [List.find?_cons, hne]
      exact ih hc distinct.2

end Table

namespace TableType

/-- Whether the declaration has no fault. -/
def IsValid (t : TableType) : Prop := Fault.ofDeclaration? t.name t.columns = none

/-- A declaration gives the table with its name and columns, if it is valid. -/
theorem table_ok_iff {t : TableType} {table : Table} :
    t.table = .ok table ↔ table.name = t.name ∧ table.columns = t.columns :=
  Table.declare_eq_ok_iff

/-- A valid declaration gives a table. -/
lemma isValid_iff {t : TableType} : t.IsValid ↔ ∃ table, t.table = .ok table := by
  constructor
  · exact fun h => ⟨⟨t.name, t.columns, h⟩, table_ok_iff.mpr ⟨rfl, rfl⟩⟩
  · rintro ⟨table, h⟩
    obtain ⟨hname, hcolumns⟩ := table_ok_iff.mp h
    have := table.accepted
    rwa [hname, hcolumns] at this

end TableType

end TypedSql
