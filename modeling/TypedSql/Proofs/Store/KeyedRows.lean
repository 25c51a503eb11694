import TypedSql.Proofs.Store.Regular

/-!
# Rows that have a key

A write that is addressed by its key is meant for one row of a table: the one that has the cells of
the key. This file says which row this is, and how the store finds it: an update compares the key of
each row with the cells, an upsert with their stored form. The two agree on the rows of a regular
table, and they find the rows that have the key, as long as no cell of the key is stored as NULL.

## Main definitions

* `StoredRow.HasKeyOf` — a stored row has the key of a row.
* `AcceptedRow` — a row of cells that the columns accept.
* `CanReplace` — whether a row can take the place of the one with its key.

## Main results

* `StoredRow.matchesKey_iff` — which rows equal the cells of a key.
* `AcceptedRow.canReplace` — rows that can take the place of the one with their key.
* `StoredTable.IsRegular.value_eq_stored` — what a row with the key of another one has in its place.
* `StoredTable.IsRegular.clashes_iff` — which rows clash with the stored form of a key.
-/

set_option autoImplicit false

namespace TypedSql

/-! ## Rows with a key -/

/-- Whether two values are equal, or both NULL. -/
def Datum.Same (x y : Datum) : Prop := x.equals y = true ∨ x = .null ∧ y = .null

/-- Whether a stored row has the cells of a row in the columns of the key. -/
def StoredRow.HasKeyOf (columns : List Column) (row : List Cell) (r : StoredRow) : Prop :=
  ∀ p ∈ placed columns row, p.column.primaryKey = true → (r.value p.place).Same p.value

instance (x y : Datum) : Decidable (x.Same y) := inferInstanceAs (Decidable (_ ∨ _ ∧ _))

instance (columns : List Column) (row : List Cell) (r : StoredRow) :
    Decidable (r.HasKeyOf columns row) :=
  inferInstanceAs (Decidable (∀ p ∈ placed columns row, _ → (r.value p.place).Same p.value))

/-- Whether a row can take the place of the one with its key: no cell of the key is stored as NULL,
nor is a cell of another column that does not admit it. -/
structure CanReplace (columns : List Column) (row : List Cell) : Prop where
  key : ∀ p ∈ placed columns row, p.column.primaryKey = true → p.value ≠ .null
  complete : ∀ p ∈ placed columns row, p.value = .null → p.column.kind.isNullable = true

/-- Whether a row consists of cells that the columns accept. -/
structure AcceptedRow (columns : List Column) (row : List Cell) : Prop where
  length : row.length = columns.length
  accepts : ∀ p ∈ placed columns row, p.column.kind.accepts p.cell = true

section Keys

variable {columns : List Column} {row : List Cell}

/-- The cells of the key. -/
def keyCells (columns : List Column) (row : List Cell) : List Placed :=
  (placed columns row).filter (·.column.primaryKey)

/-- The cells of the columns outside the key. -/
def otherCells (columns : List Column) (row : List Cell) : List Placed :=
  (placed columns row).filter (!·.column.primaryKey)

/-- The cells of the key are those of its columns. -/
lemma mem_keyCells {p : Placed} :
    p ∈ keyCells columns row ↔ p ∈ placed columns row ∧ p.column.primaryKey = true :=
  List.mem_filter

/-- The other cells are those of columns outside the key. -/
lemma mem_otherCells {p : Placed} :
    p ∈ otherCells columns row ↔ p ∈ placed columns row ∧ p.column.primaryKey = false := by
  simp [otherCells]

/-- The cells of the key are cells of the row. -/
lemma keyCells_subset (columns : List Column) (row : List Cell) :
    keyCells columns row ⊆ placed columns row := List.filter_sublist.subset

/-- The other cells are cells of the row. -/
lemma otherCells_subset (columns : List Column) (row : List Cell) :
    otherCells columns row ⊆ placed columns row := List.filter_sublist.subset

/-- The columns of the key are those of its cells. -/
lemma Table.keys_eq {table : Table} (h : row.length = table.columns.length) :
    table.keys = (keyCells table.columns row).map (·.column) := by
  conv_lhs => rw [keys, ← map_column_placed h, List.filter_map]
  rfl

/-- Whether a stored row equals the cells of the key. -/
def StoredRow.matchesKey (columns : List Column) (row : List Cell) (r : StoredRow) : Bool :=
  (keyCells columns row).all fun p => (r.value p.place).equals p.value

/-- An update finds the rows that have the key, unless a cell of the key is NULL. -/
theorem StoredRow.matchesKey_iff {r : StoredRow} : r.matchesKey columns row = true ↔
    (∀ p ∈ placed columns row, p.column.primaryKey = true → p.value ≠ .null) ∧
      r.HasKeyOf columns row := by
  simp only [matchesKey, List.all_eq_true, mem_keyCells, and_imp]
  constructor
  · intro h
    refine ⟨fun p hp hkey hnull => ?_, fun p hp hkey => .inl (h p hp hkey)⟩
    have hequals := h p hp hkey
    rw [hnull, Datum.equals_null_right] at hequals
    cases hequals
  · rintro ⟨hvalues, hkeys⟩ p hp hkey
    exact (hkeys p hp hkey).resolve_right fun hnull => hvalues p hp hkey hnull.2

end Keys

/-! ## Rows of regular tables -/

/-- A cell that is not stored as NULL is of a type that the column admits. -/
lemma AcceptedRow.admitsType {columns : List Column} {row : List Cell}
    (h : AcceptedRow columns row) {p : Placed} (hp : p ∈ placed columns row)
    (hnull : p.value ≠ .null) : p.column.kind.scalar.admitsType p.cell.type = true := by
  have haccepts := h.accepts p hp
  rw [Kind.accepts, if_neg] at haccepts
  · exact haccepts
  · rw [Cell.isNull_iff]
    intro hcell
    exact hnull (by rw [Placed.value, hcell, Cell.toDatum])

/-- A row can replace the one with its key if the key is not nullable and all reals are numbers. -/
theorem AcceptedRow.canReplace {columns : List Column} {row : List Cell}
    (h : AcceptedRow columns row)
    (hkeys : ∀ c ∈ columns, c.primaryKey = true → c.kind.isNullable = false)
    (hnumbers : ∀ x, .real x ∈ row → x.isNaN = false) : CanReplace columns row := by
  have hcomplete : ∀ p ∈ placed columns row, p.value = .null → p.column.kind.isNullable = true := by
    intro p hp hnull
    rcases Datum.toDatum_eq_null.mp hnull with hcell | ⟨x, hcell, hnan⟩
    · rw [← Kind.accepts_null, ← hcell]
      exact h.accepts p hp
    · have hmem : .real x ∈ row := hcell ▸ List.mem_of_getElem? (mem_placed.mp hp).2
      rw [hnumbers x hmem] at hnan
      cases hnan
  refine ⟨fun p hp hkey hnull => ?_, hcomplete⟩
  have hnullable := hcomplete p hp hnull
  rw [hkeys p.column (List.mem_of_getElem? (mem_placed.mp hp).1) hkey] at hnullable
  cases hnullable

/-- No cell of an auto-increment column is stored as NULL. -/
lemma AcceptedRow.autoIncrement_eq_false {table : Table} {row : List Cell}
    (h : AcceptedRow table.columns row) {p : Placed} (hp : p ∈ placed table.columns row)
    (hnull : p.value = .null) : p.column.autoIncrement = false := by
  rw [Bool.eq_false_iff]
  intro hauto
  have hkind := table.kind_of_autoIncrement
    (List.mem_of_getElem? (mem_placed.mp hp).1) hauto
  have haccepts := h.accepts p hp
  rw [hkind] at haccepts
  rcases Datum.toDatum_eq_null.mp hnull with hcell | ⟨x, hcell, -⟩ <;>
    rw [hcell] at haccepts <;> cases haccepts

/-- The stored form of a row has no fault if it has NULL only in columns that admit it. -/
lemma AcceptedRow.nullFault?_eq_none_iff {t : StoredTable} {row : List Cell}
    (h : AcceptedRow t.declared.columns row) (n : Int) :
    t.nullFault? ⟨n, storedValues t.declared.columns row⟩ = none ↔
      ∀ p ∈ placed t.declared.columns row, p.value = .null → p.column.kind.isNullable = true := by
  rw [StoredTable.nullFault?_eq_none_iff h.length]
  refine forall₃_congr fun p hp hnull => ?_
  rw [h.autoIncrement_eq_false hp hnull]
  simp

namespace StoredTable.IsRegular

variable {t : StoredTable} {row : List Cell} {r s : StoredRow} {p : Placed}

/-- A value that equals a cell is its stored form. -/
lemma eq_stored_of_equals (ht : t.IsRegular) (hrow : AcceptedRow t.declared.columns row)
    (hr : r ∈ t.rows) (hp : p ∈ placed t.declared.columns row)
    (h : (r.value p.place).equals p.value = true) : r.value p.place = p.stored := by
  have hnull : p.value ≠ .null := fun hnull => by
    rw [hnull, Datum.equals_null_right] at h
    cases h
  have hkeeps := (ht.fits r hr).kept p.place p.column (mem_placed.mp hp).1
  exact (Scalar.store_eq_of_equals hkeeps (hrow.admitsType hp hnull) h).symm

/-- A row with the key of another one has its stored form in the columns of the key. -/
theorem value_eq_stored (ht : t.IsRegular) (hrow : AcceptedRow t.declared.columns row)
    (hr : r ∈ t.rows) (hkey : r.HasKeyOf t.declared.columns row)
    (hp : p ∈ keyCells t.declared.columns row) : r.value p.place = p.stored := by
  obtain ⟨hp, hprimary⟩ := mem_keyCells.mp hp
  rcases hkey p hp hprimary with hequals | ⟨hnull, hvalue⟩
  · exact ht.eq_stored_of_equals hrow hr hp hequals
  · rw [hnull, Placed.stored, Scalar.store_eq_null.mpr hvalue]

/-- If a row has the key of another one, then what equals the stored form of a cell of this key also
equals the cell. -/
lemma equals_stored_iff (ht : t.IsRegular) (hrow : AcceptedRow t.declared.columns row)
    (hs : s ∈ t.rows) (hkey : s.HasKeyOf t.declared.columns row) (hr : r ∈ t.rows)
    (hp : p ∈ keyCells t.declared.columns row) :
    (r.value p.place).equals p.stored = true ↔ (r.value p.place).equals p.value = true := by
  obtain ⟨hmem, hprimary⟩ := mem_keyCells.mp hp
  have hkeeps := (ht.fits r hr).kept p.place p.column (mem_placed.mp hmem).1
  rcases hkey p hmem hprimary with hequals | ⟨-, hvalue⟩
  · rw [ht.value_eq_stored hrow hs hkey hp] at hequals
    exact Datum.equals_congr_right hkeeps.isNaN p.keeps_stored.isNaN p.isNaN_value hequals
  · rw [Placed.stored, Scalar.store_eq_null.mpr hvalue, hvalue]

/-- If a row has the key of another one, then the rows that clash with the stored form of this key
are those that equal its cells. -/
theorem clashes_iff (ht : t.IsRegular) (hrow : AcceptedRow t.declared.columns row)
    (hs : s ∈ t.rows) (hkey : s.HasKeyOf t.declared.columns row) (hr : r ∈ t.rows) (n : Int) :
    r.clashes ((keyCells t.declared.columns row).map (·.place))
      ⟨n, storedValues t.declared.columns row⟩ = true ↔
      r.matchesKey t.declared.columns row = true := by
  simp only [StoredRow.clashes, StoredRow.matchesKey, List.all_map, List.all_eq_true,
    Function.comp_apply]
  refine forall₂_congr fun p hp => ?_
  rw [← ht.equals_stored_iff hrow hs hkey hr hp, StoredRow.value.eq_def ⟨n, _⟩,
    getElem?_storedValues (mem_keyCells.mp hp).1, Option.getD_some]

end StoredTable.IsRegular

end TypedSql
