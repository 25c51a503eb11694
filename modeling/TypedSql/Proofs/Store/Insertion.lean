import TypedSql.Proofs.Statement.Replacement
import TypedSql.Proofs.Store.Paths

/-!
# What an insertion stores

An insertion gives every column but the auto-increment key its cell. This file says which values the
new row has: the stored forms of the cells, but where the column has the row numbers and there is no
value for it, because it is the auto-increment key or its cell is NULL; there the number of the row
is put.

## Main definitions

* `Table.Numbers` — the column that has the row numbers.
* `Table.inserted` — the value that an insertion gives a column.
* `StoredTable.IsInserted` — a stored row that the insertion of a row of cells makes.

## Main results

* `StoredTable.values_newRow` — the values of a new row.
* `Database.insert_ok` — what an insertion that succeeds has stored.
-/

set_option autoImplicit false

namespace TypedSql

/-! ## The values of a new row -/

/-- Whether a column of a table has the row numbers: it is the key, and holds integers. -/
def Table.Numbers (t : Table) (c : Column) : Prop :=
  t.keys = [c] ∧ c.kind.sqlType = "INTEGER"

instance (t : Table) (c : Column) : Decidable (t.Numbers c) :=
  inferInstanceAs (Decidable (_ ∧ _))

/-- The value that the insertion of a cell gives a column, in a row of a given number. -/
def Table.inserted (t : Table) (n : Int) (c : Column) (x : Cell) : Datum :=
  if t.Numbers c ∧ (c.autoIncrement = true ∨ x.toDatum = .null) then .int n
  else c.kind.scalar.store x.toDatum

/-- An auto-increment key has the row numbers. -/
lemma Table.numbers_of_autoIncrement {t : Table} {c : Column} (hc : c ∈ t.columns)
    (hauto : c.autoIncrement = true) : t.Numbers c :=
  ⟨Table.keys_of_autoIncrement hc hauto, by rw [t.kind_of_autoIncrement hc hauto]; rfl⟩

/-- The cells of a row that an insertion gives to the store. -/
def givenCells (columns : List Column) (row : List Cell) : List Placed :=
  (placed columns row).filter (!·.column.autoIncrement)

/-- The value that an insertion gives to the store: the database chooses the auto-increment key. -/
def Placed.given (p : Placed) : Datum := if p.column.autoIncrement = true then .null else p.stored

section Given

variable {columns : List Column} {row : List Cell} {p : Placed}

/-- The cells that are given are those of columns that the database does not count up. -/
lemma mem_givenCells :
    p ∈ givenCells columns row ↔ p ∈ placed columns row ∧ p.column.autoIncrement = false := by
  simp [givenCells]

/-- The cells that are given are cells of the row. -/
lemma givenCells_subset (columns : List Column) (row : List Cell) :
    givenCells columns row ⊆ placed columns row := List.filter_sublist.subset

/-- Values that are known at the place of each cell. -/
lemma eq_zipWith_of_placed (hlength : row.length = columns.length) {values : List Datum}
    (hwidth : values.length = columns.length) {f : Column → Cell → Datum}
    (h : ∀ p ∈ placed columns row, values[p.place]? = some (f p.column p.cell)) :
    values = List.zipWith f columns row := by
  refine List.ext_getElem? fun i => ?_
  rw [List.getElem?_zipWith]
  cases hc : columns[i]? with
  | none => rw [List.getElem?_eq_none (hwidth.trans_le (List.getElem?_eq_none_iff.mp hc))]
  | some c =>
    obtain ⟨x, hp⟩ := exists_placed hlength hc
    have hx : row[i]? = some x := (mem_placed.mp hp).2
    rw [h _ hp, hx]

/-- An insertion puts the row number where there is no value in the column for it. -/
lemma Table.inserted_eq {t : Table} (hp : p ∈ placed t.columns row) (n : Int) :
    t.inserted n p.column p.cell =
      if t.Numbers p.column ∧ p.given = .null then .int n else p.given := by
  cases hauto : p.column.autoIncrement with
  | true =>
    have hnumbers := numbers_of_autoIncrement (List.mem_of_getElem? (mem_placed.mp hp).1) hauto
    simp [inserted, Placed.given, hauto, hnumbers]
  | false =>
    simp [inserted, Placed.given, hauto, Placed.stored, Placed.value, Scalar.store_eq_null]

end Given

namespace StoredTable

variable {t : StoredTable} {row : List Cell} {r : StoredRow}

/-- The value of a column that is given, or left out, for a new row. -/
lemma getElem?_givenValues {p : Placed} (hp : p ∈ placed t.declared.columns row) :
    (t.rowValues ((givenCells t.declared.columns row).map (·.place))
      ((givenCells t.declared.columns row).map (·.value)))[p.place]? = some p.given := by
  cases hauto : p.column.autoIncrement with
  | false =>
    rw [getElem?_rowValues (givenCells_subset _ _) (mem_givenCells.mpr ⟨hp, hauto⟩), Placed.given,
      hauto]
    rfl
  | true =>
    have hlookup : (((givenCells t.declared.columns row).map (·.place)).zip
        ((givenCells t.declared.columns row).map (·.value))).lookup p.place = none := by
      rw [List.zip_map', List.lookup_eq_none_iff]
      intro q hq
      obtain ⟨q, hgiven, rfl⟩ := List.mem_map.mp hq
      obtain ⟨hq, hplain⟩ := mem_givenCells.mp hgiven
      rw [bne_iff_ne]
      intro hplace
      rw [eq_of_mem_placed hp hq hplace, hplain] at hauto
      cases hauto
    rw [rowValues, List.getElem?_mapIdx, (mem_placed.mp hp).1, Option.map_some, hlookup,
      Placed.given, if_pos hauto]

section Distinct

variable (hdistinct : Store.hasSameNames (t.declared.columns.map (·.name)) = false)
include hdistinct

/-- A column stands at one place. -/
lemma place_unique {i j : Nat} {c : Column} (hi : t.declared.columns[i]? = some c)
    (hj : t.declared.columns[j]? = some c) : i = j :=
  Option.some.inj ((place?_eq hdistinct hi).symm.trans (place?_eq hdistinct hj))

/-- The place of the row numbers is that of the column that has them. -/
lemma numberPlace?_eq_some_iff {i : Nat} {c : Column} (hc : t.declared.columns[i]? = some c) :
    t.numberPlace? = some i ↔ t.declared.Numbers c := by
  unfold numberPlace? Table.Numbers
  split
  · rename_i d hkeys
    obtain ⟨hd, -⟩ := List.mem_filter.mp (hkeys ▸ List.mem_singleton_self d)
    obtain ⟨j, hj⟩ := List.mem_iff_getElem?.mp hd
    rw [hkeys, List.cons.injEq, and_iff_left rfl, place?_eq hdistinct hj]
    constructor
    · intro h
      split at h
      · obtain rfl := Option.some.inj h
        exact ⟨Option.some.inj (hj.symm.trans hc), Option.some.inj (hj.symm.trans hc) ▸ ‹_›⟩
      · cases h
    · rintro ⟨rfl, hinteger⟩
      rw [if_pos hinteger, place_unique hdistinct hj hc]
  · rename_i hkeys
    exact iff_of_false nofun fun h => hkeys c h.1

/-- A new row has the stored forms of the given cells; the column with the row numbers, if it has no
value, has the number of the row.

Proof sketch. Either no column has the row numbers, or the value in its place decides. In every
other place the cell is given, as an auto-increment key has the row numbers. -/
theorem values_newRow (hlength : row.length = t.declared.columns.length)
    (h : t.newRow ((givenCells t.declared.columns row).map (·.place))
      ((givenCells t.declared.columns row).map (·.value)) = .ok r) :
    r.values = List.zipWith (t.declared.inserted r.number) t.declared.columns row := by
  have hgiven {p : Placed} (hp : p ∈ placed t.declared.columns row) := getElem?_givenValues hp
  have hnumbers {p : Placed} (hp : p ∈ placed t.declared.columns row) :
      t.numberPlace? = some p.place ↔ t.declared.Numbers p.column :=
    numberPlace?_eq_some_iff hdistinct (mem_placed.mp hp).1
  have hwidth := @length_rowValues t ((givenCells t.declared.columns row).map (·.place))
    ((givenCells t.declared.columns row).map (·.value))
  unfold newRow at h
  generalize t.rowValues _ _ = values at h hgiven hwidth
  dsimp only at h
  -- where the number of the row is not put, a row keeps the values
  have hkept {n : Int} (hnull : ∀ p ∈ placed t.declared.columns row,
      t.declared.Numbers p.column → p.given ≠ .null) :
      values = List.zipWith (t.declared.inserted n) t.declared.columns row := by
    refine eq_zipWith_of_placed hlength hwidth fun p hp => ?_
    rw [hgiven hp, Table.inserted_eq hp, if_neg fun h => hnull p hp h.1 h.2]
  split at h
  · rename_i hnone
    obtain ⟨n, -, h⟩ := except_bind_ok.mp h
    rw [← except_pure_ok.mp h]
    refine hkept fun p hp hnumber => ?_
    rw [← hnumbers hp, hnone] at hnumber
    cases hnumber
  · rename_i i hsome
    split at h
    · rename_i n hvalue
      rw [← except_pure_ok.mp h]
      refine hkept fun p hp hnumber hnull => ?_
      rw [← hnumbers hp, hsome] at hnumber
      rw [Option.some.inj hnumber, hgiven hp, hnull] at hvalue
      cases hvalue
    · rename_i hvalue
      obtain ⟨n, -, h⟩ := except_bind_ok.mp h
      rw [← except_pure_ok.mp h]
      refine eq_zipWith_of_placed hlength (by rw [List.length_set, hwidth]) fun p hp => ?_
      rw [Table.inserted_eq hp]
      by_cases hplace : i = p.place
      · have hnull : p.given = .null := by
          rwa [hplace, hgiven hp, Option.getD_some] at hvalue
        have hlt : p.place < values.length := (List.getElem?_eq_some_iff.mp (hgiven hp)).1
        rw [hplace, List.getElem?_set_self hlt,
          if_pos ⟨(hnumbers hp).mp (hplace ▸ hsome), hnull⟩]
      · have hother : ¬ t.declared.Numbers p.column := fun hnumber =>
          hplace (Option.some.inj (hsome.symm.trans ((hnumbers hp).mpr hnumber)))
        rw [List.getElem?_set_ne hplace, hgiven hp, if_neg fun h => hother h.1]
    · cases h

end Distinct

/-- Whether a stored row is what the insertion of a row of cells into a table makes of it. -/
structure IsInserted (t : StoredTable) (row : List Cell) (r : StoredRow) : Prop where
  length : row.length = t.declared.columns.length
  values : r.values = List.zipWith (t.declared.inserted r.number) t.declared.columns row
  complete : t.nullFault? r = none

end StoredTable

/-! ## Insertions -/

namespace Store

variable {s s' : Store} {name : String} {t : StoredTable}

/-- An insertion of given cells that succeeds adds the row that it makes of them. -/
lemma insert_given (htable : s.table name = .ok t)
    (hdistinct : hasSameNames (t.declared.columns.map (·.name)) = false) {row : List Cell}
    (hlength : row.length = t.declared.columns.length) {n : Int}
    (h : s.insert name ((givenCells t.declared.columns row).map (·.column.name))
      ((givenCells t.declared.columns row).map (·.value)) = .ok (n, s')) :
    ∃ r, r.number = n ∧ t.IsInserted row r ∧ s' = s.put (t.insertRow r) := by
  obtain ⟨u, r, hu, hmake, rfl, hchecked⟩ := insert_ok h
  cases htable.symm.trans hu
  obtain ⟨places, hplaces, hrow, hnull⟩ := makeRow_ok hmake
  have hgiven : ∀ p ∈ givenCells t.declared.columns row,
      t.declared.columns[p.place]? = some p.column := fun p hp =>
    (mem_placed.mp (givenCells_subset _ _ hp)).1
  cases hplaces.symm.trans (StoredTable.places_eq hdistinct hgiven)
  exact ⟨r, rfl, ⟨hlength, StoredTable.values_newRow hdistinct hlength hrow, hnull⟩,
    eq_of_checked hchecked⟩

end Store

/-- An insertion lists the cells that are given. -/
lemma Table.insertStatement_placed (table : Table) {row : List Cell}
    (hlength : row.length = table.columns.length) :
    table.insertStatement row = .ok
      ⟨.insert table.name ((givenCells table.columns row).map (·.column.name)),
        (givenCells table.columns row).map (·.cell)⟩ := by
  rw [insertStatement, pairCells_of_length hlength]
  simp only [bind, Except.bind, pure, Except.pure,
    map_filter_zip table.columns (!·.autoIncrement)]
  rfl

namespace Database

/-- A use of the registry that succeeds. -/
lemma withRegistry_ok {α : Type} {x : Registering α} {db db' : Database} {a : α}
    (h : withRegistry x db = (.ok a, db')) :
    ∃ r, x db.registry = (.ok a, r) ∧ db' = ⟨r, db.store⟩ := by
  obtain ⟨hresult, rfl⟩ := Prod.mk.inj h
  exact ⟨_, Prod.ext (except_mapError_ok.mp hresult) rfl, rfl⟩

/-- An insertion that succeeds adds the row that it makes of the cells.

Proof sketch. From a sound registry the statement is that of the table of the type, which lists the
given cells, and the store finds their columns at their places. -/
theorem insert_ok {db db' : Database} (hdb : db.IsSound) {t : TableType} {table : StoredTable}
    (hstored : db.store.table t.name = .ok table) (hdeclared : t.table = .ok table.declared)
    {row : List Cell} {n : Int} (h : insert t row db = (.ok n, db')) :
    ∃ r, r.number = n ∧ table.IsInserted row r ∧ db'.store = db.store.put (table.insertRow r) := by
  obtain ⟨statement, db₁, hassembled, h⟩ := run_bind_ok.mp h
  obtain ⟨o, db₂, hexecute, h⟩ := run_bind_ok.mp h
  -- the statement is that of the stored table
  obtain ⟨registry, hstatement, rfl⟩ := withRegistry_ok hassembled
  obtain ⟨u, registry', hregister, hstatement⟩ := run_bind_ok.mp hstatement
  obtain ⟨hstatement, -⟩ := run_lift_ok.mp hstatement
  cases (Registry.register_ok hdb.registry hregister).1.symm.trans hdeclared
  have hlength : row.length = table.declared.columns.length := by
    obtain ⟨cells, hcells, -⟩ := except_bind_ok.mp hstatement
    unfold Table.pairCells at hcells
    split at hcells
    · assumption
    · cases hcells
  cases hstatement.symm.trans (table.declared.insertStatement_placed hlength)
  -- the store runs it
  have hrun := execute_ok_iff.mp ⟨db₂.registry, hexecute⟩
  obtain ⟨⟨m, s⟩, hinsert, heq⟩ := except_bind_ok.mp hrun
  cases heq
  obtain ⟨hm, rfl⟩ := run_pure_ok.mp h
  rw [List.map_map, (TableType.table_ok_iff.mp hdeclared).1] at hinsert
  have hdistinct := hdb.store table (Store.mem_of_table hstored)
  obtain ⟨r, hr, hinserted, hs⟩ := Store.insert_given hstored hdistinct hlength hinsert
  exact ⟨r, hr.trans hm, hinserted, hs⟩

end Database

end TypedSql
