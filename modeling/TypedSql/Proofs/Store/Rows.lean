import TypedSql.Proofs.Store.Creation
import TypedSql.Proofs.Store.StoredForm

/-!
# Cells at their places

A statement names columns, and a store finds the places of their values in a row. This file follows
the cells of a row from the names of their columns to their places: where the cells of some columns
come to stand, in a new row and in one that they are assigned to.

## Main definitions

* `Placed` — a cell with its column and its place; `placed` — the cells of a row.
* `storedValues` — the values of a row in stored form.

## Main results

* `StoredTable.places_eq` — columns are found at their places.
* `StoredTable.rowValues_placed`, `StoredTable.assign_placed` — the values of a new row, and of one
  that is assigned to.
* `StoredTable.nullFault?_eq_none_iff` — where a new row may not be NULL.
-/

set_option autoImplicit false

namespace TypedSql

/-! ## Cells with their columns and places -/

/-- A cell of a row, with its column and its place. -/
structure Placed where
  column : Column
  place : Nat
  cell : Cell

namespace Placed

/-- The value of the cell. -/
def value (p : Placed) : Datum := p.cell.toDatum

/-- The form in which the column keeps the value. -/
def stored (p : Placed) : Datum := p.column.kind.scalar.store p.value

/-- No stored value is NaN. -/
lemma isNaN_value (p : Placed) : p.value.isNaN = false := Datum.isNaN_toDatum p.cell

/-- The stored form of a value is kept as it is. -/
lemma keeps_stored (p : Placed) : p.column.kind.scalar.Keeps p.stored :=
  Scalar.keeps_store p.isNaN_value

end Placed

/-- The cells of a row, each with its column and its place. -/
def placed (columns : List Column) (row : List Cell) : List Placed :=
  (columns.zip row).zipIdx.map fun ((c, x), i) => ⟨c, i, x⟩

/-- The values of a row in the form in which the columns keep them. -/
def storedValues (columns : List Column) (row : List Cell) : List Datum :=
  (placed columns row).map (·.stored)

section Placed

variable {columns : List Column} {row : List Cell} {p q : Placed}

/-- A cell is placed if its column and the cell itself are at the place. -/
lemma mem_placed : p ∈ placed columns row ↔
    columns[p.place]? = some p.column ∧ row[p.place]? = some p.cell := by
  obtain ⟨c, i, x⟩ := p
  rw [← List.getElem?_zip_eq_some (z := (c, x)), ← List.mem_zipIdx_iff_getElem? (x := ((c, x), i)),
    placed, List.mem_map]
  constructor
  · rintro ⟨q, hq, heq⟩
    obtain ⟨rfl, rfl, rfl⟩ := Placed.mk.inj heq
    exact hq
  · exact fun h => ⟨_, h, rfl⟩

/-- There is one cell at a place. -/
lemma eq_of_mem_placed (hp : p ∈ placed columns row) (hq : q ∈ placed columns row)
    (h : p.place = q.place) : p = q := by
  obtain ⟨c, i, x⟩ := p
  obtain ⟨d, j, y⟩ := q
  obtain rfl : i = j := h
  obtain ⟨hc, hx⟩ := mem_placed.mp hp
  obtain ⟨hd, hy⟩ := mem_placed.mp hq
  obtain rfl := Option.some.inj (hc.symm.trans hd)
  obtain rfl := Option.some.inj (hx.symm.trans hy)
  rfl

/-- The placed cells are the cells with their columns. -/
lemma map_placed :
    (placed columns row).map (fun p => (p.column, p.cell)) = columns.zip row := by
  rw [placed, List.map_map]
  exact List.zipIdx_map_fst 0 _

/-- Each column has a placed cell. -/
lemma map_column_placed (h : row.length = columns.length) :
    (placed columns row).map (·.column) = columns := by
  have hcolumns := congrArg (List.map Prod.fst) (@map_placed columns row)
  rwa [List.map_map, List.map_fst_zip h.ge] at hcolumns

/-- The cells of the columns that pass a test, with their columns. -/
lemma map_filter_placed (test : Column → Bool) :
    ((placed columns row).filter fun p => test p.column).map (fun p => (p.column, p.cell)) =
      (columns.zip row).filter fun (c, _) => test c := by
  rw [← map_placed, List.filter_map]
  rfl

/-- A placed cell is at its place. -/
lemma getElem?_placed (hp : p ∈ placed columns row) : (placed columns row)[p.place]? = some p := by
  have hzip := List.getElem?_zip_eq_some (z := (p.column, p.cell)) |>.mpr (mem_placed.mp hp)
  rw [placed, List.getElem?_map, List.getElem?_zipIdx, hzip, Nat.zero_add]
  rfl

/-- The stored value of a cell is at its place. -/
lemma getElem?_storedValues (hp : p ∈ placed columns row) :
    (storedValues columns row)[p.place]? = some p.stored := by
  rw [storedValues, List.getElem?_map, getElem?_placed hp, Option.map_some]

/-- Each column has a stored value. -/
lemma length_storedValues (h : row.length = columns.length) :
    (storedValues columns row).length = columns.length := by
  simp [storedValues, placed, h]

/-- The columns with the stored values of a row. -/
lemma zip_storedValues (h : row.length = columns.length) :
    columns.zip (storedValues columns row) =
      (placed columns row).map fun p => (p.column, p.stored) := by
  conv_lhs => lhs; rw [← map_column_placed h]
  exact List.zip_map'

/-- At each place of a row that has a cell for each column there is one. -/
lemma exists_placed (h : row.length = columns.length) {i : Nat} {c : Column}
    (hc : columns[i]? = some c) : ∃ x, Placed.mk c i x ∈ placed columns row := by
  obtain ⟨hi, -⟩ := List.getElem?_eq_some_iff.mp hc
  exact ⟨row[i], mem_placed.mpr ⟨hc, List.getElem?_eq_getElem (h ▸ hi)⟩⟩

end Placed

/-! ## Stored tables -/

/-- What comes first in a list of pairs is all there is, if all pairs of one key are equal. -/
lemma lookup_eq_some_of_mem {α : Type} {l : List (Nat × α)} {i : Nat} {a : α} (h : (i, a) ∈ l)
    (hone : ∀ b, (i, b) ∈ l → b = a) : l.lookup i = some a := by
  induction l with
  | nil => cases h
  | cons p l ih =>
    obtain ⟨j, b⟩ := p
    by_cases hij : i = j
    · subst hij
      rw [List.lookup_cons_self, hone b List.mem_cons_self]
    · have hne : ¬ (i, a) = (j, b) := fun heq => hij (congrArg Prod.fst heq)
      rw [List.lookup_cons, beq_false_of_ne hij]
      exact ih ((List.mem_cons.mp h).resolve_left hne)
        fun b hb => hone b (List.mem_cons_of_mem _ hb)

namespace StoredTable

variable {t : StoredTable} {row : List Cell}

/-- A column is found at its place, if no other one has the same name. -/
lemma place?_eq (hdistinct : Store.hasSameNames (t.declared.columns.map (·.name)) = false)
    {i : Nat} {c : Column} (hc : t.declared.columns[i]? = some c) : t.place? c.name = some i := by
  have hapart := List.pairwise_iff_getElem.mp
    (List.pairwise_map.mp (Store.hasSameNames_eq_false.mp hdistinct))
  obtain ⟨hi, rfl⟩ := List.getElem?_eq_some_iff.mp hc
  refine List.findIdx?_eq_some_iff_getElem.mpr ⟨hi, sameName_self _, fun j hji => ?_⟩
  rw [hapart j i (hji.trans hi) hi hji]
  exact Bool.false_ne_true

/-- Columns are found at their places. -/
theorem places_eq (hdistinct : Store.hasSameNames (t.declared.columns.map (·.name)) = false)
    {ps : List Placed} (hps : ∀ p ∈ ps, t.declared.columns[p.place]? = some p.column) :
    t.places (ps.map (·.column.name)) = .ok (ps.map (·.place)) := by
  induction ps with
  | nil => rfl
  | cons p ps ih =>
    obtain ⟨hp, hps⟩ := List.forall_mem_cons.mp hps
    have hrest := ih hps
    unfold places at hrest ⊢
    rw [List.map_cons, List.mapM_cons, place?_eq hdistinct hp, hrest]
    rfl

section Values

variable {ps : List Placed} {f : Placed → Datum}

/-- A column at one of the places gets the value that is given for it. -/
lemma getElem?_rowValues (hsub : ps ⊆ placed t.declared.columns row) {p : Placed} (hp : p ∈ ps) :
    (t.rowValues (ps.map (·.place)) (ps.map f))[p.place]? =
      some (p.column.kind.scalar.store (f p)) := by
  have hlookup : ((ps.map (·.place)).zip (ps.map f)).lookup p.place = some (f p) := by
    rw [List.zip_map']
    refine lookup_eq_some_of_mem (List.mem_map.mpr ⟨p, hp, rfl⟩) fun b hb => ?_
    obtain ⟨q, hq, heq⟩ := List.mem_map.mp hb
    obtain ⟨hplace, rfl⟩ := Prod.mk.inj heq
    rw [eq_of_mem_placed (hsub hq) (hsub hp) hplace]
  rw [rowValues, List.getElem?_mapIdx, (mem_placed.mp (hsub hp)).1, Option.map_some, hlookup]

/-- A new row has the stored values of its cells. -/
theorem rowValues_placed (h : row.length = t.declared.columns.length) :
    t.rowValues ((placed t.declared.columns row).map (·.place))
      ((placed t.declared.columns row).map (·.value)) = storedValues t.declared.columns row := by
  refine List.ext_getElem? fun i => ?_
  cases hc : t.declared.columns[i]? with
  | none =>
    have hlength := length_storedValues h
    rw [List.getElem?_eq_none_iff] at hc
    rw [List.getElem?_eq_none (by simpa [rowValues] using hc),
      List.getElem?_eq_none (hlength.trans_le hc)]
  | some c =>
    obtain ⟨x, hp⟩ := exists_placed h hc
    exact (getElem?_rowValues (List.Subset.refl _) hp).trans (getElem?_storedValues hp).symm

/-- A row that is assigned the cells of some columns has the stored values of a row, if it has them
in the other columns. -/
theorem assign_placed (h : row.length = t.declared.columns.length) {r : StoredRow}
    (hr : r.values.length = t.declared.columns.length)
    (hsub : ps ⊆ placed t.declared.columns row)
    (hf : ∀ p ∈ ps, p.column.kind.scalar.store (f p) = p.stored)
    (hrest : ∀ p ∈ placed t.declared.columns row, p ∉ ps → r.value p.place = p.stored) :
    t.assign (ps.map (·.place)) (ps.map f) r = ⟨r.number, storedValues t.declared.columns row⟩ := by
  refine congrArg (StoredRow.mk r.number) (List.ext_getElem? fun i => ?_)
  rw [List.getElem?_mapIdx]
  cases hc : t.declared.columns[i]? with
  | none =>
    have hlength := length_storedValues h
    rw [List.getElem?_eq_none_iff] at hc
    rw [List.getElem?_eq_none (hr.trans_le hc), List.getElem?_eq_none (hlength.trans_le hc)]
    rfl
  | some c =>
    obtain ⟨x, hp⟩ := exists_placed h hc
    have hi : i < r.values.length := hr ▸ (List.getElem?_eq_some_iff.mp hc).1
    rw [List.getElem?_eq_getElem hi, Option.map_some, getElem?_storedValues hp]
    refine congrArg some ?_
    by_cases hmem : Placed.mk c i x ∈ ps
    · rw [if_pos (List.mem_map.mpr ⟨_, hmem, rfl⟩), getElem?_rowValues hsub hmem, hf _ hmem]
      rfl
    · have hplace : i ∉ ps.map (·.place) := by
        intro hi
        obtain ⟨q, hq, rfl⟩ := List.mem_map.mp hi
        exact hmem (eq_of_mem_placed (hsub hq) hp rfl ▸ hq)
      have hvalue := hrest _ hp hmem
      rw [StoredRow.value, List.getElem?_eq_getElem hi, Option.getD_some] at hvalue
      rw [if_neg hplace, hvalue]

end Values

/-- A new row has no fault if it has NULL only in columns that admit it. -/
theorem nullFault?_eq_none_iff {n : Int} (h : row.length = t.declared.columns.length) :
    t.nullFault? ⟨n, storedValues t.declared.columns row⟩ = none ↔
      ∀ p ∈ placed t.declared.columns row, p.value = .null →
        p.column.kind.isNullable = true ∨ p.column.autoIncrement = true := by
  simp only [nullFault?, zip_storedValues h, List.findSome?_eq_none_iff, List.forall_mem_map]
  refine forall₂_congr fun p _ => ?_
  rw [Placed.stored, ite_eq_right_iff]
  cases p.column.kind.isNullable <;> simp [Datum.isNull_iff, Scalar.store_eq_null]

end StoredTable

end TypedSql
