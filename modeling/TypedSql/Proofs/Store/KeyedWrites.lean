import TypedSql.Proofs.Store.KeyedRows

/-!
# Writes that find a row by its key

An update and an upsert find the row that they are meant for by the key of the new row. This file
shows what they do to a store that has this row: each of them puts the new row into its place if and
only if no cell of the key is stored as NULL, no other cell is whose column does not admit it, and
the constraints of the store hold afterwards.

## Main definitions

* `Target` — one row of a table, `Target.IsMeant` — the one that a write is meant for.
* `Target.replaced` — the table with a new row in its place.

## Main results

* `Store.changeRows_eq` — the change of one row.
* `Store.update_ok_iff`, `Store.upsert_ok_iff` — when the two writes replace the row.
-/

set_option autoImplicit false

namespace TypedSql

/-! ## The row that is meant -/

/-- One row of a table. -/
structure Target where
  table : StoredTable
  before : List StoredRow
  row : StoredRow
  after : List StoredRow
  rows_eq : table.rows = before ++ row :: after

namespace Target

/-- The columns of the table. -/
def columns (g : Target) : List Column := g.table.declared.columns

/-- The names of the columns. -/
def names (g : Target) : List String := g.columns.map (·.name)

/-- The row with other values. -/
def replacement (g : Target) (row : List Cell) : StoredRow :=
  ⟨g.row.number, storedValues g.columns row⟩

/-- The table with another row in the place of this one. -/
def replaced (g : Target) (row : List Cell) : StoredTable :=
  { g.table with rows := g.before ++ g.replacement row :: g.after }

/-- Whether the row is the one that a write is meant for: it alone has the key of the new row. -/
structure IsMeant (g : Target) (row : List Cell) : Prop where
  regular : g.table.IsRegular
  accepted : AcceptedRow g.columns row
  hasKey : g.row.HasKeyOf g.columns row
  only : ∀ r ∈ g.before ++ g.after, ¬ r.HasKeyOf g.columns row

variable {g : Target} {row : List Cell}

/-- The row that is meant is in its table. -/
lemma row_mem (g : Target) : g.row ∈ g.table.rows := by
  rw [g.rows_eq]
  exact List.mem_append_right _ List.mem_cons_self

/-- The rows around the one that is meant are in its table. -/
lemma mem_of_mem_rest {r : StoredRow} (h : r ∈ g.before ++ g.after) : r ∈ g.table.rows := by
  rw [g.rows_eq]
  rcases List.mem_append.mp h with h | h
  · exact List.mem_append_left _ h
  · exact List.mem_append_right _ (List.mem_cons_of_mem _ h)

namespace IsMeant

variable (h : g.IsMeant row)
include h

/-- The other rows have other numbers. -/
lemma number_ne {r : StoredRow} (hr : r ∈ g.before ++ g.after) : r.number ≠ g.row.number := by
  have hnumbers := h.regular.numbers
  rw [g.rows_eq, List.map_append, List.map_cons, List.nodup_middle, List.nodup_cons,
    ← List.map_append] at hnumbers
  exact fun heq => hnumbers.1 (List.mem_map.mpr ⟨r, hr, heq⟩)

/-- No other row equals the cells of the key. -/
lemma matchesKey_rest {r : StoredRow} (hr : r ∈ g.before ++ g.after) :
    r.matchesKey g.columns row = false := by
  rw [Bool.eq_false_iff]
  exact fun hmatches => h.only r hr (StoredRow.matchesKey_iff.mp hmatches).2

/-- The new row has the key of the row that is meant. -/
lemma matchesKey_replacement :
    (g.replacement row).matchesKey g.columns row = g.row.matchesKey g.columns row := by
  rw [Bool.eq_iff_iff, StoredRow.matchesKey, StoredRow.matchesKey, List.all_eq_true,
    List.all_eq_true]
  refine forall₂_congr fun p hp => ?_
  have hvalue := h.regular.value_eq_stored h.accepted g.row_mem h.hasKey hp
  have hnew : (g.replacement row).value p.place = p.stored := by
    rw [StoredRow.value, replacement, getElem?_storedValues (mem_keyCells.mp hp).1,
      Option.getD_some]
  rw [hvalue, hnew]

/-- If the key can be found, the new row can replace the one with its key as long as it has no
fault. -/
lemma canReplace_iff (hmatches : g.row.matchesKey g.columns row = true) (n : Int) :
    CanReplace g.columns row ↔ g.table.nullFault? ⟨n, storedValues g.columns row⟩ = none := by
  rw [columns, h.accepted.nullFault?_eq_none_iff n]
  exact ⟨(·.complete), fun hcomplete => ⟨(StoredRow.matchesKey_iff.mp hmatches).1, hcomplete⟩⟩

/-- If the key cannot be found, the new row cannot replace the one with its key. -/
lemma not_canReplace (hmatches : g.row.matchesKey g.columns row = false) :
    ¬ CanReplace g.columns row := by
  intro hcan
  rw [StoredRow.matchesKey_iff.mpr ⟨hcan.key, h.hasKey⟩] at hmatches
  cases hmatches

/-- A row that gets new cells in the columns outside the key is the new row. -/
lemma assign_eq {f : Placed → Datum}
    (hf : ∀ p ∈ otherCells g.columns row, p.column.kind.scalar.store (f p) = p.stored) :
    g.table.assign ((otherCells g.columns row).map (·.place)) ((otherCells g.columns row).map f)
      g.row = g.replacement row := by
  refine StoredTable.assign_placed h.accepted.length (h.regular.fits _ g.row_mem).width
    (otherCells_subset _ _) hf fun p hp hother => ?_
  refine h.regular.value_eq_stored h.accepted g.row_mem h.hasKey (mem_keyCells.mpr ⟨hp, ?_⟩)
  by_contra hkey
  exact hother (mem_otherCells.mpr ⟨hp, by simpa using hkey⟩)

/-- The columns of some cells are found at their places. -/
lemma places_eq {ps : List Placed} (hps : ps ⊆ placed g.columns row) :
    g.table.places (ps.map (·.column.name)) = .ok (ps.map (·.place)) :=
  StoredTable.places_eq h.regular.distinct fun _ hp => (mem_placed.mp (hps hp)).1

end IsMeant

end Target

/-! ## The change of one row -/

namespace Store

variable {s : Store} {g : Target} {row : List Cell}

/-- What may be referred to from some columns may be from fewer of them. -/
lemma checkReferences_mono {t : StoredTable} {fewer columns : List String}
    (hsub : fewer ⊆ columns) (h : s.checkReferences t columns = .ok ()) :
    s.checkReferences t fewer = .ok () := by
  unfold checkReferences at h ⊢
  by_cases hforeign : (!s.enforceForeignKeys) = true
  · rw [if_pos hforeign]
  · rw [if_neg hforeign] at h ⊢
    split at h
    · rename_i hall
      refine if_pos (List.all_eq_true.mpr fun p hp => ?_)
      have hp := List.all_eq_true.mp hall p hp
      simp only [Bool.or_eq_true, Bool.not_eq_true', List.any_eq_false] at hp ⊢
      exact hp.imp_left fun hp c hc => hp c (hsub hc)
    · cases h

/-- A change of the one row that is chosen puts the new row into its place, if it has no fault. -/
theorem changeRows_eq {columns : List String} {change : StoredRow → StoredRow}
    {chosen : StoredRow → Bool} (hreferences : s.checkReferences g.table columns = .ok ())
    (hrow : chosen g.row = true) (hrest : ∀ r ∈ g.before ++ g.after, chosen r = false)
    (hnew : change g.row = g.replacement row) (hchosen : chosen (g.replacement row) = true) :
    s.changeRows g.table columns change chosen =
      match g.table.nullFault? (g.replacement row) with
      | some e => .error e
      | none => (s.put (g.replaced row)).checked (g.replaced row) := by
  obtain ⟨hbefore, hafter⟩ := List.forall_mem_append.mp hrest
  have hrows : (g.table.rows.map fun r => if chosen r then change r else r) =
      (g.replaced row).rows := by
    have hid : ∀ rs : List StoredRow, (∀ r ∈ rs, chosen r = false) →
        rs.map (fun r => if chosen r then change r else r) = rs := fun rs hrs => by
      rw [List.map_congr_left (g := id) fun r hr => by rw [hrs r hr]; rfl, List.map_id]
    rw [g.rows_eq, List.map_append, List.map_cons, hid _ hbefore, hid _ hafter, if_pos hrow, hnew]
    rfl
  have hfilter : (g.replaced row).rows.filter chosen = [g.replacement row] := by
    rw [Target.replaced, List.filter_append, List.filter_cons, if_pos hchosen,
      List.filter_eq_nil_iff.mpr (by simpa using hbefore),
      List.filter_eq_nil_iff.mpr (by simpa using hafter), List.nil_append]
  simp only [changeRows, hreferences, hrows, hfilter, List.findSome?_singleton, bind, Except.bind]
  cases g.table.nullFault? (g.replacement row) <;> rfl

/-! ## Updates -/

/-- The row that is meant is the only one that an update can find. -/
lemma countP_matchesKey (h : g.IsMeant row) :
    g.table.rows.countP (·.matchesKey g.columns row) =
      if g.row.matchesKey g.columns row then 1 else 0 := by
  obtain ⟨hbefore, hafter⟩ := List.forall_mem_append.mp fun r hr => h.matchesKey_rest hr
  rw [g.rows_eq, List.countP_append, List.countP_cons,
    List.countP_eq_zero.mpr (by simpa using hbefore),
    List.countP_eq_zero.mpr (by simpa using hafter), Nat.zero_add, Nat.zero_add]

/-- An update changes the rows that equal the cells of the key. -/
lemma update_eq (h : g.IsMeant row) {name : String} (htable : s.table name = .ok g.table) :
    s.update name ((otherCells g.columns row).map (·.column.name))
      ((keyCells g.columns row).map (·.column.name))
      ((otherCells g.columns row).map (·.value) ++ (keyCells g.columns row).map (·.value)) =
    (s.changeRows g.table ((otherCells g.columns row).map (·.column.name))
      (g.table.assign ((otherCells g.columns row).map (·.place))
        ((otherCells g.columns row).map (·.value))) (·.matchesKey g.columns row)).map
      fun s => (g.table.rows.countP (·.matchesKey g.columns row), s) := by
  have htake : ((otherCells g.columns row).map (·.value) ++
      (keyCells g.columns row).map (·.value)).take (otherCells g.columns row).length =
      (otherCells g.columns row).map (·.value) := List.take_left' (List.length_map _)
  have hdrop : ((otherCells g.columns row).map (·.value) ++
      (keyCells g.columns row).map (·.value)).drop (otherCells g.columns row).length =
      (keyCells g.columns row).map (·.value) := List.drop_left' (List.length_map _)
  simp only [update, htable, h.places_eq (otherCells_subset _ _), h.places_eq (keyCells_subset _ _),
    List.length_map, htake, hdrop, List.zip_map', List.all_map, Function.comp_def, bind,
    Except.bind, pure, Except.pure]
  rfl

/-- The change of the row that is meant, in the columns outside the key. -/
lemma changeRows_otherCells (h : g.IsMeant row)
    (hreferences : s.checkReferences g.table g.names = .ok ()) {f : Placed → Datum}
    (hf : ∀ p ∈ otherCells g.columns row, p.column.kind.scalar.store (f p) = p.stored)
    {chosen : StoredRow → Bool} (hrow : chosen g.row = true)
    (hrest : ∀ r ∈ g.before ++ g.after, chosen r = false)
    (hchosen : chosen (g.replacement row) = true) :
    s.changeRows g.table ((otherCells g.columns row).map (·.column.name))
      (g.table.assign ((otherCells g.columns row).map (·.place))
        ((otherCells g.columns row).map f)) chosen =
      match g.table.nullFault? (g.replacement row) with
      | some e => .error e
      | none => (s.put (g.replaced row)).checked (g.replaced row) := by
  refine changeRows_eq (checkReferences_mono ?_ hreferences) hrow hrest (h.assign_eq hf) hchosen
  intro name hname
  obtain ⟨p, hp, rfl⟩ := List.mem_map.mp hname
  have hc := (mem_placed.mp (otherCells_subset _ _ hp)).1
  exact List.mem_map.mpr ⟨p.column, List.mem_of_getElem? hc, rfl⟩

/-- An update changes one row if and only if the new row can replace the one with its key. Then this
row is replaced, if the constraints of the store permit it. -/
theorem update_ok_iff (h : g.IsMeant row) {name : String} (htable : s.table name = .ok g.table)
    (hreferences : s.checkReferences g.table g.names = .ok ()) (s' : Store) :
    s.update name ((otherCells g.columns row).map (·.column.name))
      ((keyCells g.columns row).map (·.column.name))
      ((otherCells g.columns row).map (·.value) ++ (keyCells g.columns row).map (·.value)) =
        .ok (1, s') ↔
      CanReplace g.columns row ∧ (s.put (g.replaced row)).checked (g.replaced row) = .ok s' := by
  rw [update_eq h htable, countP_matchesKey h, except_map_ok]
  cases hmatches : g.row.matchesKey g.columns row with
  | false => simp [h.not_canReplace hmatches]
  | true =>
    rw [changeRows_otherCells h hreferences (fun _ _ => rfl) hmatches
      (fun r hr => h.matchesKey_rest hr) (h.matchesKey_replacement.trans hmatches),
      h.canReplace_iff hmatches g.row.number, Target.replacement]
    cases g.table.nullFault? ⟨g.row.number, storedValues g.columns row⟩ <;> simp

/-! ## Upserts -/

/-- The places of the key are those of its cells. -/
lemma keyPlaces_eq (h : g.IsMeant row) :
    g.table.keyPlaces = (keyCells g.columns row).map (·.place) := by
  rw [StoredTable.keyPlaces, Table.keyNames, Table.keys_eq h.accepted.length, List.map_map,
    List.filterMap_map, ← List.filterMap_eq_map]
  refine List.filterMap_congr fun p hp => ?_
  exact StoredTable.place?_eq h.regular.distinct (mem_placed.mp (keyCells_subset _ _ hp)).1

/-- The new row of an upsert has a number: if the numbers stand in a column of the key, it is that
of the row that is meant. -/
lemma newRow_ok (h : g.IsMeant row)
    (hroom : g.table.numberPlace? = none → ∃ n, g.table.nextNumber = .ok n) :
    ∃ n, g.table.newRow ((placed g.columns row).map (·.place))
      ((placed g.columns row).map (·.value)) = .ok ⟨n, storedValues g.columns row⟩ := by
  have hvalues : g.table.rowValues ((placed g.columns row).map (·.place))
      ((placed g.columns row).map (·.value)) = storedValues g.columns row :=
    StoredTable.rowValues_placed h.accepted.length
  cases hnumber : g.table.numberPlace? with
  | none =>
    obtain ⟨n, hn⟩ := hroom hnumber
    exact ⟨n, by simp only [StoredTable.newRow, hnumber, hvalues, hn]; rfl⟩
  | some i =>
    obtain ⟨-, c, hc, hkey, -⟩ := StoredTable.numberPlace?_eq h.regular.distinct hnumber
    obtain ⟨x, hp⟩ := exists_placed h.accepted.length hc
    have hstored := h.regular.value_eq_stored h.accepted g.row_mem h.hasKey
      (mem_keyCells.mpr ⟨hp, hkey⟩)
    have hvalue : (storedValues g.columns row)[i]? = some (.int g.row.number) := by
      rw [getElem?_storedValues hp, ← hstored, (h.regular.fits _ g.row_mem).numbered i hnumber]
    exact ⟨g.row.number, by
      simp only [StoredTable.newRow, hnumber, hvalues, hvalue, Option.getD_some]; rfl⟩

/-- An upsert finds the row that is meant, unless a cell of the key is NULL. -/
lemma find?_clashes (h : g.IsMeant row) (n : Int) :
    g.table.rows.find? (·.clashes ((keyCells g.columns row).map (·.place))
      ⟨n, storedValues g.columns row⟩) =
      if g.row.matchesKey g.columns row then some g.row else none := by
  have hclashes : ∀ r ∈ g.table.rows, r.clashes ((keyCells g.columns row).map (·.place))
      ⟨n, storedValues g.columns row⟩ = r.matchesKey g.columns row := fun r hr =>
    Bool.eq_iff_iff.mpr (h.regular.clashes_iff h.accepted g.row_mem h.hasKey hr n)
  cases hmatches : g.row.matchesKey g.columns row with
  | true =>
    refine List.find?_eq_some_iff_append.mpr
      ⟨(hclashes _ g.row_mem).trans hmatches, g.before, g.after, g.rows_eq, fun r hr => ?_⟩
    have hrest : r ∈ g.before ++ g.after := List.mem_append_left _ hr
    rw [hclashes r (g.mem_of_mem_rest hrest), h.matchesKey_rest hrest]
    rfl
  | false =>
    refine List.find?_eq_none.mpr fun r hr => ?_
    rw [hclashes r hr, Bool.not_eq_true]
    rw [g.rows_eq, List.mem_append, List.mem_cons, or_left_comm, ← List.mem_append] at hr
    rcases hr with rfl | hr
    · exact hmatches
    · exact h.matchesKey_rest hr

/-- The key of the table is one of the lists of columns that are unique. -/
lemma any_isPerm_uniquePlaces (h : g.IsMeant row) (hkey : ∃ c ∈ g.columns, c.primaryKey = true) :
    ((s.uniquePlaces g.table).any fun u => u.isPerm ((keyCells g.columns row).map (·.place))) =
      true := by
  obtain ⟨c, hc, hprimary⟩ := hkey
  obtain ⟨i, hi⟩ := List.mem_iff_getElem?.mp hc
  obtain ⟨x, hp⟩ := exists_placed h.accepted.length hi
  have hne : (keyCells g.columns row).map (·.place) ≠ [] :=
    List.ne_nil_of_mem (List.mem_map.mpr ⟨_, mem_keyCells.mpr ⟨hp, hprimary⟩, rfl⟩)
  refine List.any_eq_true.mpr
    ⟨(keyCells g.columns row).map (·.place), ?_, List.isPerm_iff.mpr (List.Perm.refl _)⟩
  rw [uniquePlaces, keyPlaces_eq h, if_neg (by simpa using hne)]
  exact List.mem_append_left _ List.mem_cons_self

/-- The row that an upsert makes has the stored form of all cells. -/
lemma makeRow_eq (h : g.IsMeant row) (hne : g.columns ≠ [])
    (hroom : g.table.numberPlace? = none → ∃ n, g.table.nextNumber = .ok n) :
    ∃ n, makeRow g.table g.names ((placed g.columns row).map (·.value)) =
      match g.table.nullFault? ⟨n, storedValues g.columns row⟩ with
      | some e => .error e
      | none => .ok ⟨n, storedValues g.columns row⟩ := by
  obtain ⟨n, hrow⟩ := newRow_ok h hroom
  have hnames : g.names = (placed g.columns row).map (·.column.name) := by
    have hcolumns := congrArg (List.map (·.name)) (map_column_placed h.accepted.length)
    rw [List.map_map] at hcolumns
    exact hcolumns.symm
  have hsome : (placed g.columns row).map (·.column.name) ≠ [] := by
    rw [← hnames]
    simpa [Target.names] using hne
  refine ⟨n, ?_⟩
  rw [makeRow, hnames, if_neg (by simpa using hsome), h.places_eq (List.Subset.refl _)]
  simp only [bind, Except.bind, pure, Except.pure, hrow]
  cases g.table.nullFault? ⟨n, storedValues g.columns row⟩ <;> rfl

/-- What an upsert does if the new row has no fault: it changes the row that has its key, or adds a
row. -/
lemma upsert_eq (h : g.IsMeant row) (hkey : ∃ c ∈ g.columns, c.primaryKey = true)
    (hroom : g.table.numberPlace? = none → ∃ n, g.table.nextNumber = .ok n) {name : String}
    (htable : s.table name = .ok g.table)
    (hreferences : s.checkReferences g.table g.names = .ok ()) :
    ∃ n, s.upsert name g.names ((keyCells g.columns row).map (·.column.name))
      ((otherCells g.columns row).map (·.column.name)) ((placed g.columns row).map (·.value)) =
      match g.table.nullFault? ⟨n, storedValues g.columns row⟩ with
      | some e => .error e
      | none =>
        if g.row.matchesKey g.columns row then
          s.changeRows g.table ((otherCells g.columns row).map (·.column.name))
            (g.table.assign ((otherCells g.columns row).map (·.place))
              ((otherCells g.columns row).map (·.stored))) (·.number == g.row.number)
        else
          (s.put (g.table.insertRow ⟨n, storedValues g.columns row⟩)).checked
            (g.table.insertRow ⟨n, storedValues g.columns row⟩) := by
  have hne : g.columns ≠ [] := List.ne_nil_of_mem hkey.choose_spec.1
  obtain ⟨n, hmake⟩ := makeRow_eq h hne hroom
  refine ⟨n, ?_⟩
  have hassigned : ((otherCells g.columns row).map (·.place)).map
      (StoredRow.value ⟨n, storedValues g.columns row⟩) =
      (otherCells g.columns row).map (·.stored) := by
    rw [List.map_map]
    refine List.map_congr_left fun p hp => ?_
    rw [Function.comp_apply, StoredRow.value, getElem?_storedValues (otherCells_subset _ _ hp),
      Option.getD_some]
  have hnames : g.table.declared.columns.map (·.name) = g.names := rfl
  rw [upsert, htable]
  simp only [bind, Except.bind, hnames, hreferences, h.places_eq (keyCells_subset _ _),
    h.places_eq (otherCells_subset _ _), any_isPerm_uniquePlaces h hkey, hmake, Bool.not_true,
    Bool.false_eq_true, if_false]
  cases g.table.nullFault? ⟨n, storedValues g.columns row⟩ with
  | some e => rfl
  | none =>
    simp only [find?_clashes h, hassigned]
    cases g.row.matchesKey g.columns row <;> simp

/-- Tables that are put into the place of one table are told apart by the result. -/
lemma put_injective {name : String} {t u v : StoredTable} (htable : s.table name = .ok t)
    (hu : u.name = t.name) (hv : v.name = t.name) (h : s.put u = s.put v) : u = v := by
  have htables := List.map_inj_left.mp (congrArg Store.tables h) t (mem_of_table htable)
  rwa [hu, hv, if_pos (sameName_self _), if_pos (sameName_self _)] at htables

/-- A table with one more row is not one in which a row is replaced. -/
lemma insertRow_ne_replaced (r : StoredRow) : g.table.insertRow r ≠ g.replaced row := by
  intro heq
  have hlength := congrArg (List.length ∘ StoredTable.rows) heq
  have hsplit := congrArg List.length (List.takeWhile_append_dropWhile
    (p := (·.number ≤ r.number)) (l := g.table.rows))
  have hrows := congrArg List.length g.rows_eq
  simp only [Function.comp_apply, StoredTable.insertRow, Target.replaced, List.length_append,
    List.length_cons] at hlength hsplit hrows
  omega

/-- A check passes if rows are unique and refer to rows. -/
lemma checked_ok {s : Store} {t : StoredTable} (hunique : s.isUnique t = true)
    (hrefers : s.tables.all s.refersToRows = true) : s.checked t = .ok s := by
  simp [checked, hunique, hrefers]

/-- An upsert replaces the row that is meant if and only if the new row can replace the one with its
key, and the constraints of the store permit it. -/
theorem upsert_ok_iff (h : g.IsMeant row) (hkey : ∃ c ∈ g.columns, c.primaryKey = true)
    (hroom : g.table.numberPlace? = none → ∃ n, g.table.nextNumber = .ok n) {name : String}
    (htable : s.table name = .ok g.table)
    (hreferences : s.checkReferences g.table g.names = .ok ()) :
    s.upsert name g.names ((keyCells g.columns row).map (·.column.name))
      ((otherCells g.columns row).map (·.column.name)) ((placed g.columns row).map (·.value)) =
        .ok (s.put (g.replaced row)) ↔
      CanReplace g.columns row ∧
        (s.put (g.replaced row)).checked (g.replaced row) = .ok (s.put (g.replaced row)) := by
  obtain ⟨n, hupsert⟩ := upsert_eq h hkey hroom htable hreferences
  rw [hupsert]
  cases hmatches : g.row.matchesKey g.columns row with
  | false =>
    -- a row is added, and the table with it is another one
    refine iff_of_false (fun hresult => ?_) fun hresult => h.not_canReplace hmatches hresult.1
    split at hresult
    · cases hresult
    · rw [if_neg Bool.false_ne_true] at hresult
      exact insertRow_ne_replaced _ (put_injective htable rfl rfl (eq_of_checked hresult).symm)
  | true =>
    have hself : (g.row.number == g.row.number) = true := beq_self_eq_true _
    have hrest : ∀ r ∈ g.before ++ g.after, (r.number == g.row.number) = false := fun r hr => by
      simpa using h.number_ne hr
    have hstored : ∀ p ∈ otherCells g.columns row,
        p.column.kind.scalar.store p.stored = p.stored := fun p _ => p.keeps_stored.store_eq
    rw [if_pos rfl, @changeRows_otherCells s g row h hreferences (·.stored) hstored
      (·.number == g.row.number) hself hrest hself]
    by_cases hcan : CanReplace g.columns row
    · rw [(h.canReplace_iff hmatches n).mp hcan, Target.replacement,
        (h.canReplace_iff hmatches _).mp hcan]
      exact (and_iff_right hcan).symm
    · obtain ⟨e, he⟩ := Option.ne_none_iff_exists'.mp (mt (h.canReplace_iff hmatches n).mpr hcan)
      rw [he]
      simp [hcan]

end Store

end TypedSql
