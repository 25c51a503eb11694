import TypedSql.Proofs.Store.Effects
import TypedSql.Proofs.Store.Rows

/-!
# Regular tables

The rows of a table have a value for each column, in the form in which the column keeps it, and they
have different numbers; in a table whose key is one integer column these are the values of this
column. This file shows that every statement of a database keeps its tables so.

## Main definitions

* `StoredTable.Fits` — a row of a table; `StoredTable.IsRegular` — a table as statements leave it.
* `Store.IsRegular` — all tables are regular.

## Main results

* `StoredTable.fits_newRow`, `StoredTable.fits_assign` — new and changed rows fit their table.
* `Store.run_isRegular` — a statement that assigns no row numbers keeps the tables regular.
-/

set_option autoImplicit false

namespace TypedSql

/-! ## Regular tables -/

namespace StoredTable

variable {t : StoredTable} {r : StoredRow}

/-- Whether a row has a value for each column of a table, in the form in which the column keeps it,
and its number in the column that is meant for it. -/
structure Fits (t : StoredTable) (r : StoredRow) : Prop where
  width : r.values.length = t.declared.columns.length
  kept : ∀ (i : Nat) (c : Column), t.declared.columns[i]? = some c →
    c.kind.scalar.Keeps (r.value i)
  numbered : ∀ i, t.numberPlace? = some i → r.value i = .int r.number

/-- No value of a row is a real that is not a number. -/
lemma Fits.isNaN_value (hr : t.Fits r) (i : Nat) : (r.value i).isNaN = false := by
  cases hc : t.declared.columns[i]? with
  | some c => exact (hr.kept i c hc).isNaN
  | none =>
    rw [List.getElem?_eq_none_iff, ← hr.width] at hc
    rw [StoredRow.value, List.getElem?_eq_none hc]
    rfl

/-- Whether a table is as statements leave it: its columns are told apart by their names, its rows
fit it, and they have different numbers. -/
structure IsRegular (t : StoredTable) : Prop where
  distinct : Store.hasSameNames (t.declared.columns.map (·.name)) = false
  fits : ∀ r ∈ t.rows, t.Fits r
  numbers : (t.rows.map (·.number)).Nodup

/-- The column with the row numbers is the key, and holds integers. -/
lemma numberPlace?_eq (hdistinct : Store.hasSameNames (t.declared.columns.map (·.name)) = false)
    {i : Nat} (hi : t.numberPlace? = some i) :
    t.keyPlaces = [i] ∧
      ∃ c, t.declared.columns[i]? = some c ∧ c.primaryKey = true ∧ c.kind.sqlType = "INTEGER" := by
  unfold numberPlace? at hi
  split at hi
  · rename_i c hkeys
    obtain ⟨hc, hkey⟩ := List.mem_filter.mp (hkeys ▸ List.mem_singleton_self c)
    obtain ⟨j, hj⟩ := List.mem_iff_getElem?.mp hc
    split at hi
    · rename_i hinteger
      have hplaces : t.keyPlaces = [i] := by
        rw [keyPlaces, Table.keyNames, hkeys, List.map_singleton, List.filterMap_cons_some hi]
        rfl
      rw [place?_eq hdistinct hj] at hi
      obtain rfl := Option.some.inj hi
      exact ⟨hplaces, c, hj, hkey, hinteger⟩
    · cases hi
  · cases hi

/-! ## New and changed rows -/

section Rows

variable {places : List Nat} {given : List Datum}

/-- A row has a value for each column. -/
lemma length_rowValues : (t.rowValues places given).length = t.declared.columns.length :=
  List.length_mapIdx

/-- The values of a row are in stored form. -/
lemma keeps_rowValues (hgiven : ∀ x ∈ given, x.isNaN = false) {i : Nat} {c : Column}
    (hc : t.declared.columns[i]? = some c) :
    c.kind.scalar.Keeps ((t.rowValues places given)[i]?.getD .null) := by
  rw [rowValues, List.getElem?_mapIdx, hc, Option.map_some, Option.getD_some]
  cases hlookup : (places.zip given).lookup i with
  | none => exact Scalar.keeps_null
  | some x =>
    obtain ⟨l₁, l₂, hzip, -⟩ := List.lookup_eq_some_iff.mp hlookup
    have hx : (i, x) ∈ places.zip given := by simp [hzip]
    exact Scalar.keeps_store (hgiven x (List.of_mem_zip hx).2)

/-- The values of a row with a number fit the table, if the number stands in its column. -/
lemma fits_rowValues (hgiven : ∀ x ∈ given, x.isNaN = false) {n : Int}
    (hnumber : ∀ i, t.numberPlace? = some i →
      (t.rowValues places given)[i]?.getD .null = .int n) :
    t.Fits ⟨n, t.rowValues places given⟩ :=
  ⟨length_rowValues, fun _ _ hc => keeps_rowValues hgiven hc, hnumber⟩

/-- A row fits its table with another number, if this number is put into its column. -/
lemma Fits.setNumber (hdistinct : Store.hasSameNames (t.declared.columns.map (·.name)) = false)
    {values : List Datum} (hwidth : values.length = t.declared.columns.length)
    (hkept : ∀ (i : Nat) (c : Column), t.declared.columns[i]? = some c →
      c.kind.scalar.Keeps (values[i]?.getD .null))
    {i : Nat} (hi : t.numberPlace? = some i) (n : Int) : t.Fits ⟨n, values.set i (.int n)⟩ := by
  obtain ⟨-, c, hc, -, hinteger⟩ := numberPlace?_eq hdistinct hi
  have hlt : i < values.length := hwidth ▸ (List.getElem?_eq_some_iff.mp hc).1
  refine ⟨by rw [List.length_set, hwidth], fun j d hd => ?_, fun j hj => ?_⟩
  · by_cases hij : i = j
    · subst hij
      obtain rfl := Option.some.inj (hc.symm.trans hd)
      rw [StoredRow.value, List.getElem?_set_self hlt]
      exact Scalar.keeps_int hinteger n
    · rw [StoredRow.value, List.getElem?_set_ne hij]
      exact hkept j d hd
  · obtain rfl := Option.some.inj (hi.symm.trans hj)
    rw [StoredRow.value, List.getElem?_set_self hlt, Option.getD_some]

/-- A new row fits its table. -/
theorem fits_newRow (hdistinct : Store.hasSameNames (t.declared.columns.map (·.name)) = false)
    (hgiven : ∀ x ∈ given, x.isNaN = false) (h : t.newRow places given = .ok r) : t.Fits r := by
  cases hnumber : t.numberPlace? with
  | none =>
    simp only [newRow, hnumber] at h
    obtain ⟨n, -, hr⟩ := except_bind_ok.mp h
    rw [← except_pure_ok.mp hr]
    exact fits_rowValues hgiven fun i hi => by rw [hnumber] at hi; cases hi
  | some i =>
    simp only [newRow, hnumber] at h
    split at h
    · rename_i n hvalue
      rw [← except_pure_ok.mp h]
      exact fits_rowValues hgiven fun j hj => by
        rwa [← Option.some.inj (hnumber.symm.trans hj)]
    · obtain ⟨n, -, hr⟩ := except_bind_ok.mp h
      rw [← except_pure_ok.mp hr]
      exact Fits.setNumber hdistinct length_rowValues
        (fun j c hc => keeps_rowValues hgiven hc) hnumber n
    · cases h

/-- A row that is assigned to fits its table, if its number is not assigned. -/
theorem fits_assign (hgiven : ∀ x ∈ given, x.isNaN = false) (hr : t.Fits r)
    (hnumber : ∀ i, t.numberPlace? = some i → i ∉ places) : t.Fits (t.assign places given r) where
  width := by rw [assign, List.length_mapIdx, hr.width]
  kept i c hc := by
    have hi : i < r.values.length := hr.width ▸ (List.getElem?_eq_some_iff.mp hc).1
    have hi' : i < (t.rowValues places given).length := by rwa [length_rowValues, ← hr.width]
    have hkept := hr.kept i c hc
    rw [StoredRow.value, List.getElem?_eq_getElem hi] at hkept
    rw [StoredRow.value, assign, List.getElem?_mapIdx, List.getElem?_eq_getElem hi,
      Option.map_some, Option.getD_some]
    split
    · have hvalue := @keeps_rowValues t places given hgiven i c hc
      rwa [List.getElem?_eq_getElem hi'] at hvalue ⊢
    · exact hkept
  numbered i hi := by
    have hvalue := hr.numbered i hi
    rw [StoredRow.value] at hvalue ⊢
    rw [assign, List.getElem?_mapIdx]
    cases hget : r.values[i]? with
    | none =>
      rw [hget] at hvalue
      cases hvalue
    | some x =>
      rw [hget] at hvalue
      rw [Option.map_some, if_neg (hnumber i hi)]
      exact hvalue

end Rows

/-! ## Row numbers -/

/-- The greatest of some numbers is at least as great as each of them. -/
lemma exists_foldl_max {rows : List StoredRow} {m : Option Int} {n : Int}
    (h : m = some n ∨ ∃ r ∈ rows, r.number = n) :
    ∃ k, rows.foldl (fun m r => some (max r.number (m.getD r.number))) m = some k ∧ n ≤ k := by
  induction rows generalizing m n with
  | nil =>
    rcases h with rfl | ⟨r, hr, -⟩
    · exact ⟨n, rfl, Int.le_refl n⟩
    · cases hr
  | cons r rows ih =>
    rcases h with rfl | ⟨s, hs, rfl⟩
    · obtain ⟨k, hk, hle⟩ := ih (m := some (max r.number n)) (.inl rfl)
      exact ⟨k, hk, (Int.le_max_right r.number n).trans hle⟩
    · rcases List.mem_cons.mp hs with rfl | hs
      · obtain ⟨k, hk, hle⟩ := ih (m := some (max s.number (m.getD s.number))) (.inl rfl)
        exact ⟨k, hk, (Int.le_max_left s.number _).trans hle⟩
      · exact ih (.inr ⟨s, hs, rfl⟩)

/-- The next number is greater than that of every row. -/
lemma lt_nextNumber {n : Int} (h : t.nextNumber = .ok n) (hr : r ∈ t.rows) : r.number < n := by
  obtain ⟨k, hk, hle⟩ := exists_foldl_max (m := none) (.inr ⟨r, hr, rfl⟩)
  simp only [nextNumber, hk, Option.getD_some] at h
  split at h <;> split at h
  · cases h
    omega
  · cases h
  · cases h
    omega
  · cases h

/-- Rows that do not clash at a place have different numbers, if these stand there. -/
lemma nodup_of_distinctOn {i : Nat} {rows : List StoredRow}
    (hvalues : ∀ r ∈ rows, r.value i = .int r.number) (h : distinctOn [i] rows = true) :
    (rows.map (·.number)).Nodup := by
  induction rows with
  | nil => exact List.nodup_nil
  | cons r rows ih =>
    obtain ⟨hr, hrows⟩ := List.forall_mem_cons.mp hvalues
    rw [distinctOn, Bool.and_eq_true, List.all_eq_true] at h
    refine List.nodup_cons.mpr ⟨fun hmem => ?_, ih hrows h.2⟩
    obtain ⟨q, hq, hnumber⟩ := List.mem_map.mp hmem
    have hclash : r.clashes [i] q = true := by
      simp [StoredRow.clashes, hr, hrows q hq, hnumber, Datum.equals_int]
    have hapart := h.1 q hq
    rw [hclash] at hapart
    cases hapart

/-- Rows that are unique where they have to be have different numbers, if these are in a column. -/
lemma nodup_numbers {s : Store}
    (hdistinct : Store.hasSameNames (t.declared.columns.map (·.name)) = false)
    (hfits : ∀ r ∈ t.rows, t.Fits r) {i : Nat} (hi : t.numberPlace? = some i)
    (hunique : s.isUnique t = true) : (t.rows.map (·.number)).Nodup := by
  have hkey := (numberPlace?_eq hdistinct hi).1
  refine nodup_of_distinctOn (fun r hr => (hfits r hr).numbered i hi)
    (List.all_eq_true.mp hunique [i] ?_)
  rw [Store.uniquePlaces, hkey]
  exact List.mem_append_left _ List.mem_cons_self

/-! ## Changed tables -/

/-- What fits a table fits every table of the same declaration. -/
lemma Fits.of_declared {u : StoredTable} (hr : t.Fits r) (h : t.declared = u.declared) :
    u.Fits r := by
  have hnumber : u.numberPlace? = t.numberPlace? := by simp [numberPlace?, place?, h]
  exact ⟨h ▸ hr.width, h ▸ hr.kept, fun i hi => hr.numbered i (hnumber ▸ hi)⟩

/-- Fewer rows leave a table regular. -/
lemma IsRegular.sublist (ht : t.IsRegular) {rows : List StoredRow} (h : rows.Sublist t.rows) :
    IsRegular { t with rows } where
  distinct := ht.distinct
  fits r hr := (ht.fits r (h.subset hr)).of_declared rfl
  numbers := ht.numbers.sublist (h.map _)

/-- The rows after an insertion are the new one and those before. -/
lemma mem_insertRow {q : StoredRow} :
    q ∈ (t.insertRow r).rows ↔ q = r ∨ q ∈ t.rows := by
  rw [insertRow, List.mem_append, List.mem_cons, or_left_comm, ← List.mem_append,
    List.takeWhile_append_dropWhile]

/-- A new row leaves a table regular, if its number is new or the rows are unique. -/
lemma IsRegular.insertRow {s : Store} (ht : t.IsRegular) (hr : t.Fits r)
    (hnew : t.numberPlace? = none → ∀ q ∈ t.rows, q.number ≠ r.number)
    (hunique : s.isUnique (t.insertRow r) = true) : (t.insertRow r).IsRegular := by
  have hfits : ∀ q ∈ (t.insertRow r).rows, (t.insertRow r).Fits q := fun q hq => by
    rcases mem_insertRow.mp hq with rfl | hq
    · exact hr.of_declared rfl
    · exact (ht.fits q hq).of_declared rfl
  refine ⟨ht.distinct, hfits, ?_⟩
  cases hnumber : t.numberPlace? with
  | some i => exact nodup_numbers ht.distinct hfits (i := i) hnumber hunique
  | none =>
    have hperm : ((t.insertRow r).rows.map (·.number)).Perm
        (r.number :: t.rows.map (·.number)) := by
      have hrows : (t.insertRow r).rows.Perm (r :: (t.rows.takeWhile (·.number ≤ r.number) ++
          t.rows.dropWhile (·.number ≤ r.number))) := List.perm_middle
      rw [List.takeWhile_append_dropWhile] at hrows
      exact hrows.map _
    refine hperm.nodup_iff.mpr (List.nodup_cons.mpr ⟨fun hmem => ?_, ht.numbers⟩)
    obtain ⟨q, hq, heq⟩ := List.mem_map.mp hmem
    exact hnew hnumber q hq heq

/-- The number of a new row is new, if it is not in a column. -/
lemma number_newRow {places : List Nat} {given : List Datum} (hnumber : t.numberPlace? = none)
    (h : t.newRow places given = .ok r) : ∀ q ∈ t.rows, q.number ≠ r.number := by
  simp only [newRow, hnumber] at h
  obtain ⟨n, hn, hr⟩ := except_bind_ok.mp h
  rw [← except_pure_ok.mp hr]
  exact fun q hq => (lt_nextNumber hn hq).ne

/-- Changed rows leave a table regular, if they fit it and keep their numbers. -/
lemma IsRegular.map (ht : t.IsRegular) {f : StoredRow → StoredRow}
    (hfits : ∀ r, t.Fits r → t.Fits (f r)) (hnumber : ∀ r, (f r).number = r.number) :
    IsRegular { t with rows := t.rows.map f } where
  distinct := ht.distinct
  fits r hr := by
    obtain ⟨q, hq, rfl⟩ := List.mem_map.mp hr
    exact (hfits q (ht.fits q hq)).of_declared rfl
  numbers := by
    have hnumbers : (t.rows.map f).map (·.number) = t.rows.map (·.number) := by
      rw [List.map_map]
      exact List.map_congr_left fun r _ => hnumber r
    rw [hnumbers]
    exact ht.numbers

end StoredTable

/-! ## Stores -/

/-- Whether all tables of a store are regular, and their declarations are of a given sort. -/
def Store.IsRegular (P : Table → Prop) (s : Store) : Prop :=
  ∀ t ∈ s.tables, t.IsRegular ∧ P t.declared

namespace Store

variable {P : Table → Prop} {s s' : Store} {t : StoredTable}

/-- A store stays regular when a table of it becomes another regular one. -/
lemma IsRegular.put (hs : s.IsRegular P) (ht : t.IsRegular) (hdeclared : P t.declared) :
    (s.put t).IsRegular P := by
  intro u hu
  obtain ⟨v, hv, rfl⟩ := List.mem_map.mp hu
  split
  · exact ⟨ht, hdeclared⟩
  · exact hs v hv

/-- A store stays regular when a table of it becomes another regular one and passes its check. -/
lemma IsRegular.checked (hs : s.IsRegular P) (ht : t.IsRegular) (hdeclared : P t.declared)
    (h : (s.put t).checked t = .ok s') : s'.IsRegular P := by
  rw [eq_of_checked h]
  exact hs.put ht hdeclared

/-! ## Statements -/

section Statements

variable {name : String} {columns : List String} {values : List Datum}

/-- A new row fits the table, with a number of its own unless a column has the numbers. -/
lemma fits_makeRow (ht : t.IsRegular) (hvalues : ∀ x ∈ values, x.isNaN = false) {r : StoredRow}
    (h : makeRow t columns values = .ok r) :
    t.Fits r ∧ (t.numberPlace? = none → ∀ q ∈ t.rows, q.number ≠ r.number) := by
  obtain ⟨places, -, hrow, -⟩ := makeRow_ok h
  exact ⟨StoredTable.fits_newRow ht.distinct hvalues hrow,
    fun hnumber => StoredTable.number_newRow hnumber hrow⟩

/-- A store stays regular when a row is inserted. -/
lemma insert_isRegular (hs : s.IsRegular P) (hvalues : ∀ x ∈ values, x.isNaN = false) {n : Int}
    (h : s.insert name columns values = .ok (n, s')) : s'.IsRegular P := by
  obtain ⟨t, r, htable, hrow, -, hchecked⟩ := insert_ok h
  obtain ⟨ht, hdeclared⟩ := hs t (mem_of_table htable)
  obtain ⟨hfits, hnew⟩ := fits_makeRow ht hvalues hrow
  exact hs.checked (ht.insertRow hfits hnew (isUnique_of_checked hchecked)) hdeclared hchecked

/-- A store stays regular when rows are changed to such as fit and keep their numbers. -/
lemma changeRows_isRegular (hs : s.IsRegular P) (ht : t.IsRegular) (hdeclared : P t.declared)
    {change : StoredRow → StoredRow} {chosen : StoredRow → Bool}
    (h : s.changeRows t columns change chosen = .ok s')
    (hfits : ∀ r, t.Fits r → t.Fits (change r)) (hnumber : ∀ r, (change r).number = r.number) :
    s'.IsRegular P := by
  obtain ⟨u, rfl, hchecked⟩ := changeRows_ok h
  refine hs.checked (ht.map (fun r hr => ?_) fun r => ?_) hdeclared hchecked
  · split
    · exact hfits r hr
    · exact hr
  · split
    · exact hnumber r
    · rfl

/-- A place is that of one of the columns. -/
lemma mem_of_places {places : List Nat} (h : t.places columns = .ok places) {i : Nat}
    (hi : i ∈ places) : ∃ c ∈ columns, t.place? c = some i := by
  induction columns generalizing places with
  | nil =>
    cases h
    cases hi
  | cons c columns ih =>
    rw [StoredTable.places, List.mapM_cons] at h
    obtain ⟨j, hj, h⟩ := except_bind_ok.mp h
    obtain ⟨js, hjs, h⟩ := except_bind_ok.mp h
    rw [← except_pure_ok.mp h] at hi
    rcases List.mem_cons.mp hi with rfl | hi
    · split at hj
      · cases hj
        exact ⟨c, List.mem_cons_self, ‹_›⟩
      · cases hj
    · obtain ⟨d, hd, hplace⟩ := ih hjs hi
      exact ⟨d, List.mem_cons_of_mem c hd, hplace⟩

/-- Whether a statement leaves the row numbers alone: none of the columns that it assigns has them.
-/
def SparesNumbers (s : Store) : Command → Prop
  | .update name assigned _ | .upsert name _ _ assigned =>
    ∀ t, s.table name = .ok t → ∀ i, t.numberPlace? = some i → ∀ c ∈ assigned, t.place? c ≠ some i
  | _ => True

/-- A store stays regular when a row is inserted or updated. -/
lemma upsert_isRegular (hs : s.IsRegular P) (hvalues : ∀ x ∈ values, x.isNaN = false)
    {keys updated : List String} (hspares : s.SparesNumbers (.upsert name columns keys updated))
    (h : s.upsert name columns keys updated values = .ok s') : s'.IsRegular P := by
  obtain ⟨t, places, row, htable, hplaces, hrow, hadded | ⟨chosen, hchange⟩⟩ := upsert_ok h <;>
    obtain ⟨ht, hdeclared⟩ := hs t (mem_of_table htable) <;>
    obtain ⟨hfits, hnew⟩ := fits_makeRow ht hvalues hrow
  · exact hs.checked (ht.insertRow hfits hnew (isUnique_of_checked hadded)) hdeclared hadded
  · refine changeRows_isRegular hs ht hdeclared hchange (fun r hr => ?_) fun _ => rfl
    refine StoredTable.fits_assign (fun x hx => ?_) hr fun i hi hmem => ?_
    · obtain ⟨i, -, rfl⟩ := List.mem_map.mp hx
      exact hfits.isNaN_value i
    · obtain ⟨c, hc, hplace⟩ := mem_of_places hplaces hmem
      exact hspares t htable i hi c hc hplace

/-- A store stays regular when rows are updated. -/
lemma update_isRegular (hs : s.IsRegular P) (hvalues : ∀ x ∈ values, x.isNaN = false)
    {assigned keys : List String} (hspares : s.SparesNumbers (.update name assigned keys)) {n : Nat}
    (h : s.update name assigned keys values = .ok (n, s')) : s'.IsRegular P := by
  obtain ⟨t, places, chosen, htable, hplaces, hchange⟩ := update_ok h
  obtain ⟨ht, hdeclared⟩ := hs t (mem_of_table htable)
  refine changeRows_isRegular hs ht hdeclared hchange (fun r hr => ?_) fun _ => rfl
  refine StoredTable.fits_assign (fun x hx => hvalues x (List.mem_of_mem_take hx)) hr
    fun i hi hmem => ?_
  obtain ⟨c, hc, hplace⟩ := mem_of_places hplaces hmem
  exact hspares t htable i hi c hc hplace

/-- The deletion of the rows that refer to deleted ones leaves the tables regular. -/
lemma cascade_isRegular {n : Nat} {parent : StoredTable} {gone : List StoredRow}
    (hs : s.IsRegular P) : (cascade n s parent gone).IsRegular P := by
  induction n generalizing s parent gone with
  | zero => exact hs
  | succ n ih =>
    rw [cascade]
    refine List.foldlRecOn s.tables _ hs fun s hs child _ => ?_
    split
    · exact hs
    · rename_i t hfound
      rw [List.partition_eq_filter_filter]
      obtain ⟨ht, hdeclared⟩ := hs t (List.mem_of_find?_eq_some hfound)
      dsimp only
      split
      · exact hs
      · exact ih (hs.put (ht.sublist List.filter_sublist) hdeclared)

/-- A store stays regular when rows are deleted. -/
lemma delete_isRegular (hs : s.IsRegular P) {c : Condition} {params : List Datum} {n : Nat}
    (h : s.delete name c params = .ok (n, s')) : s'.IsRegular P := by
  obtain ⟨t, u, kept, htable, rfl, hdeleted⟩ := delete_ok h
  obtain ⟨ht, hdeclared⟩ := hs t (mem_of_table htable)
  have hput := hs.put (ht.sublist (List.filter_sublist (p := kept))) hdeclared
  rcases hdeleted with rfl | ⟨bound, gone, rfl⟩
  · exact hput
  · exact cascade_isRegular hput

/-- A store stays regular when a table is created. -/
lemma createTable_isRegular (hs : s.IsRegular P) {t : Table} (hdeclared : P t)
    (h : s.createTable t = .ok s') : s'.IsRegular P := by
  rcases createTable_cases h with rfl | ⟨htables, hdistinct⟩
  · exact hs
  · intro u hu
    rcases List.mem_append.mp (htables ▸ hu) with hu | hu
    · exact hs u hu
    · obtain rfl := List.mem_singleton.mp hu
      exact ⟨⟨hdistinct, by simp, List.nodup_nil⟩, hdeclared⟩

end Statements

/-- A statement that assigns no row numbers leaves all tables regular. -/
theorem run_isRegular (hs : s.IsRegular P) {statement : Statement}
    (hspares : s.SparesNumbers statement.command)
    (hdeclared : ∀ t, statement.command = .createTable t → P t) {o : Outcome}
    (h : s.run statement = .ok (o, s')) : s'.IsRegular P := by
  have hvalues : ∀ x ∈ statement.params.map Cell.toDatum, x.isNaN = false :=
    List.forall_mem_map.mpr fun c _ => Datum.isNaN_toDatum c
  have heffect := effect_of_run h
  generalize statement.command = command at heffect hspares hdeclared
  cases heffect with
  | read h => exact h ▸ hs
  | delete h => exact delete_isRegular hs h
  | insert h => exact insert_isRegular hs hvalues h
  | upsert h => exact upsert_isRegular hs hvalues hspares h
  | update h => exact update_isRegular hs hvalues hspares h
  | createTable h => exact createTable_isRegular hs (hdeclared _ rfl) h
  | createIndex h =>
    intro t ht
    exact hs t (tables_of_createIndex h ▸ ht)

end Store

end TypedSql
