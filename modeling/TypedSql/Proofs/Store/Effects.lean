import Mathlib.Tactic.SplitIfs
import TypedSql.Proofs.Computation
import TypedSql.Proofs.Store.Names
import TypedSql.Store.Run

/-!
# Effects of statements

A statement that succeeds leaves the store as it is, puts a table with other rows into the place of
one, or creates a table or an index. This file says so once for each statement, so that what holds
of a store after a statement follows from what holds of the tables that are put into it.

## Main definitions

* `Store.Effect` — what a statement does to a store.

## Main results

* `Store.table_put` — a table that is put into the place of one is found.
* `Store.insert_ok`, `Store.changeRows_ok`, `Store.upsert_ok`, `Store.update_ok`,
  `Store.delete_ok` — what the statements put into a store.
* `Store.effect_of_run` — every statement that succeeds has an effect.
-/

set_option autoImplicit false

namespace TypedSql.Store

variable {s s' : Store} {t u : StoredTable} {name : String}

/-! ## Tables of a store -/

/-- A table that is looked up is found. -/
lemma findTable?_of_table (h : s.table name = .ok t) : findTable? s.tables name = some t := by
  unfold table findTable at h
  split at h <;> cases h
  assumption

/-- A table that is looked up is in the store. -/
lemma mem_of_table (h : s.table name = .ok t) : t ∈ s.tables :=
  List.mem_of_find?_eq_some (findTable?_of_table h)

/-- A table that is looked up has the name in question. -/
lemma sameName_of_table (h : s.table name = .ok t) : sameName t.name name = true :=
  List.find?_some (p := fun t : StoredTable => sameName t.name name) (findTable?_of_table h)

/-- A table that takes the place of one of its name is found. -/
theorem table_put (htable : s.table name = .ok t) (hu : u.name = t.name) :
    (s.put u).table name = .ok u := by
  have ht := sameName_of_table htable
  -- the new table has the name if and only if the one in its place has it
  have hname (w : StoredTable) :
      sameName (if sameName w.name u.name then u else w).name name = sameName w.name name := by
    split
    · rename_i hw
      rw [sameName_iff, hu] at hw
      rw [hu, ht, eq_comm, sameName_iff, hw, ← sameName_iff, ht]
    · rfl
  have hfound : findTable? (s.put u).tables name = some u := by
    simp only [findTable?, put, List.find?_map, Function.comp_def, hname]
    have hfind : s.tables.find? (fun w => sameName w.name name) = some t :=
      findTable?_of_table htable
    rw [hfind, Option.map_some, hu, if_pos (sameName_self _)]
  rw [table, findTable, hfound]

/-- A check that passes leaves the store as it is. -/
lemma eq_of_checked (h : s.checked t = .ok s') : s' = s := by
  unfold checked at h
  split at h
  · cases h
  · split at h
    · cases h
    · exact (Except.ok.inj h).symm

/-- A check passes only if the rows of the table are unique. -/
lemma isUnique_of_checked (h : s.checked t = .ok s') : s.isUnique t = true := by
  unfold checked at h
  split at h
  · cases h
  · rename_i hunique
    simpa using hunique

/-! ## One statement at a time -/

section Statements

variable {columns : List String} {values : List Datum}

/-- A new row has places for its columns and no NULL where there may be none. -/
lemma makeRow_ok {r : StoredRow} (h : makeRow t columns values = .ok r) :
    ∃ places, t.places columns = .ok places ∧ t.newRow places values = .ok r ∧
      t.nullFault? r = none := by
  unfold makeRow at h
  split at h
  · cases h
  · obtain ⟨places, hplaces, h⟩ := except_bind_ok.mp h
    obtain ⟨row, hrow, h⟩ := except_bind_ok.mp h
    split at h
    · cases h
    · rename_i hnull
      rw [← except_pure_ok.mp h]
      exact ⟨places, hplaces, hrow, hnull⟩

/-- An insertion adds a row. -/
theorem insert_ok {n : Int} (h : s.insert name columns values = .ok (n, s')) :
    ∃ t r, s.table name = .ok t ∧ makeRow t columns values = .ok r ∧ r.number = n ∧
      (s.put (t.insertRow r)).checked (t.insertRow r) = .ok s' := by
  obtain ⟨t, htable, h⟩ := except_bind_ok.mp h
  obtain ⟨-, -, h⟩ := except_bind_ok.mp h
  obtain ⟨r, hrow, h⟩ := except_bind_ok.mp h
  obtain ⟨s₁, hchecked, h⟩ := except_bind_ok.mp h
  cases except_pure_ok.mp h
  exact ⟨t, r, htable, hrow, rfl, hchecked⟩

/-- A change of rows puts the changed rows into the place of those that are chosen. -/
theorem changeRows_ok {change : StoredRow → StoredRow} {chosen : StoredRow → Bool}
    (h : s.changeRows t columns change chosen = .ok s') :
    ∃ u, u = { t with rows := t.rows.map fun r => if chosen r then change r else r } ∧
      (s.put u).checked u = .ok s' := by
  obtain ⟨-, -, h⟩ := except_bind_ok.mp h
  dsimp only at h
  split at h
  · cases h
  · exact ⟨_, rfl, h⟩

/-- An upsert adds a row, or gives a row new values in the updated columns. -/
theorem upsert_ok {keys updated : List String}
    (h : s.upsert name columns keys updated values = .ok s') :
    ∃ t places r, s.table name = .ok t ∧ t.places updated = .ok places ∧
      makeRow t columns values = .ok r ∧
      ((s.put (t.insertRow r)).checked (t.insertRow r) = .ok s' ∨
        ∃ chosen, s.changeRows t updated (t.assign places (places.map r.value)) chosen =
          .ok s') := by
  obtain ⟨t, htable, h⟩ := except_bind_ok.mp h
  obtain ⟨-, -, h⟩ := except_bind_ok.mp h
  obtain ⟨keyPlaces, -, h⟩ := except_bind_ok.mp h
  obtain ⟨places, hplaces, h⟩ := except_bind_ok.mp h
  split at h
  · cases h
  · obtain ⟨r, hrow, h⟩ := except_bind_ok.mp h
    refine ⟨t, places, r, htable, hplaces, hrow, ?_⟩
    split at h
    · exact .inl h
    · exact .inr ⟨_, h⟩

/-- An update gives rows new values in the assigned columns. -/
theorem update_ok {assigned keys : List String} {n : Nat}
    (h : s.update name assigned keys values = .ok (n, s')) :
    ∃ t places chosen, s.table name = .ok t ∧ t.places assigned = .ok places ∧
      s.changeRows t assigned (t.assign places (values.take assigned.length)) chosen =
        .ok s' := by
  obtain ⟨t, htable, h⟩ := except_bind_ok.mp h
  obtain ⟨places, hplaces, h⟩ := except_bind_ok.mp h
  obtain ⟨keyPlaces, -, h⟩ := except_bind_ok.mp h
  obtain ⟨s₁, hchange, h⟩ := except_bind_ok.mp h
  cases except_pure_ok.mp h
  exact ⟨t, places, _, htable, hplaces, hchange⟩

/-- A deletion leaves some rows of a table, and then deletes those that refer to others. -/
theorem delete_ok {c : Condition} {n : Nat} (h : s.delete name c values = .ok (n, s')) :
    ∃ t u kept, s.table name = .ok t ∧ u = { t with rows := t.rows.filter kept } ∧
      (s' = s.put u ∨ ∃ bound gone, s' = cascade bound (s.put u) u gone) := by
  obtain ⟨t, htable, h⟩ := except_bind_ok.mp h
  obtain ⟨-, -, h⟩ := except_bind_ok.mp h
  obtain ⟨gone, -, h⟩ := except_bind_ok.mp h
  dsimp only at h
  obtain ⟨s₁, hchecked, h⟩ := except_bind_ok.mp h
  cases except_pure_ok.mp h
  refine ⟨t, _, fun r => !gone.any (·.number == r.number), htable, rfl, ?_⟩
  rw [eq_of_checked hchecked]
  split
  · exact .inr ⟨_, _, rfl⟩
  · exact .inl rfl

end Statements

/-! ## All statements -/

/-- What a command with some values does to a store. -/
inductive Effect (s : Store) (values : List Datum) (s' : Store) : Command → Prop
  /-- The store is left as it is. -/
  | read {c : Command} (h : s' = s) : Effect s values s' c
  | delete {table : String} {c : Condition} {order : List OrderTerm} {n : Nat}
      (h : s.delete table c values = .ok (n, s')) :
      Effect s values s' (.filter .delete table c order)
  | insert {table : String} {columns : List String} {n : Int}
      (h : s.insert table columns values = .ok (n, s')) : Effect s values s' (.insert table columns)
  | upsert {table : String} {columns keys updated : List String}
      (h : s.upsert table columns keys updated values = .ok s') :
      Effect s values s' (.upsert table columns keys updated)
  | update {table : String} {assigned keys : List String} {n : Nat}
      (h : s.update table assigned keys values = .ok (n, s')) :
      Effect s values s' (.update table assigned keys)
  | createTable {t : Table} (h : s.createTable t = .ok s') : Effect s values s' (.createTable t)
  | createIndex {table column : String} {index : Index}
      (h : s.createIndex table column index = .ok s') :
      Effect s values s' (.createIndex table column index)

/-- Every statement that succeeds has an effect. -/
theorem effect_of_run {statement : Statement} {o : Outcome} (h : s.run statement = .ok (o, s')) :
    Effect s (statement.params.map Cell.toDatum) s' statement.command := by
  obtain ⟨command, params⟩ := statement
  cases command with
  | filter operation name c order =>
    cases operation with
    | find | findOne | existence =>
      obtain ⟨rows, -, h⟩ := except_bind_ok.mp h
      cases except_pure_ok.mp h
      exact .read rfl
    | delete =>
      obtain ⟨⟨n, s₁⟩, hdelete, h⟩ := except_bind_ok.mp h
      cases except_pure_ok.mp h
      exact .delete hdelete
  | insert name columns =>
    obtain ⟨⟨n, s₁⟩, hinsert, h⟩ := except_bind_ok.mp h
    cases except_pure_ok.mp h
    exact .insert hinsert
  | upsert name columns keys updated =>
    obtain ⟨s₁, hupsert, h⟩ := except_bind_ok.mp h
    cases except_pure_ok.mp h
    exact .upsert hupsert
  | update name assigned keys =>
    obtain ⟨⟨n, s₁⟩, hupdate, h⟩ := except_bind_ok.mp h
    cases except_pure_ok.mp h
    exact .update hupdate
  | createTable t =>
    obtain ⟨s₁, hcreate, h⟩ := except_bind_ok.mp h
    cases except_pure_ok.mp h
    exact .createTable hcreate
  | createIndex table column index =>
    obtain ⟨s₁, hcreate, h⟩ := except_bind_ok.mp h
    cases except_pure_ok.mp h
    exact .createIndex hcreate

/-- The creation of a table leaves the tables, or adds the table without rows; then its columns have
different names. -/
lemma createTable_cases {t : Table} (h : s.createTable t = .ok s') :
    s' = s ∨ s'.tables = s.tables ++ [{ declared := t }] ∧
      hasSameNames (t.columns.map (·.name)) = false := by
  unfold createTable at h
  dsimp only at h
  split at h
  · cases h
  · split_ifs at h with hinternal hfound htaken hsame
    · exact .inl (Except.ok.inj h).symm
    · rw [← Except.ok.inj h]
      exact .inr ⟨rfl, by simpa using hsame⟩

/-- The creation of an index leaves the tables. -/
lemma tables_of_createIndex {column : String} {index : Index}
    (h : s.createIndex name column index = .ok s') : s'.tables = s.tables := by
  obtain ⟨t, -, h⟩ := except_bind_ok.mp h
  dsimp only at h
  -- of the outcomes that are no errors, one leaves the store and one adds an index
  split_ifs at h <;> first
    | cases h; done
    | rw [← except_pure_ok.mp h]

end TypedSql.Store
