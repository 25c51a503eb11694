import Mathlib.Tactic.MkIffOfInductiveProp
import TypedSql.Database
import TypedSql.Proofs.Schema.Reachable
import TypedSql.Proofs.Store.Names

/-!
# Which indexes are created

A database creates tables one after another, each with its indexes, and passes over an index whose
name is taken. So of several declared indexes of one name only the first is created, and a unique
column whose index comes later is not kept unique. This file shows that all indexes are created, in
whatever order the tables come, if and only if no two of them have the same name, and says for which
tables and columns this is so.

## Main definitions

* `TableType.indexes` — the indexes that a declaration asks for.
* `Store.Admits` — the store has no other reason to refuse one of some tables.
* `IndexesApart` — no indexed columns of two tables have one name when they are joined to it.
* `Database.createTables` — creates tables one after another.

## Main results

* `Database.createTable_ok` — what the creation of one table changes.
* `Database.createTables_ok` — which indexes there are after the creation of some tables.
* `Database.createTables_indexes_iff` — when all declared indexes are created.
-/

set_option autoImplicit false

namespace TypedSql

/-! ## Declared indexes -/

/-- The index of a sort on a column. -/
def indexOn (table column : String) (k : Index) : StoredIndex :=
  ⟨Command.indexName table column k, table, column, k == .unique⟩

/-- The indexes that the columns of a table ask for. -/
def storedIndexes (table : String) (columns : List Column) : List StoredIndex :=
  columns.filterMap fun c => c.index.map (indexOn table c.name)

/-- The indexes that a declaration asks for. -/
def TableType.indexes (t : TableType) : List StoredIndex := storedIndexes t.name t.columns

/-- The indexes of columns are those that the columns ask for. -/
lemma mem_storedIndexes {table : String} {columns : List Column} {i : StoredIndex} :
    i ∈ storedIndexes table columns ↔
      ∃ c ∈ columns, ∃ k, c.index = some k ∧ indexOn table c.name k = i := by
  simp only [storedIndexes, List.mem_filterMap, Option.map_eq_some_iff]

/-! ## One index after another -/

/-- An index after the others, unless one of them has its name. -/
def addIndex (is : List StoredIndex) (i : StoredIndex) : List StoredIndex :=
  if is.any fun j => sameName j.name i.name then is else is ++ [i]

section AddIndex

variable {is js : List StoredIndex}

/-- An index that is added removes none. -/
lemma subset_addIndex (i : StoredIndex) : is ⊆ addIndex is i := by
  unfold addIndex
  split
  · exact List.Subset.refl _
  · exact List.subset_append_left _ _

/-- Adding an index adds no other. -/
lemma addIndex_subset (i : StoredIndex) : addIndex is i ⊆ i :: is := by
  unfold addIndex
  split
  · exact List.subset_cons_self _ _
  · simp [List.append_subset]

/-- An index that is added is there, unless another one has its name. -/
lemma mem_addIndex {i : StoredIndex} (h : ∀ j ∈ is, sameName j.name i.name = true → j = i) :
    i ∈ addIndex is i := by
  unfold addIndex
  split
  · rename_i hany
    obtain ⟨j, hj, hname⟩ := List.any_eq_true.mp hany
    exact h j hj hname ▸ hj
  · exact List.mem_append_right _ List.mem_cons_self

/-- Indexes whose names are told apart stay so when one is added. -/
lemma pairwise_addIndex {i : StoredIndex}
    (h : is.Pairwise fun i j => sameName i.name j.name = false) :
    (addIndex is i).Pairwise fun i j => sameName i.name j.name = false := by
  unfold addIndex
  split
  · exact h
  · rename_i hany
    refine List.pairwise_append.mpr ⟨h, List.pairwise_singleton _ _, fun j hj k hk => ?_⟩
    obtain rfl := List.mem_singleton.mp hk
    simpa using fun hname => hany (List.any_eq_true.mpr ⟨j, hj, hname⟩)

/-- Indexes that are added remove none. -/
lemma subset_addIndexes (js : List StoredIndex) : is ⊆ js.foldl addIndex is := by
  induction js generalizing is with
  | nil => exact List.Subset.refl _
  | cons j js ih => exact List.Subset.trans (subset_addIndex j) ih

/-- Adding indexes adds no others. -/
lemma addIndexes_subset (js : List StoredIndex) : js.foldl addIndex is ⊆ is ++ js := by
  induction js generalizing is with
  | nil => simp
  | cons j js ih =>
    have hadded : addIndex is j ⊆ is ++ j :: js :=
      List.Subset.trans (addIndex_subset j) (by simp [List.cons_subset])
    exact List.Subset.trans ih (List.append_subset.mpr ⟨hadded, by simp⟩)

/-- Indexes whose names are told apart stay so when others are added. -/
lemma pairwise_addIndexes (js : List StoredIndex)
    (h : is.Pairwise fun i j => sameName i.name j.name = false) :
    (js.foldl addIndex is).Pairwise fun i j => sameName i.name j.name = false := by
  induction js generalizing is with
  | nil => exact h
  | cons j js ih => exact ih (pairwise_addIndex h)

/-- Indexes that are told apart by their names are all there in the end. -/
lemma mem_addIndexes {all : List StoredIndex}
    (h : ∀ i ∈ all, ∀ j ∈ all, sameName i.name j.name = true → i = j) (his : is ⊆ all)
    (hjs : js ⊆ all) : js ⊆ js.foldl addIndex is := by
  induction js generalizing is with
  | nil => exact List.nil_subset _
  | cons j js ih =>
    obtain ⟨hj, hjs⟩ := List.cons_subset.mp hjs
    have hadded : addIndex is j ⊆ all :=
      List.Subset.trans (addIndex_subset j) (List.cons_subset.mpr ⟨hj, his⟩)
    refine List.cons_subset.mpr ⟨?_, ih hadded hjs⟩
    exact subset_addIndexes js (mem_addIndex fun k hk => h k (his hk) j hj)

/-- All of some indexes are there after they were added, if and only if they are told apart by their
names. -/
lemma subset_addIndexes_iff (js : List StoredIndex) : js ⊆ js.foldl addIndex [] ↔
    ∀ i ∈ js, ∀ j ∈ js, sameName i.name j.name = true → i = j := by
  constructor
  · exact fun h i hi j hj => eq_of_sameName (pairwise_addIndexes js .nil) (h hi) (h hj)
  · exact fun h => mem_addIndexes h (List.nil_subset _) (List.Subset.refl _)

end AddIndex

/-! ## What a store admits -/

/-- Whether the store has none of the names of a table and of its indexes for itself, and tells its
columns apart. -/
@[mk_iff]
structure TableType.IsUsable (t : TableType) : Prop where
  words : ∀ n ∈ t.name :: t.columns.map (·.name), Store.isReserved n = false
  distinct : Store.hasSameNames (t.columns.map (·.name)) = false
  table : Store.isInternal t.name = false
  indexes : ∀ i ∈ t.indexes, Store.isInternal i.name = false

/-- Whether some tables can be created in a store, apart from their indexes: they are valid and
usable, no two tables have the same name, and no table has the name of an index. -/
@[mk_iff]
structure Store.Admits (s : Store) (types : List TableType) : Prop where
  valid : ∀ t ∈ types, t.IsValid
  usable : ∀ t ∈ types, t.IsUsable
  distinct : (s.tables.map (·.name) ++ types.map (·.name)).Pairwise fun n m =>
    sameName n m = false
  apart : ∀ i ∈ s.indexes ++ types.flatMap (·.indexes),
    ∀ n ∈ s.tables.map (·.name) ++ types.map (·.name), sameName n i.name = false

instance (t : TableType) : Decidable t.IsValid :=
  inferInstanceAs (Decidable (Fault.ofDeclaration? t.name t.columns = none))

instance (t : TableType) : Decidable t.IsUsable := decidable_of_iff _ t.isUsable_iff.symm

instance (s : Store) (types : List TableType) : Decidable (s.Admits types) :=
  decidable_of_iff _ (s.admits_iff types).symm

/-- What a store admits does not depend on the order. -/
lemma Store.Admits.perm {s : Store} {types order : List TableType} (h : s.Admits types)
    (horder : order.Perm types) : s.Admits order where
  valid t ht := h.valid t (horder.mem_iff.mp ht)
  usable t ht := h.usable t (horder.mem_iff.mp ht)
  distinct := by
    have hnames := (horder.map (·.name)).append_left (s.tables.map (·.name))
    exact (hnames.pairwise_iff fun hnm => (sameName_comm _ _).trans hnm).mpr h.distinct
  apart i hi n hn := by
    have hnames := (horder.map (·.name)).append_left (s.tables.map (·.name))
    have hindexes := (horder.flatMap_right (·.indexes)).append_left s.indexes
    exact h.apart i (hindexes.mem_iff.mp hi) n (hnames.mem_iff.mp hn)

namespace Store

/-- A table whose name is told apart from all others is not found. -/
lemma findTable?_eq_none {tables : List StoredTable} {name : String}
    (h : ∀ n ∈ tables.map (·.name), sameName n name = false) : findTable? tables name = none := by
  simpa [findTable?] using h

/-- A table that is admitted is new. -/
lemma Admits.findTable?_eq_none {s : Store} {t : TableType} {types : List TableType}
    (h : s.Admits (t :: types)) : findTable? s.tables t.name = none := by
  refine Store.findTable?_eq_none fun n hn => ?_
  exact (List.pairwise_append.mp h.distinct).2.2 n hn t.name (by simp)

/-- A table that is admitted is created. -/
lemma createTable_ok {s : Store} {table : Table} {t : TableType} (htable : t.table = .ok table)
    {types : List TableType} (h : s.Admits (t :: types)) :
    s.createTable table = .ok { s with tables := s.tables ++ [{ declared := table }] } := by
  obtain ⟨hname, hcolumns⟩ := TableType.table_ok_iff.mp htable
  have husable := h.usable t List.mem_cons_self
  have hwords : (t.name :: t.columns.map (·.name)).find? isReserved = none := by
    simpa using husable.words
  have hindexes : (s.indexes.any fun i => sameName i.name t.name) = false := by
    rw [List.any_eq_false]
    intro i hi
    rw [sameName_comm, h.apart i (List.mem_append_left _ hi) t.name (by simp)]
    exact Bool.false_ne_true
  simp [createTable, hname, hcolumns, hwords, h.findTable?_eq_none, hindexes, husable.table,
    husable.distinct]

/-- The index of a column of an empty table is created, unless its name is taken. -/
lemma createIndex_ok {s : Store} {t : StoredTable} (hrows : t.rows = [])
    (htable : s.table t.name = .ok t) {c : Column} (hc : c ∈ t.declared.columns) {k : Index}
    (hinternal : isInternal (Command.indexName t.name c.name k) = false)
    (hfree : findTable? s.tables (Command.indexName t.name c.name k) = none) :
    s.createIndex t.name c.name k =
      .ok { s with indexes := addIndex s.indexes (indexOn t.name c.name k) } := by
  have hplace : (t.place? c.name).isSome = true := by
    rw [StoredTable.place?, List.findIdx?_isSome]
    exact List.any_eq_true.mpr ⟨c, hc, sameName_self _⟩
  have hunique : ∀ s : Store, s.isUnique t = true := fun s => by
    simp [isUnique, hrows, StoredTable.distinctOn]
  obtain ⟨place, hplace⟩ := Option.isSome_iff_exists.mp hplace
  by_cases htaken :
      (s.indexes.any fun i => sameName i.name (Command.indexName t.name c.name k)) = true
  · simp [createIndex, addIndex, indexOn, htable, hinternal, hfree, htaken, bind, Except.bind, pure,
      Except.pure]
  · simp [createIndex, addIndex, indexOn, htable, hinternal, hfree, htaken, hplace, hunique, bind,
      Except.bind, pure, Except.pure]

/-! ## The creation of a table -/

/-- Runs commands without parameters one after another. -/
def runAll (s : Store) : List Command → Except StoreError Store
  | [] => .ok s
  | c :: cs => do
    let (_, s) ← s.run ⟨c, []⟩
    s.runAll cs

/-- Commands are run from the first to the last. -/
lemma runAll_cons {s s' : Store} {c : Command} {o : Outcome} (h : s.run ⟨c, []⟩ = .ok (o, s'))
    (cs : List Command) : s.runAll (c :: cs) = s'.runAll cs := by
  rw [runAll, h]
  rfl

/-- The statement that creates a table does so in the store. -/
lemma run_createTable {s s' : Store} {t : Table} (h : s.createTable t = .ok s') :
    s.run ⟨.createTable t, []⟩ = .ok (.done, s') := by
  simp only [run, h]
  rfl

/-- The statement that creates an index does so in the store. -/
lemma run_createIndex {s s' : Store} {table column : String} {k : Index}
    (h : s.createIndex table column k = .ok s') :
    s.run ⟨.createIndex table column k, []⟩ = .ok (.done, s') := by
  simp only [run, h]
  rfl

/-- The indexes of an empty table are created one after another. -/
lemma runAll_indexes {t : StoredTable} (hrows : t.rows = []) {cs : List Column} {s : Store}
    (hcs : cs ⊆ t.declared.columns) (htable : s.table t.name = .ok t)
    (hfree : ∀ i ∈ storedIndexes t.name cs,
      isInternal i.name = false ∧ findTable? s.tables i.name = none) :
    s.runAll (cs.filterMap t.declared.indexCommand?) =
      .ok { s with indexes := (storedIndexes t.name cs).foldl addIndex s.indexes } := by
  induction cs generalizing s with
  | nil => rfl
  | cons c cs ih =>
    obtain ⟨hc, hcs⟩ := List.cons_subset.mp hcs
    cases hindex : c.index with
    | none =>
      have hcommand : t.declared.indexCommand? c = none := by simp [Table.indexCommand?, hindex]
      have hstored : storedIndexes t.name (c :: cs) = storedIndexes t.name cs := by
        simp [storedIndexes, hindex]
      rw [hstored] at hfree ⊢
      rw [List.filterMap_cons_none hcommand]
      exact ih hcs htable hfree
    | some k =>
      have hcommand : t.declared.indexCommand? c = some (.createIndex t.name c.name k) := by
        simp [Table.indexCommand?, hindex, StoredTable.name]
      have hstored : storedIndexes t.name (c :: cs) =
          indexOn t.name c.name k :: storedIndexes t.name cs := by
        simp [storedIndexes, hindex]
      rw [hstored] at hfree ⊢
      obtain ⟨⟨hinternal, hnone⟩, hfree⟩ := List.forall_mem_cons.mp hfree
      rw [List.filterMap_cons_some hcommand,
        runAll_cons (run_createIndex (createIndex_ok hrows htable hc hinternal hnone))]
      exact ih hcs htable hfree

/-- The store after the creation of a table that it admits. -/
def afterCreation (s : Store) (t : TableType) (table : Table) : Store :=
  { s with
    tables := s.tables ++ [{ declared := table }]
    indexes := t.indexes.foldl addIndex s.indexes }

/-- The table that is created is the first of those that were left. -/
lemma names_afterCreation (s : Store) {t : TableType} {table : Table}
    (htable : t.table = .ok table) (types : List TableType) :
    (s.afterCreation t table).tables.map (·.name) ++ types.map (·.name) =
      s.tables.map (·.name) ++ (t :: types).map (·.name) := by
  simp [afterCreation, StoredTable.name, (TableType.table_ok_iff.mp htable).1]

/-- A new table is found under its name. -/
lemma table_afterCreation {s : Store} {t : TableType} {table : Table}
    (htable : t.table = .ok table) {types : List TableType} (h : s.Admits (t :: types)) :
    findTable (s.tables ++ [{ declared := table }]) table.name = .ok { declared := table } := by
  have hnone : findTable? s.tables table.name = none := by
    rw [(TableType.table_ok_iff.mp htable).1]
    exact h.findTable?_eq_none
  have hfound : findTable? (s.tables ++ [{ declared := table }]) table.name =
      some { declared := table } := by
    unfold findTable? at hnone ⊢
    rw [List.find?_append, hnone, Option.none_or, List.find?_singleton, if_pos]
    exact sameName_self _
  rw [findTable, hfound]

/-- A table that is admitted is created with its indexes.

Proof sketch. The table is new, so it has no rows and is found under its name; then its indexes
come one after another. -/
lemma runAll_creation {s : Store} {t : TableType} {table : Table} (htable : t.table = .ok table)
    {types : List TableType} (h : s.Admits (t :: types)) :
    s.runAll table.creation = .ok (s.afterCreation t table) := by
  obtain ⟨hname, hcolumns⟩ := TableType.table_ok_iff.mp htable
  have hindexes : storedIndexes table.name table.columns = t.indexes := by
    rw [hname, hcolumns, TableType.indexes]
  have hfree : ∀ i ∈ storedIndexes table.name table.columns, isInternal i.name = false ∧
      findTable? (s.tables ++ [{ declared := table }]) i.name = none := by
    rw [hindexes]
    intro i hi
    refine ⟨(h.usable t List.mem_cons_self).indexes i hi, findTable?_eq_none fun n hn => ?_⟩
    refine h.apart i (List.mem_append_right _ (by simp [hi])) n ?_
    rw [← names_afterCreation s htable types]
    exact List.mem_append_left _ hn
  rw [Table.creation, runAll_cons (run_createTable (createTable_ok htable h)), afterCreation,
    ← hindexes]
  exact runAll_indexes (t := { declared := table }) rfl (List.Subset.refl _)
    (table_afterCreation htable h) hfree

/-- What was admitted with a table is admitted after it. -/
lemma Admits.afterCreation {s : Store} {t : TableType} {table : Table}
    (htable : t.table = .ok table) {types : List TableType} (h : s.Admits (t :: types)) :
    (s.afterCreation t table).Admits types where
  valid u hu := h.valid u (List.mem_cons_of_mem t hu)
  usable u hu := h.usable u (List.mem_cons_of_mem t hu)
  distinct := by
    rw [names_afterCreation s htable]
    exact h.distinct
  apart i hi n hn := by
    rw [names_afterCreation s htable] at hn
    refine h.apart i ?_ n hn
    rw [List.flatMap_cons, ← List.append_assoc]
    rcases List.mem_append.mp hi with hi | hi
    · exact List.mem_append_left _ (addIndexes_subset t.indexes hi)
    · exact List.mem_append_right _ hi

end Store

/-! ## The creation of several tables -/

namespace Database

/-- What the store does for the commands of a creation is what the database does. -/
lemma createAll_ok {cs : List Command} {db : Database} {s : Store}
    (h : db.store.runAll cs = .ok s) (hdb : db.registry.IsSound) :
    ∃ r, createAll cs db = (.ok (), ⟨r, s⟩) ∧ r.IsSound := by
  induction cs generalizing db with
  | nil =>
    cases h
    exact ⟨db.registry, rfl, hdb⟩
  | cons c cs ih =>
    obtain ⟨⟨o, s₁⟩, hrun, hrest⟩ := except_bind_ok.mp h
    obtain ⟨r, hcs, hr⟩ :=
      @ih ⟨db.registry.record (.executing c.text none), s₁⟩ hrest hdb
    refine ⟨r, ?_, hr⟩
    have hstore : runOnStore ⟨c, []⟩ { db with
        registry := db.registry.record (.executing c.text none) } =
        (.ok o, ⟨db.registry.record (.executing c.text none), s₁⟩) := by
      rw [runOnStore, hrun]
    rw [createAll, run_bind_of_ok (x := logEvent _) (a := ()) rfl, run_bind_of_ok hstore, hcs]

/-- A table that is admitted is created. -/
theorem createTable_ok {db : Database} (hdb : db.registry.IsSound) {t : TableType}
    {types : List TableType} (h : db.store.Admits (t :: types)) :
    ∃ r table, t.table = .ok table ∧ r.IsSound ∧
      createTable t db = (.ok (), ⟨r, db.store.afterCreation t table⟩) := by
  obtain ⟨table, r₁, hregister⟩ :=
    Registry.register_of_isValid db.registry (h.valid t List.mem_cons_self)
  obtain ⟨htable, hr₁⟩ := Registry.register_ok hdb hregister
  obtain ⟨r₂, hcreate, hr₂⟩ := @createAll_ok _ ⟨r₁, db.store⟩ _
    (Store.runAll_creation htable h) hr₁
  refine ⟨r₂.record (.created t.name), table, htable, hr₂, ?_⟩
  have hcreation :
      withRegistry (Statement.creation t) db = (.ok table.creation, ⟨r₁, db.store⟩) := by
    rw [withRegistry, Statement.creation, run_bind_of_ok hregister]
    rfl
  rw [createTable, run_bind_of_ok hcreation, run_bind_of_ok hcreate]
  rfl

/-- Creates the tables of some types one after another. -/
def createTables (types : List TableType) : DatabaseAction Unit := types.forM createTable

/-- Tables that are admitted are created, and their indexes one after another. -/
theorem createTables_ok {types : List TableType} {db : Database} (hdb : db.registry.IsSound)
    (h : db.store.Admits types) :
    ∃ db', createTables types db = (.ok (), db') ∧
      db'.store.indexes = (types.flatMap (·.indexes)).foldl addIndex db.store.indexes := by
  induction types generalizing db with
  | nil => exact ⟨db, rfl, rfl⟩
  | cons t types ih =>
    obtain ⟨r, table, htable, hr, ht⟩ := createTable_ok hdb h
    obtain ⟨db', htypes, hindexes⟩ :=
      @ih ⟨r, db.store.afterCreation t table⟩ hr (h.afterCreation htable)
    refine ⟨db', ?_, ?_⟩
    · show (createTable t >>= fun _ => createTables types) db = _
      rw [run_bind_of_ok ht, htypes]
    · rw [hindexes, List.flatMap_cons, List.foldl_append]
      rfl

end Database

/-! ## Indexes that are told apart -/

/-- Whether no two columns with indexes of one sort are such that one table's name takes over the
beginning of the other's column. -/
def IndexesApart (types : List TableType) : Prop :=
  ∀ t ∈ types, ∀ c ∈ t.columns, ∀ u ∈ types, ∀ d ∈ u.columns,
    c.index ≠ none → c.index = d.index → ¬ Continues t.name c.name u.name d.name

/-- Names do not clash if each is told apart from those behind it. -/
lemma Store.hasSameNames_eq_false {ns : List String} :
    hasSameNames ns = false ↔ ns.Pairwise fun n m => sameName n m = false := by
  induction ns with
  | nil => simp [hasSameNames]
  | cons n ns ih => simp [hasSameNames, List.any_eq_false, ih]

/-- The indexes of tables that are admitted are told apart by their names if and only if no table's
name takes over the beginning of a column. -/
lemma Store.Admits.indexes_told_apart_iff {s : Store} {types : List TableType}
    (h : s.Admits types) :
    (∀ i ∈ types.flatMap (·.indexes), ∀ j ∈ types.flatMap (·.indexes),
      sameName i.name j.name = true → i = j) ↔ IndexesApart types := by
  simp only [List.mem_flatMap, TableType.indexes, mem_storedIndexes]
  constructor
  · intro hsame t ht c hc u hu d hd hindex hcd hcontinues
    obtain ⟨k, hk⟩ := Option.ne_none_iff_exists'.mp hindex
    have hname : sameName (Command.indexName t.name c.name k)
        (Command.indexName u.name d.name k) = true :=
      Command.sameName_indexName.mpr ⟨rfl, sameName_joined.mpr (.inr (.inl hcontinues))⟩
    have heq := hsame _ ⟨t, ht, c, hc, k, hk, rfl⟩ _ ⟨u, hu, d, hd, k, hcd ▸ hk, rfl⟩ hname
    have htable : t.name = u.name := congrArg StoredIndex.table heq
    have hne := hcontinues.not_sameName
    rw [htable, sameName_self] at hne
    cases hne
  · rintro hapart _ ⟨t, ht, c, hc, k, hk, rfl⟩ _ ⟨u, hu, d, hd, l, hl, rfl⟩ hname
    obtain ⟨rfl, hjoined⟩ := Command.sameName_indexName.mp hname
    have hindex : c.index ≠ none := by simp [hk]
    rcases sameName_joined.mp hjoined with ⟨htable, hcolumn⟩ | hcontinues | hcontinues
    · have htypes := List.pairwise_map.mp (List.pairwise_append.mp h.distinct).2.1
      obtain rfl := eq_of_sameName htypes ht hu htable
      have hcolumns := List.pairwise_map.mp (hasSameNames_eq_false.mp (h.usable t ht).distinct)
      obtain rfl := eq_of_sameName hcolumns hc hd hcolumn
      rfl
    · exact absurd hcontinues (hapart t ht c hc u hu d hd hindex (hk.trans hl.symm))
    · exact absurd hcontinues (hapart u hu d hd t ht c hc (by simp [hl]) (hl.trans hk.symm))

/-- In a database without indexes, all indexes of some tables are created, in whatever order the
tables come, if and only if the indexes are told apart by their names; and this is so if and only if
no table has the name of another one, an underscore and some rest, where an indexed column of the
other has this rest, an underscore and the name of a column of the table with an index of the same
sort.

Proof sketch. The creation of a table that is admitted succeeds and adds each of its indexes whose
name is not taken. So in the end there is one index of each name, and all are there if no two of
them have one name. Two joined names are the same if their parts are, which takes one column of one
table, or if one of the tables' names goes on after the other. -/
theorem Database.createTables_indexes_iff {db : Database} (hdb : db.registry.IsSound)
    (hindexes : db.store.indexes = []) {types : List TableType} (h : db.store.Admits types) :
    ((∀ i ∈ types.flatMap (·.indexes), ∀ j ∈ types.flatMap (·.indexes),
      sameName i.name j.name = true → i = j) ↔ IndexesApart types) ∧
    ∀ order : List TableType, order.Perm types →
      ∃ db', createTables order db = (.ok (), db') ∧
        ((∀ i ∈ types.flatMap (·.indexes), i ∈ db'.store.indexes) ↔ IndexesApart types) := by
  refine ⟨h.indexes_told_apart_iff, fun order horder => ?_⟩
  obtain ⟨db', hcreate, hresult⟩ := createTables_ok hdb (h.perm horder)
  refine ⟨db', hcreate, ?_⟩
  rw [hresult, hindexes, ← h.indexes_told_apart_iff]
  have hmem : ∀ i, i ∈ order.flatMap (·.indexes) ↔ i ∈ types.flatMap (·.indexes) := fun i =>
    (horder.flatMap_right (·.indexes)).mem_iff
  simpa only [List.subset_def, hmem] using
    subset_addIndexes_iff (order.flatMap (·.indexes))

namespace Sample

/-- Users, no two of them with one name of a group. -/
def user : TableType where
  label := "User"
  name := "user"
  columns := [(Column.new "id" (.plain .integer)).asAutoKey,
    (Column.new "group_name" (.plain .text)).indexed .unique]

/-- Groups in a table of a given name, no two of them with one name. -/
def groups (name : String) : TableType where
  label := "Group"
  name := name
  columns := [(Column.new "name" (.plain .text)).indexed .unique]

/-- Users and teams have indexes of different names, so both are created. -/
theorem teams_indexed : ∃ db', Database.createTables [groups "team", user] {} = (.ok (), db') ∧
    ∀ i ∈ [user, groups "team"].flatMap (·.indexes), i ∈ db'.store.indexes := by
  have hadmits : ({} : Database).store.Admits [user, groups "team"] := by decide +kernel
  have hempty : ({} : Database).registry.IsSound := Registry.IsReachable.isSound ⟨[], rfl⟩
  have hiff := Database.createTables_indexes_iff hempty rfl hadmits
  obtain ⟨db', hcreate, hall⟩ := hiff.2 _ (List.Perm.swap user (groups "team") [])
  exact ⟨db', hcreate, hall.mpr (hiff.1.mp (by decide +kernel))⟩

/-- The index of the user groups has the name of that of the users, so it is not created. -/
theorem userGroups_unindexed :
    (groups "user_group").indexes = [⟨"user_group_name_unique", "user_group", "name", true⟩] ∧
      ∃ db', Database.createTables [user, groups "user_group"] {} = (.ok (), db') ∧
        db'.store.indexes = [⟨"user_group_name_unique", "user", "group_name", true⟩] := by
  have hadmits : ({} : Database).store.Admits [user, groups "user_group"] := by decide +kernel
  have hempty : ({} : Database).registry.IsSound := Registry.IsReachable.isSound ⟨[], rfl⟩
  obtain ⟨db', hcreate, hindexes⟩ := Database.createTables_ok hempty hadmits
  have hdeclared : [user, groups "user_group"].flatMap (·.indexes) =
      [⟨"user_group_name_unique", "user", "group_name", true⟩,
        ⟨"user_group_name_unique", "user_group", "name", true⟩] := rfl
  rw [hdeclared] at hindexes
  exact ⟨rfl, db', hcreate, hindexes.trans (by simp [addIndex, sameName_self])⟩

end Sample

end TypedSql
