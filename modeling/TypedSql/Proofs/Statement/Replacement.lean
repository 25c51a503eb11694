import TypedSql.Proofs.Statement.Writes
import TypedSql.Proofs.Store.KeyedWrites

/-!
# The replacement of a row by its key

An update and an upsert of a database are meant for the row with the key of the given one. This file
shows when they replace it: if and only if no cell of the key is stored as NULL, and no other cell
is whose column does not admit it. Not every row that the columns accept is of this sort, as a
column of the key may be nullable, and a real that is not a number is stored as NULL. With a NULL in
its key a row is not found, although it is there: an update changes nothing, and an upsert adds the
row once more.

## Main definitions

* `Store.Permits` — nothing but the new row keeps the store from replacing a row.
* `Database.Addresses` — a database with the row that a write is meant for.

## Main results

* `Table.updateStatement_placed`, `Table.upsertStatement_placed` — the cells of the statements.
* `Database.writes_replace_iff` — when both writes replace the row.
-/

set_option autoImplicit false

namespace TypedSql

/-! ## The statements -/

namespace Table

variable (table : Table) {row : List Cell}

/-- The columns with their cells, as a statement lists them. -/
lemma map_filter_zip {α : Type} (columns : List Column) (test : Column → Bool)
    (f : Column × Cell → α) : ((columns.zip row).filter fun (c, _) => test c).map f =
      ((placed columns row).filter fun p => test p.column).map fun p => f (p.column, p.cell) := by
  rw [← map_filter_placed, List.map_map]
  rfl

/-- An update lists the cells outside the key and then those of the key. -/
theorem updateStatement_placed (hlength : row.length = table.columns.length)
    (hkey : ∃ c ∈ table.columns, c.primaryKey = true)
    (hplain : ∃ c ∈ table.columns, c.primaryKey = false) :
    table.updateStatement row = .ok
      ⟨.update table.name ((otherCells table.columns row).map (·.column.name))
          ((keyCells table.columns row).map (·.column.name)),
        (otherCells table.columns row).map (·.cell) ++
          (keyCells table.columns row).map (·.cell)⟩ := by
  have hassigned := (filter_zip_ne_nil_iff hlength (!·.primaryKey)).mpr (by simpa using hplain)
  rw [updateStatement_eq table row hkey hlength, if_neg hassigned]
  simp only [map_filter_zip table.columns (!·.primaryKey),
    map_filter_zip table.columns (·.primaryKey)]
  rfl

/-- An upsert lists all cells. -/
theorem upsertStatement_placed (hlength : row.length = table.columns.length)
    (hkey : ∃ c ∈ table.columns, c.primaryKey = true) :
    table.upsertStatement row = .ok
      ⟨.upsert table.name (table.columns.map (·.name))
          ((keyCells table.columns row).map (·.column.name))
          ((otherCells table.columns row).map (·.column.name)),
        (placed table.columns row).map (·.cell)⟩ := by
  have hcells : (table.columns.zip row).map (·.2) = (placed table.columns row).map (·.cell) := by
    rw [← map_placed, List.map_map]
    rfl
  have hnames : (table.columns.zip row).map (·.1.name) = table.columns.map (·.name) := by
    have hcolumns := congrArg (List.map (·.name)) (List.map_fst_zip hlength.ge)
    rwa [List.map_map] at hcolumns
  rw [upsertStatement, requireKey_eq, if_pos hkey, pairCells_of_length hlength]
  simp only [bind, Except.bind, pure, Except.pure, hcells, hnames, keyNames, keys_eq hlength,
    map_filter_zip table.columns (!·.primaryKey), List.map_map]
  rfl

end Table

/-! ## Databases -/

/-- Whether nothing but the new row itself keeps a store from replacing a row: foreign keys can be
followed, the constraints hold afterwards, and there is a number for a new row. -/
structure Store.Permits (s : Store) (g : Target) (row : List Cell) : Prop where
  references : s.checkReferences g.table g.names = .ok ()
  constraints : (s.put (g.replaced row)).checked (g.replaced row) = .ok (s.put (g.replaced row))
  room : g.table.numberPlace? = none → ∃ n, g.table.nextNumber = .ok n

namespace Database

/-- Whether a table of a database, which has a key and other columns, has the row that a write of a
row is meant for. -/
structure Addresses (db : Database) (t : TableType) (row : List Cell) (g : Target) : Prop where
  registry : db.registry.IsReachable
  declared : t.table = .ok g.table.declared
  key : ∃ c ∈ t.columns, c.primaryKey = true
  plain : ∃ c ∈ t.columns, c.primaryKey = false
  stored : db.store.table t.name = .ok g.table
  meant : g.IsMeant row
  permitted : db.store.Permits g row

/-- A statement that is logged and run changes the store if the store runs it. -/
lemma execute_ok_iff {statement : Statement} {db : Database} {o : Outcome} {s : Store} :
    (∃ r, execute statement db = (.ok o, ⟨r, s⟩)) ↔ db.store.run statement = .ok (o, s) := by
  have hexecute : execute statement db = runOnStore statement
      { db with
        registry :=
          db.registry.record (.executing statement.text (some statement.params.length)) } :=
    run_bind_of_ok rfl
  rw [hexecute, runOnStore]
  cases db.store.run statement with
  | ok result =>
    constructor
    · rintro ⟨r, ⟨⟩⟩
      rfl
    · rintro ⟨⟩
      exact ⟨_, rfl⟩
  | error e =>
    constructor
    · rintro ⟨r, ⟨⟩⟩
    · rintro ⟨⟩

/-- A write that is assembled changes the store if the store runs its statement. -/
lemma write_ok_iff {α : Type} {assemble : Registering Statement} {statement : Statement}
    {db : Database} {registry : Registry} (h : assemble db.registry = (.ok statement, registry))
    {answer : Outcome → α} {a : α} {s : Store} :
    (∃ r, (withRegistry assemble >>= fun statement => execute statement >>= fun o =>
        pure (answer o) : DatabaseAction α) db = (.ok a, ⟨r, s⟩)) ↔
      ∃ o, db.store.run statement = .ok (o, s) ∧ answer o = a := by
  have hstatement : withRegistry assemble db = (.ok statement, ⟨registry, db.store⟩) := by
    rw [withRegistry, h]
    rfl
  have hexecute (o : Outcome) : (∃ r, execute statement ⟨registry, db.store⟩ = (.ok o, ⟨r, s⟩)) ↔
      db.store.run statement = .ok (o, s) := execute_ok_iff
  rw [run_bind_of_ok hstatement]
  simp only [run_bind_ok, run_pure_ok, ← hexecute]
  constructor
  · rintro ⟨r, o, db', hrun, ha, rfl⟩
    exact ⟨o, ⟨r, hrun⟩, ha⟩
  · rintro ⟨o, ⟨r, hrun⟩, ha⟩
    exact ⟨r, o, _, hrun, ha, rfl⟩

variable {db : Database} {t : TableType} {row : List Cell} {g : Target}

/-- The statements for a valid table type are those for its table. -/
lemma register_statement (hr : db.registry.IsReachable) {table : Table}
    (htable : t.table = .ok table) {f : Table → Except Error Statement} {statement : Statement}
    (h : f table = .ok statement) :
    ∃ r, (Registry.register t >>= fun table => liftM (f table) : Registering Statement)
      db.registry = (.ok statement, r) := by
  obtain ⟨r, hregister, -⟩ := Registry.register_eq hr.isSound t
  rw [htable] at hregister
  exact ⟨r, by rw [run_bind_of_ok hregister, h]; rfl⟩

/-- An update of the row that is meant replaces it if and only if the new row can replace the one
with its key. -/
lemma update_replaces_iff (h : db.Addresses t row g) :
    (∃ r, update t row db = (.ok 1, ⟨r, db.store.put (g.replaced row)⟩)) ↔
      CanReplace t.columns row := by
  obtain ⟨hname, hcolumns⟩ := TableType.table_ok_iff.mp h.declared
  obtain ⟨registry, hregister⟩ := register_statement (f := (·.updateStatement row)) h.registry
    h.declared (g.table.declared.updateStatement_placed h.meant.accepted.length
      (hcolumns ▸ h.key) (hcolumns ▸ h.plain))
  have hstatement : Statement.update t row db.registry = _ := hregister
  have hstored := h.stored
  rw [← hname] at hstored
  have hupdate := Store.update_ok_iff h.meant hstored h.permitted.references
    (db.store.put (g.replaced row))
  refine (write_ok_iff hstatement).trans ?_
  simp only [Store.run, List.map_append, List.map_map]
  rw [← hcolumns]
  refine Iff.trans ?_ (hupdate.trans (and_iff_left h.permitted.constraints))
  constructor
  · rintro ⟨o, hrun, ho⟩
    obtain ⟨⟨n, s⟩, hupdate, heq⟩ := except_bind_ok.mp hrun
    cases heq
    obtain rfl : n = 1 := ho
    exact hupdate
  · intro hupdate
    exact ⟨.changed 1, except_bind_ok.mpr ⟨_, hupdate, rfl⟩, rfl⟩

/-- An upsert of the row that is meant replaces it if and only if the new row can replace the one
with its key. -/
lemma upsert_replaces_iff (h : db.Addresses t row g) :
    (∃ r, upsert t row db = (.ok (), ⟨r, db.store.put (g.replaced row)⟩)) ↔
      CanReplace t.columns row := by
  obtain ⟨hname, hcolumns⟩ := TableType.table_ok_iff.mp h.declared
  have hkey : ∃ c ∈ g.table.declared.columns, c.primaryKey = true := hcolumns ▸ h.key
  obtain ⟨registry, hregister⟩ := register_statement (f := (·.upsertStatement row)) h.registry
    h.declared (g.table.declared.upsertStatement_placed h.meant.accepted.length hkey)
  have hstatement : Statement.upsert t row db.registry = _ := hregister
  have hstored := h.stored
  rw [← hname] at hstored
  have hupsert := Store.upsert_ok_iff h.meant hkey h.permitted.room hstored
    h.permitted.references
  refine (write_ok_iff hstatement).trans ?_
  simp only [Store.run, List.map_map]
  rw [← hcolumns]
  refine Iff.trans ?_ (hupsert.trans (and_iff_left h.permitted.constraints))
  constructor
  · rintro ⟨o, hrun, -⟩
    obtain ⟨s, hupsert, heq⟩ := except_bind_ok.mp hrun
    cases heq
    exact hupsert
  · intro hupsert
    exact ⟨.done, except_bind_ok.mpr ⟨_, hupsert, rfl⟩, trivial⟩

/-- An update answers that it has changed one row, and replaces the row that is meant, if and only
if no cell of the key is stored as NULL, and no other cell is whose column does not admit it; and so
does an upsert.

Proof sketch. The statements list the cells outside the key and those of the key, each with its
column, and the store finds the columns at their places. If no cell of the key is NULL, the rows
that equal the cells of the key are those that have the key, and those that clash with the stored
form of the key are the same: both tests find the one row that is meant. Its key is already in
stored form, so that the assignment of the other cells makes it the new row, which has no fault if
it has NULL only where its columns admit it. If a cell of the key is NULL, neither test finds a row:
an update changes none, and an upsert adds one. -/
theorem writes_replace_iff (h : db.Addresses t row g) :
    ((∃ r, update t row db = (.ok 1, ⟨r, db.store.put (g.replaced row)⟩)) ↔
      CanReplace t.columns row) ∧
    ((∃ r, upsert t row db = (.ok (), ⟨r, db.store.put (g.replaced row)⟩)) ↔
      CanReplace t.columns row) :=
  ⟨update_replaces_iff h, upsert_replaces_iff h⟩

/-- A database with one table. -/
def single (t : StoredTable) : Database := { store := { tables := [t] } }

/-- The table is found under its name. -/
lemma table_single (t : StoredTable) : (single t).store.table t.name = .ok t := by
  have hfound : findTable? [t] t.name = some t := by
    rw [findTable?, List.find?_singleton, if_pos (sameName_self _)]
  rw [single, Store.table, findTable, hfound]

/-- A table of the same name takes its place. -/
lemma put_single {t u : StoredTable} (h : t.name = u.name) :
    (single t).store.put u = (single u).store := by
  simp [single, Store.put, h, sameName_self]

end Database

namespace Sample

/-- The memberships of two persons in one club. -/
def memberships : StoredTable where
  declared := ⟨"membership", membership.columns, by decide +kernel⟩
  rows := [⟨1, [.text "member", .int 3, .int 1999, .int 7]⟩,
    ⟨2, [.text "member", .int 3, .null, .int 8]⟩]

/-- The first of them. -/
def firstMembership : Target where
  table := memberships
  before := []
  row := ⟨1, [.text "member", .int 3, .int 1999, .int 7]⟩
  after := [⟨2, [.text "member", .int 3, .null, .int 8]⟩]
  rows_eq := rfl

/-- The same person as the chair. -/
def chair : List Cell := [.text "chair", .int 3, .null, .int 7]

/-- The memberships that are stored are regular. -/
lemma memberships_isRegular : memberships.IsRegular where
  distinct := by decide +kernel
  fits r hr := by
    have hnone : memberships.numberPlace? = none := rfl
    rcases List.mem_pair.mp hr with rfl | rfl
    all_goals
      refine ⟨rfl, fun i c hc => ?_, fun i hi => by rw [hnone] at hi; cases hi⟩
      obtain ⟨hi, rfl⟩ := List.getElem?_eq_some_iff.mp hc
      match i, hi with
      | 0, _ | 1, _ | 2, _ | 3, _ => exact ⟨rfl, rfl⟩
  numbers := by decide +kernel

/-- The new membership is meant for the row with the same key. -/
lemma memberships_addressed :
    (Database.single memberships).Addresses membership chair firstMembership where
  registry := ⟨[], rfl⟩
  declared := TableType.table_ok_iff.mpr ⟨rfl, rfl⟩
  key := by decide
  plain := by decide
  stored := Database.table_single memberships
  meant :=
    { regular := memberships_isRegular
      accepted := ⟨rfl, by decide +kernel⟩
      hasKey := by decide +kernel
      only := by decide +kernel }
  permitted :=
    { references := rfl
      constraints := Store.checked_ok (by decide +kernel) (by decide +kernel)
      room := fun _ => ⟨3, rfl⟩ }

/-- A member becomes the chair of the club, by an update and by an upsert. -/
theorem memberships_replaced :
    (Database.single memberships).Addresses membership chair firstMembership ∧
    (∃ r, Database.update membership chair (Database.single memberships) =
      (.ok 1, ⟨r, (Database.single (firstMembership.replaced chair)).store⟩)) ∧
    (∃ r, Database.upsert membership chair (Database.single memberships) =
      (.ok (), ⟨r, (Database.single (firstMembership.replaced chair)).store⟩)) := by
  have hiff := Database.writes_replace_iff memberships_addressed
  have hcan : CanReplace membership.columns chair :=
    memberships_addressed.meant.accepted.canReplace (by decide) (by simp [chair])
  have hput : (Database.single memberships).store.put (firstMembership.replaced chair) =
      (Database.single (firstMembership.replaced chair)).store := Database.put_single rfl
  rw [hput] at hiff
  exact ⟨memberships_addressed, hiff.1.mpr hcan, hiff.2.mpr hcan⟩

/-- Words with a color, by words that may be missing. -/
def tag : TableType where
  label := "Tag"
  name := "tag"
  columns := [(Column.new "word" (.optional .text)).asKey, .new "color" (.plain .text)]

/-- The table after the insertion of a color without a word. -/
def tags : StoredTable where
  declared := ⟨"tag", tag.columns, by decide +kernel⟩
  rows := [⟨1, [.null, .text "red"]⟩]

/-- Its row. -/
def firstTag : Target where
  table := tags
  before := []
  row := ⟨1, [.null, .text "red"]⟩
  after := []
  rows_eq := rfl

/-- Another color without a word. -/
def blue : List Cell := [.null, .text "blue"]

/-- The tags that are stored are regular. -/
lemma tags_isRegular : tags.IsRegular where
  distinct := by decide +kernel
  fits r hr := by
    have hnone : tags.numberPlace? = none := by decide +kernel
    obtain rfl := List.mem_singleton.mp hr
    refine ⟨rfl, fun i c hc => ?_, fun i hi => by rw [hnone] at hi; cases hi⟩
    obtain ⟨hi, rfl⟩ := List.getElem?_eq_some_iff.mp hc
    match i, hi with
    | 0, _ | 1, _ => exact ⟨rfl, rfl⟩
  numbers := by decide +kernel

/-- The one row without a word is not found by its key: an update changes no row, and an upsert adds
a second row. -/
theorem tags_missed :
    (Database.single tags).Addresses tag blue firstTag ∧
    (Database.update tag blue (Database.single tags)).1 = .ok 0 ∧
    (Database.update tag blue (Database.single tags)).2.store.tables.map (·.rows) =
      [[⟨1, [.null, .text "red"]⟩]] ∧
    (Database.upsert tag blue (Database.single tags)).1 = .ok () ∧
    (Database.upsert tag blue (Database.single tags)).2.store.tables.map (·.rows) =
      [[⟨1, [.null, .text "red"]⟩, ⟨2, [.null, .text "blue"]⟩]] := by
  have haddressed : (Database.single tags).Addresses tag blue firstTag :=
    { registry := ⟨[], rfl⟩
      declared := TableType.table_ok_iff.mpr ⟨rfl, rfl⟩
      key := by decide
      plain := by decide
      stored := Database.table_single tags
      meant :=
        { regular := tags_isRegular
          accepted := ⟨rfl, by decide +kernel⟩
          hasKey := by decide +kernel
          only := by decide +kernel }
      permitted :=
        { references := rfl
          constraints := Store.checked_ok (by decide +kernel) (by decide +kernel)
          room := fun _ => ⟨2, rfl⟩ } }
  refine ⟨haddressed, ?_, ?_, ?_, ?_⟩ <;> decide +kernel

end Sample

end TypedSql
