import TypedSql.Proofs.Schema.Reachable
import TypedSql.Proofs.Statement.WriteCommands

/-!
# What the statements that write a row say

An insertion leaves out the auto-increment key, an upsert names all columns, and an update puts the
key after the other columns. So each of them pairs columns and cells in a way of its own, and lists
its parameters in the order of its text. This file shows that the text of each statement, read back
and filled with the parameters, gives every column the cell of the row that belongs to it.

## Main definitions

* `Statement.Writes` — the text of a statement and its parameters make up a write.
* `TableType.insertion`, `TableType.upsertion`, `TableType.updating` — what is to be written.
* `Statement.IsAssembled` — the outcome of assembling a statement.

## Main results

* `Statement.writes_assembled` — when the three statements are assembled, and what they say.
-/

set_option autoImplicit false

namespace TypedSql

open Text (IsIdentifier)

/-! ## What statements write -/

/-- The text of the statement, its placeholders filled with its parameters, is the given write; and
its placeholders are one, two and so on in the order of the text, one for each parameter. -/
structure Statement.Writes (s : Statement) (w : Write Cell) : Prop where
  reads : (Write.ofText? s.text).bind (Write.fill s.params) = some w
  numbered : Sql.placeholders? s.text = some (List.range' 1 s.params.length)

/-- The names of columns with their cells. -/
def named (cells : List (Column × Cell)) : List (String × Cell) :=
  cells.map fun (c, x) => (c.name, x)

namespace TableType

variable (t : TableType) (row : List Cell)

/-- A new row: the database chooses the auto-increment key, every other column gets its cell. -/
def insertion : Write Cell :=
  .insert t.name (named ((t.columns.zip row).filter fun (c, _) => !c.autoIncrement))

/-- A new row in which every column gets its cell. If its key is taken, the other columns of the row
with that key take over the new values. -/
def upsertion : Write Cell :=
  .upsert t.name (named (t.columns.zip row)) ((t.columns.filter (·.primaryKey)).map (·.name))
    ((t.columns.filter (!·.primaryKey)).map fun c => (c.name, c.name))

/-- New cells for all columns but the key, in the row that has the cells of the key. -/
def updating : Write Cell :=
  .update t.name (named ((t.columns.zip row).filter fun (c, _) => !c.primaryKey))
    (named ((t.columns.zip row).filter fun (c, _) => c.primaryKey))

end TableType

namespace Statement

variable {t : TableType} {table : Table} {row : List Cell} {s : Statement}

/-! ## One statement at a time -/

/-- Columns and the placeholders from a position on are filled with the parameters from there on. -/
lemma fillAll_named (before after : List Cell) (cells : List (Column × Cell)) :
    Write.fillAll (before ++ cells.map (·.2) ++ after)
      ((cells.map (·.1.name)).zip (List.range' (before.length + 1) cells.length)) =
      some (named cells) := by
  have hlength : (cells.map (·.1.name)).length = (cells.map (·.2)).length := by simp
  have hfill := Write.fillAll_range' hlength before after
  rwa [List.length_map, List.zip_map'] at hfill

section Writes

variable {name : String} {cells assigned matched : List (Column × Cell)}
  {keys updated : List Column}

/-- An insertion gives its columns their parameters. -/
lemma writes_insert (hname : IsIdentifier name) (hcells : ∀ p ∈ cells, IsIdentifier p.1.name) :
    Writes ⟨.insert name (cells.map (·.1.name)), cells.map (·.2)⟩ (.insert name (named cells)) := by
  have hcolumns : ∀ c ∈ cells.map (·.1.name), IsIdentifier c := List.forall_mem_map.mpr hcells
  have hfill := fillAll_named [] [] cells
  simp only [List.nil_append, List.append_nil, List.length_nil, Nat.zero_add] at hfill
  constructor
  · rw [text, Command.ofText?_insert hname hcolumns, Option.bind_some, List.length_map, Write.fill,
      hfill, Option.map_some]
  · rw [text, Command.text, Command.pieces,
      (Command.standsApart_insert hname hcolumns).placeholders?_spell,
      Command.placeholdersOf_insertPieces, List.length_map, List.length_map]

/-- An upsert gives its columns their parameters, and each updated column the value that was to be
inserted. -/
lemma writes_upsert (hname : IsIdentifier name) (hcells : ∀ p ∈ cells, IsIdentifier p.1.name)
    (hkeys : ∀ c ∈ keys, IsIdentifier c.name) (hupdated : ∀ c ∈ updated, IsIdentifier c.name) :
    Writes ⟨.upsert name (cells.map (·.1.name)) (keys.map (·.name)) (updated.map (·.name)),
        cells.map (·.2)⟩
      (.upsert name (named cells) (keys.map (·.name)) (updated.map fun c => (c.name, c.name))) := by
  have hcolumns : ∀ c ∈ cells.map (·.1.name), IsIdentifier c := List.forall_mem_map.mpr hcells
  have hkeys : ∀ c ∈ keys.map (·.name), IsIdentifier c := List.forall_mem_map.mpr hkeys
  have hupdated : ∀ c ∈ updated.map (·.name), IsIdentifier c := List.forall_mem_map.mpr hupdated
  have hfill := fillAll_named [] [] cells
  simp only [List.nil_append, List.append_nil, List.length_nil, Nat.zero_add] at hfill
  constructor
  · rw [text, Command.ofText?_upsert hname hcolumns hkeys hupdated, Option.bind_some,
      List.length_map, Write.fill, hfill, Option.map_some, List.map_map]
    rfl
  · have happart := (Command.standsApart_insert hname hcolumns).append_blank
      (Command.standsApart_conflict hkeys hupdated)
    rw [text, Command.text, Command.pieces, happart.placeholders?_spell]
    simp [Command.placeholdersOf_insertPieces, Command.placeholdersOf_conflictPieces]

/-- An update assigns the first parameters and compares the key with the others. -/
lemma writes_update (hname : IsIdentifier name)
    (hassigned : ∀ p ∈ assigned, IsIdentifier p.1.name)
    (hmatched : ∀ p ∈ matched, IsIdentifier p.1.name) (hassigned_ne : assigned ≠ [])
    (hmatched_ne : matched ≠ []) :
    Writes ⟨.update name (assigned.map (·.1.name)) (matched.map (·.1.name)),
        assigned.map (·.2) ++ matched.map (·.2)⟩
      (.update name (named assigned) (named matched)) := by
  have hset : ∀ c ∈ assigned.map (·.1.name), IsIdentifier c := List.forall_mem_map.mpr hassigned
  have hwhere : ∀ c ∈ matched.map (·.1.name), IsIdentifier c := List.forall_mem_map.mpr hmatched
  have hfill_assigned := fillAll_named [] (matched.map (·.2)) assigned
  have hfill_matched := fillAll_named (assigned.map (·.2)) [] matched
  simp only [List.nil_append, List.append_nil, List.length_nil, Nat.zero_add, List.length_map]
    at hfill_assigned hfill_matched
  constructor
  · rw [text, Command.ofText?_update hname hset hwhere (by simpa using hassigned_ne)
      (by simpa using hmatched_ne), Option.bind_some, List.length_map, List.length_map, Write.fill,
      hfill_assigned, hfill_matched]
    rfl
  · rw [text, Command.text, Command.pieces,
      (Command.standsApart_update hname hset hwhere).placeholders?_spell,
      Command.placeholdersOf_updatePieces]
    simp

end Writes

end Statement

/-! ## When statements are assembled -/

/-- Under the condition the outcome is a statement that says the write, otherwise it is an error. -/
structure Statement.IsAssembled (x : Except Error Statement) (condition : Prop) (w : Write Cell) :
    Prop where
  statement : condition → ∃ s, x = .ok s ∧ s.Writes w
  error : ¬ condition → ∃ e, x = .error e

namespace Table

open Statement (IsAssembled writes_insert writes_upsert writes_update)

variable (t : Table) (row : List Cell)

/-- A row with a cell for each column is paired with the columns. -/
lemma pairCells_of_length {t : Table} {row : List Cell} (h : row.length = t.columns.length) :
    t.pairCells row = .ok (t.columns.zip row) :=
  if_pos h

/-- The names of columns that are paired with cells are identifiers. -/
lemma isIdentifier_zip {p : Column × Cell} (h : p ∈ t.columns.zip row) :
    IsIdentifier p.1.name :=
  t.isIdentifier_column (List.of_mem_zip h).1

/-- A key is required if no column belongs to one. -/
lemma requireKey_eq : t.requireKey =
    if ∃ c ∈ t.columns, c.primaryKey then .ok () else .error (.schema t.name .keyRequired) := by
  have hkeys : t.keys = [] ↔ ¬ ∃ c ∈ t.columns, c.primaryKey := by simp [keys]
  simp only [requireKey, List.isEmpty_iff, hkeys, ite_not]

/-- An insertion is assembled from a row with a cell for each column, without those that the
database counts up. -/
lemma insertStatement_isAssembled :
    IsAssembled (t.insertStatement row) (row.length = t.columns.length)
      (.insert t.name (named ((t.columns.zip row).filter fun (c, _) => !c.autoIncrement))) where
  statement hlength :=
    ⟨_, by rw [insertStatement, pairCells_of_length hlength]; rfl,
      writes_insert t.isIdentifier_name fun p hp =>
        t.isIdentifier_zip row (List.mem_filter.mp hp).1⟩
  error hlength := ⟨_, by rw [insertStatement, pairCells, if_neg hlength]; rfl⟩

/-- The columns that are paired with cells and pass a test are the columns that pass it. -/
lemma map_fst_filter_zip {t : Table} {row : List Cell} (h : row.length = t.columns.length)
    (p : Column → Bool) : ((t.columns.zip row).filter fun (c, _) => p c).map (·.1) =
      t.columns.filter p := by
  have hcolumns : (t.columns.zip row).map (·.1) = t.columns := List.map_fst_zip h.ge
  conv_rhs => rw [← hcolumns, List.filter_map]
  rfl

/-- The names of the columns that are paired with cells and pass a test. -/
lemma names_filter_zip {t : Table} {row : List Cell} (h : row.length = t.columns.length)
    (p : Column → Bool) : ((t.columns.zip row).filter fun (c, _) => p c).map (·.1.name) =
      (t.columns.filter p).map (·.name) := by
  rw [← map_fst_filter_zip h, List.map_map]
  rfl

/-- Of the cells of a row, some belong to columns with a property if some columns have it. -/
lemma filter_zip_ne_nil_iff {t : Table} {row : List Cell} (h : row.length = t.columns.length)
    (p : Column → Bool) : ((t.columns.zip row).filter fun (c, _) => p c) ≠ [] ↔
      ∃ c ∈ t.columns, p c := by
  rw [ne_eq, ← List.map_eq_nil_iff (f := (·.1)), map_fst_filter_zip h p]
  simp

/-- An upsert is assembled from a row with a cell for each column, if the table has a key. -/
lemma upsertStatement_isAssembled :
    IsAssembled (t.upsertStatement row)
      (row.length = t.columns.length ∧ ∃ c ∈ t.columns, c.primaryKey)
      (.upsert t.name (named (t.columns.zip row)) t.keyNames
        ((t.columns.filter (!·.primaryKey)).map fun c => (c.name, c.name))) where
  statement h := by
    obtain ⟨hlength, hkey⟩ := h
    refine ⟨_, ?_, writes_upsert t.isIdentifier_name (fun p hp => t.isIdentifier_zip row hp)
      (fun c hc => t.isIdentifier_column (List.mem_filter.mp hc).1)
      (fun c hc => t.isIdentifier_column (List.mem_filter.mp hc).1)⟩
    rw [upsertStatement, requireKey_eq, if_pos hkey, pairCells_of_length hlength,
      ← names_filter_zip hlength]
    rfl
  error h := by
    by_cases hkey : ∃ c ∈ t.columns, c.primaryKey
    · have hlength : ¬ row.length = t.columns.length := fun hlength => h ⟨hlength, hkey⟩
      exact ⟨_, by rw [upsertStatement, requireKey_eq, if_pos hkey, pairCells, if_neg hlength]; rfl⟩
    · exact ⟨_, by rw [upsertStatement, requireKey_eq, if_neg hkey]; rfl⟩

/-- With a key and a cell for each column, an update lacks at most columns to assign. -/
lemma updateStatement_eq (hkey : ∃ c ∈ t.columns, c.primaryKey)
    (hlength : row.length = t.columns.length) :
    t.updateStatement row =
      if ((t.columns.zip row).filter fun (c, _) => !c.primaryKey) = [] then
        .error (.schema t.name .nothingToUpdate)
      else .ok
        ⟨.update t.name (((t.columns.zip row).filter fun (c, _) => !c.primaryKey).map (·.1.name))
            (((t.columns.zip row).filter fun (c, _) => c.primaryKey).map (·.1.name)),
          ((t.columns.zip row).filter fun (c, _) => !c.primaryKey).map (·.2) ++
            ((t.columns.zip row).filter fun (c, _) => c.primaryKey).map (·.2)⟩ := by
  rw [updateStatement, requireKey_eq, if_pos hkey, pairCells_of_length hlength]
  simp only [bind, Except.bind, List.partition_eq_filter_filter, Function.comp_def,
    List.isEmpty_iff]
  split <;> rfl

/-- An update is assembled from a row with a cell for each column, if the table has a key and
another column. -/
lemma updateStatement_isAssembled :
    IsAssembled (t.updateStatement row)
      (row.length = t.columns.length ∧ (∃ c ∈ t.columns, c.primaryKey) ∧
        ∃ c ∈ t.columns, ¬ c.primaryKey)
      (.update t.name (named ((t.columns.zip row).filter fun (c, _) => !c.primaryKey))
        (named ((t.columns.zip row).filter fun (c, _) => c.primaryKey))) where
  statement h := by
    obtain ⟨hlength, hkey, hplain⟩ := h
    have hassigned := (filter_zip_ne_nil_iff hlength (!·.primaryKey)).mpr (by simpa using hplain)
    have hmatched := (filter_zip_ne_nil_iff hlength (·.primaryKey)).mpr hkey
    exact ⟨_, by rw [updateStatement_eq t row hkey hlength, if_neg hassigned],
      writes_update t.isIdentifier_name
        (fun p hp => t.isIdentifier_zip row (List.mem_filter.mp hp).1)
        (fun p hp => t.isIdentifier_zip row (List.mem_filter.mp hp).1) hassigned hmatched⟩
  error h := by
    by_cases hkey : ∃ c ∈ t.columns, c.primaryKey
    · by_cases hlength : row.length = t.columns.length
      · have hassigned := mt (filter_zip_ne_nil_iff hlength (!·.primaryKey)).mp fun hplain =>
          h ⟨hlength, hkey, by simpa using hplain⟩
        exact ⟨_, by rw [updateStatement_eq t row hkey hlength, if_pos (not_not.mp hassigned)]⟩
      · exact ⟨_, by
          rw [updateStatement, requireKey_eq, if_pos hkey, pairCells, if_neg hlength]; rfl⟩
    · exact ⟨_, by rw [updateStatement, requireKey_eq, if_neg hkey]; rfl⟩

end Table

/-- A statement for a table type is assembled if its declaration is valid and the statement is
assembled for its table. -/
lemma Statement.IsAssembled.register {r : Registry} (hr : r.IsReachable) {t : TableType}
    {f : Table → Except Error Statement} {condition : Prop} {w : Write Cell}
    (h : ∀ table, t.table = .ok table → IsAssembled (f table) condition w) :
    IsAssembled ((Registry.register t >>= fun table => liftM (f table) : Registering Statement) r).1
      (t.IsValid ∧ condition) w := by
  obtain ⟨r', hregister, -⟩ := Registry.register_eq hr.isSound t
  cases htable : t.table with
  | ok table =>
    rw [htable] at hregister
    have hvalid : t.IsValid := TableType.isValid_iff.mpr ⟨table, htable⟩
    rw [run_bind_of_ok hregister]
    exact ⟨fun hcondition => (h table htable).statement hcondition.2,
      fun hcondition => (h table htable).error fun h => hcondition ⟨hvalid, h⟩⟩
  | error fault =>
    rw [htable] at hregister
    rw [run_bind_of_error hregister]
    refine ⟨fun hcondition => ?_, fun _ => ⟨_, rfl⟩⟩
    obtain ⟨table, hok⟩ := TableType.isValid_iff.mp hcondition.1
    rw [htable] at hok
    cases hok

/-- The three statements that write a row of a table type are assembled exactly if the declaration
is valid and the row has a cell for each column; an upsert also needs a key, and an update a key and
another column. Their texts with their parameters then say what is to be written: an insertion gives
every column but the auto-increment key its cell, an upsert gives every column its cell and finds
rows by all key columns, and an update assigns to the columns outside the key and matches the key.

*Proof sketch.* The registration of a table type gives the table of its declaration. Its names are
identifiers, so the text of each command is read back as its lexemes, and lists of names, of
placeholders and of equations are read item by item. The placeholders go up by one from list to
list, as the parameters are put together; filling them gives the pairs of columns and cells that the
statement was assembled from. -/
theorem Statement.writes_assembled {r : Registry} (hr : r.IsReachable) (t : TableType)
    (row : List Cell) :
    IsAssembled (Statement.insert t row r).1 (t.IsValid ∧ row.length = t.columns.length)
      (t.insertion row) ∧
    IsAssembled (Statement.upsert t row r).1
      (t.IsValid ∧ row.length = t.columns.length ∧ ∃ c ∈ t.columns, c.primaryKey)
      (t.upsertion row) ∧
    IsAssembled (Statement.update t row r).1
      (t.IsValid ∧ row.length = t.columns.length ∧ (∃ c ∈ t.columns, c.primaryKey) ∧
        ∃ c ∈ t.columns, ¬ c.primaryKey)
      (t.updating row) := by
  refine ⟨.register hr fun table htable => ?_, .register hr fun table htable => ?_,
    .register hr fun table htable => ?_⟩ <;>
    obtain ⟨hname, hcolumns⟩ := TableType.table_ok_iff.mp htable
  · rw [TableType.insertion, ← hname, ← hcolumns]
    exact table.insertStatement_isAssembled row
  · rw [TableType.upsertion, ← hname, ← hcolumns]
    exact table.upsertStatement_isAssembled row
  · rw [TableType.updating, ← hname, ← hcolumns]
    exact table.updateStatement_isAssembled row

namespace Sample

/-- Memberships of persons in clubs; the columns of the key stand apart. -/
def membership : TableType where
  label := "Membership"
  name := "membership"
  columns := [.new "role" (.plain .text), (Column.new "club" (.plain .integer)).asKey,
    .new "since" (.optional .integer), (Column.new "person" (.plain .integer)).asKey]

/-- The update of a membership assigns the two columns outside the key, whichever place they have in
the row. -/
theorem membership_updated : Registry.IsReachable {} ∧
    ∃ s, (Statement.update membership [.text "chair", .int 3, .null, .int 7] {}).1 = .ok s ∧
      s.Writes (.update "membership" [("role", .text "chair"), ("since", .null)]
        [("club", .int 3), ("person", .int 7)]) := by
  have hreachable : Registry.IsReachable {} := ⟨[], rfl⟩
  obtain ⟨-, -, hupdate⟩ := Statement.writes_assembled hreachable membership
    [.text "chair", .int 3, .null, .int 7]
  have hvalid : Fault.ofDeclaration? membership.name membership.columns = none := by
    decide +kernel
  refine ⟨hreachable, hupdate.statement ⟨hvalid, rfl, ?_, ?_⟩⟩
  · exact ⟨(Column.new "club" (.plain .integer)).asKey, by decide, rfl⟩
  · exact ⟨.new "role" (.plain .text), by decide, by decide⟩

end Sample

end TypedSql
