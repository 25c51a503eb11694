import TypedSql.Proofs.Schema.Reachable
import TypedSql.Proofs.Store.Regular

/-!
# Runs of a program on a database

A program creates tables, writes, deletes and reads rows in any order, and each of its calls may
fail at any point. If the table types that it writes to are told apart by their names, its
statements assign no row numbers. So each call keeps all tables regular, and with them what every
write relies on: that the rows have different numbers and their values the stored form of their
columns.

## Main definitions

* `Command.IsFor` — the commands that are assembled from tables of a given sort.
* `Database.Call` — the calls of a program; `Database.run` — what is left after a sequence of them.
* `Database.Keeps` — an operation keeps a database regular, whatever its outcome is.

## Main results

* `Store.IsRegular.sparesNumbers` — assembled commands assign no row numbers.
* `Database.keeps_execute` — a statement that is run keeps a database regular.
* `Database.run_isRegular` — every run leaves regular tables behind.
* `Database.table_of_run` — what a program finds in a database that it has opened.
-/

set_option autoImplicit false

namespace TypedSql

/-! ## Assembled commands -/

section Commands

variable {P : Table → Prop}

/-- Whether a command is one for a table of a given sort, and assigns none of its key columns. -/
def Command.IsFor (P : Table → Prop) : Command → Prop
  | .createTable t => P t
  | .update name assigned _ | .upsert name _ _ assigned =>
    ∃ t, P t ∧ t.name = name ∧ ∀ c ∈ assigned, ∃ d ∈ t.columns, d.name = c ∧ d.primaryKey = false
  | _ => True

namespace Table

variable {t : Table} {row : List Cell} {s : Statement}

/-- The columns that are chosen from the cells of a row are columns of the table. -/
lemma exists_column_of_mem (cells : List (Column × Cell)) (h : t.pairCells row = .ok cells)
    {c : String} (hc : c ∈ (cells.filter fun p => !p.1.primaryKey).map (·.1.name)) :
    ∃ d ∈ t.columns, d.name = c ∧ d.primaryKey = false := by
  unfold pairCells at h
  split at h <;> cases h
  obtain ⟨⟨d, x⟩, hd, rfl⟩ := List.mem_map.mp hc
  obtain ⟨hmem, hplain⟩ := List.mem_filter.mp hd
  exact ⟨d, (List.of_mem_zip hmem).1, rfl, by simpa using hplain⟩

/-- An insertion is for the table for which it is made. -/
lemma insertStatement_isFor (h : t.insertStatement row = .ok s) : s.command.IsFor P := by
  obtain ⟨cells, -, h⟩ := except_bind_ok.mp h
  rw [← except_pure_ok.mp h]
  trivial

/-- An upsert assigns the columns outside the key. -/
lemma upsertStatement_isFor (ht : P t) (h : t.upsertStatement row = .ok s) :
    s.command.IsFor P := by
  obtain ⟨-, -, h⟩ := except_bind_ok.mp h
  obtain ⟨cells, hcells, h⟩ := except_bind_ok.mp h
  rw [← except_pure_ok.mp h]
  exact ⟨t, ht, rfl, fun c hc => exists_column_of_mem cells hcells hc⟩

/-- An update assigns the columns outside the key. -/
lemma updateStatement_isFor (ht : P t) (h : t.updateStatement row = .ok s) :
    s.command.IsFor P := by
  obtain ⟨-, -, h⟩ := except_bind_ok.mp h
  obtain ⟨cells, hcells, h⟩ := except_bind_ok.mp h
  rw [List.partition_eq_filter_filter] at h
  dsimp only at h
  split at h
  · cases h
  · rw [← except_pure_ok.mp h]
    exact ⟨t, ht, rfl, fun c hc => exists_column_of_mem cells hcells hc⟩

/-- The statements of a creation are for the table that they create. -/
lemma creation_isFor (ht : P t) : ∀ c ∈ t.creation, c.IsFor P := by
  refine List.forall_mem_cons.mpr ⟨ht, fun c hc => ?_⟩
  obtain ⟨column, -, hcommand⟩ := List.mem_filterMap.mp hc
  obtain ⟨index, -, rfl⟩ := Option.map_eq_some_iff.mp hcommand
  trivial

end Table

/-- Whether tables of one name have the same columns. -/
def ToldApart (P : Table → Prop) : Prop :=
  ∀ t u, P t → P u → sameName t.name u.name = true → t.columns = u.columns

/-- A command assigns no row numbers: these stand in the key, which it does not assign. -/
theorem Store.IsRegular.sparesNumbers {s : Store} (hs : s.IsRegular P) (hapart : ToldApart P)
    {c : Command} (hc : c.IsFor P) : s.SparesNumbers c := by
  have hassigned : ∀ {name : String} {assigned : List String}, (∃ t, P t ∧ t.name = name ∧
      ∀ c ∈ assigned, ∃ d ∈ t.columns, d.name = c ∧ d.primaryKey = false) →
      ∀ t, s.table name = .ok t → ∀ i, t.numberPlace? = some i →
        ∀ c ∈ assigned, t.place? c ≠ some i := by
    rintro _ assigned ⟨u, hu, rfl, hplain⟩ t htable i hi c hc hplace
    obtain ⟨ht, hdeclared⟩ := hs t (mem_of_table htable)
    have hcolumns := hapart _ _ hdeclared hu (sameName_of_table htable)
    obtain ⟨d, hd, rfl, hfalse⟩ := hplain c hc
    obtain ⟨j, hj⟩ := List.mem_iff_getElem?.mp (hcolumns ▸ hd)
    rw [StoredTable.place?_eq ht.distinct hj] at hplace
    obtain rfl := Option.some.inj hplace
    obtain ⟨-, e, he, hkey, -⟩ := StoredTable.numberPlace?_eq ht.distinct hi
    obtain rfl := Option.some.inj (hj.symm.trans he)
    rw [hfalse] at hkey
    cases hkey
  cases c with
  | update | upsert => exact hassigned hc
  | filter | insert | createTable | createIndex => trivial

end Commands

/-! ## Operations -/

namespace Database

variable {P : Table → Prop} {α β : Type}

/-- Whether the registry holds the tables of its types' declarations, and the tables of the store
are regular. -/
structure IsRegular (P : Table → Prop) (db : Database) : Prop where
  registry : db.registry.IsSound
  store : db.store.IsRegular P

/-- Every run of an operation, successful or not, keeps a database regular, and what it answers has
a given property. -/
def Keeps (P : Table → Prop) (x : DatabaseAction α) (R : α → Prop) : Prop :=
  ∀ db, db.IsRegular P → (x db).2.IsRegular P ∧ ∀ a, (x db).1 = .ok a → R a

namespace Keeps

/-- A plain value keeps a database as it is. -/
lemma pure {R : α → Prop} {a : α} (h : R a) : Keeps P (Pure.pure a) R := fun _ hdb =>
  ⟨hdb, fun _ heq => Except.ok.inj heq ▸ h⟩

/-- What is computed without the database keeps it. -/
lemma result {R : α → Prop} {x : Except DatabaseError α} (h : ∀ a, x = .ok a → R a) :
    Keeps P (ExceptT.mk (Pure.pure x)) R := fun _ hdb => ⟨hdb, h⟩

/-- A sequence stops at an error of its first half, and goes on from the answer of a success. -/
lemma bind {x : DatabaseAction α} {f : α → DatabaseAction β} {R : α → Prop} {R' : β → Prop}
    (hx : Keeps P x R) (hf : ∀ a, R a → Keeps P (f a) R') : Keeps P (x >>= f) R' := by
  intro db hdb
  show ((ExceptT.bindCont f (x db).1) (x db).2).2.IsRegular P ∧
    ∀ b, ((ExceptT.bindCont f (x db).1) (x db).2).1 = .ok b → R' b
  obtain ⟨hstate, hanswer⟩ := hx db hdb
  generalize x db = r at hstate hanswer ⊢
  rcases r with ⟨e | a, db'⟩
  · exact ⟨hstate, fun b hb => nomatch hb⟩
  · exact hf a (hanswer a rfl) db' hstate

/-- A use of the registry keeps a database regular, if it keeps the registry sound. -/
lemma withRegistry {x : Registering α} {R : α → Prop}
    (h : ∀ r, r.IsSound → (x r).2.IsSound ∧ ∀ a, (x r).1 = .ok a → R a) :
    Keeps P (Database.withRegistry x) R := by
  intro db hdb
  obtain ⟨hsound, hanswer⟩ := h db.registry hdb.registry
  exact ⟨⟨hsound, hdb.store⟩, fun a ha => hanswer a (except_mapError_ok.mp ha)⟩

end Keeps

/-- What is assembled from the table of a table type. -/
lemma keeps_assembled {t : TableType} {f : Table → Except Error α} {R : α → Prop}
    (h : ∀ table a, t.table = .ok table → f table = .ok a → R a) :
    Keeps P (withRegistry (Registry.register t >>= fun table => liftM (f table))) R := by
  refine .withRegistry fun r hr => ?_
  obtain ⟨r', hregister, hr'⟩ := Registry.register_eq hr t
  cases htable : t.table with
  | error e =>
    rw [htable] at hregister
    rw [run_bind_of_error hregister]
    exact ⟨hr', fun a ha => nomatch ha⟩
  | ok table =>
    rw [htable] at hregister
    rw [run_bind_of_ok hregister]
    exact ⟨hr', fun a ha => h table a htable ha⟩

/-- An event keeps a database regular. -/
lemma keeps_logEvent (e : Event) : Keeps P (logEvent e) fun _ => True :=
  .withRegistry fun _ hr => ⟨hr, fun _ _ => trivial⟩

/-- A statement that the store runs keeps a database regular; one that fails changes nothing. -/
lemma keeps_runOnStore (hapart : ToldApart P) {s : Statement} (hs : s.command.IsFor P) :
    Keeps P (runOnStore s) fun _ => True := by
  intro db hdb
  unfold runOnStore
  split
  · rename_i o store hrun
    refine ⟨⟨hdb.registry, ?_⟩, fun _ _ => trivial⟩
    exact Store.run_isRegular hdb.store (hdb.store.sparesNumbers hapart hs)
      (fun t ht => by rwa [ht] at hs) hrun
  · exact ⟨hdb, fun _ _ => trivial⟩

/-- A statement for tables that are told apart keeps a database regular. -/
theorem keeps_execute (hapart : ToldApart P) {s : Statement} (hs : s.command.IsFor P) :
    Keeps P (execute s) fun _ => True :=
  (keeps_logEvent _).bind fun _ _ => keeps_runOnStore hapart hs

/-- A statement that is assembled and then run. -/
lemma keeps_write (hapart : ToldApart P) {x : DatabaseAction Statement}
    (hx : Keeps P x fun s => s.command.IsFor P) {f : Outcome → DatabaseAction β}
    (hf : ∀ o, Keeps P (f o) fun _ => True) :
    Keeps P (x >>= fun s => execute s >>= f) fun _ => True :=
  hx.bind fun _ hs => (keeps_execute hapart hs).bind fun o _ => hf o

/-- The statements of a creation keep a database regular. -/
lemma keeps_createAll (hapart : ToldApart P) {cs : List Command} (hcs : ∀ c ∈ cs, c.IsFor P) :
    Keeps P (createAll cs) fun _ => True := by
  induction cs with
  | nil => exact .pure trivial
  | cons c cs ih =>
    obtain ⟨hc, hcs⟩ := List.forall_mem_cons.mp hcs
    exact (keeps_logEvent _).bind fun _ _ =>
      (keeps_runOnStore (s := ⟨c, []⟩) hapart hc).bind fun _ _ => ih hcs

/-- The statement of a query. -/
lemma keeps_statement (q : Query) (operation : Operation) (args : List Cell) :
    Keeps P (refusing (q.statement operation args)) fun s => s.command.IsFor P := by
  refine .result fun s hs => ?_
  obtain ⟨params, -, heq⟩ := except_bind_ok.mp (except_mapError_ok.mp hs)
  rw [← except_pure_ok.mp heq]
  trivial

/-! ## Calls -/

/-- The calls of a program on a database. -/
inductive Call where
  | createTable (t : TableType)
  | insert (t : TableType) (row : List Cell)
  | upsert (t : TableType) (row : List Cell)
  | update (t : TableType) (row : List Cell)
  /-- A filter over a table type is compiled. -/
  | query (t : TableType) (filter : Expr)
  | delete (q : Query) (args : List Cell)
  | findOptional (q : Query) (args : List Cell)
  | find (q : Query) (args : List Cell)
  | findAll (q : Query) (args : List Cell)
  | anyRow (q : Query) (args : List Cell)

/-- The database after a call, whether it succeeds or fails. -/
def Call.run : Call → Database → Database
  | .createTable t, db => (Database.createTable t db).2
  | .insert t row, db => (Database.insert t row db).2
  | .upsert t row, db => (Database.upsert t row db).2
  | .update t row, db => (Database.update t row db).2
  | .query t filter, db => (Database.query t filter db).2
  | .delete q args, db => (Database.delete q args db).2
  | .findOptional q args, db => (Database.findOptional q args db).2
  | .find q args, db => (Database.find q args db).2
  | .findAll q args, db => (Database.findAll q args db).2
  | .anyRow q args, db => (Database.anyRow q args db).2

/-- The table types whose tables a call creates or writes to. -/
def Call.types : Call → List TableType
  | .createTable t | .insert t _ | .upsert t _ | .update t _ => [t]
  | _ => []

/-- The database after a sequence of calls. -/
def run (calls : List Call) (db : Database) : Database :=
  calls.foldl (fun db call => call.run db) db

/-- The tables of some types. -/
def Declares (types : List TableType) (table : Table) : Prop := ∃ t ∈ types, t.table = .ok table

/-- Tables of types with different names are told apart. -/
lemma toldApart_of_pairwise {types : List TableType}
    (h : types.Pairwise fun t u => sameName t.name u.name = false) :
    ToldApart (Declares types) := by
  rintro table table' ⟨t, ht, htable⟩ ⟨u, hu, htable'⟩ hsame
  obtain ⟨hname, hcolumns⟩ := TableType.table_ok_iff.mp htable
  obtain ⟨hname', hcolumns'⟩ := TableType.table_ok_iff.mp htable'
  rw [hname, hname'] at hsame
  obtain rfl := eq_of_sameName h ht hu hsame
  rw [hcolumns, hcolumns']

section Calls

variable {types : List TableType} {t : TableType} (hapart : ToldApart (Declares types))
include hapart

/-- The creation of a table keeps a database regular. -/
lemma keeps_createTable (ht : t ∈ types) :
    Keeps (Declares types) (createTable t) fun _ => True := by
  have hcreation : Keeps (Declares types) (withRegistry (Statement.creation t))
      fun cs => ∀ c ∈ cs, c.IsFor (Declares types) :=
    keeps_assembled (f := fun table => .ok table.creation) fun table cs htable hcs =>
      Except.ok.inj hcs ▸ table.creation_isFor ⟨t, ht, htable⟩
  exact hcreation.bind fun cs hcs => (keeps_createAll hapart hcs).bind fun _ _ => keeps_logEvent _

/-- An insertion keeps a database regular. -/
lemma keeps_insert (row : List Cell) :
    Keeps (Declares types) (insert t row) fun _ => True := by
  refine keeps_write hapart (keeps_assembled fun table _ _ h => table.insertStatement_isFor h)
    fun o => ?_
  cases o <;> exact .pure trivial

/-- An upsert keeps a database regular. -/
lemma keeps_upsert (ht : t ∈ types) (row : List Cell) :
    Keeps (Declares types) (upsert t row) fun _ => True :=
  keeps_write hapart
    (keeps_assembled fun table _ htable h => table.upsertStatement_isFor ⟨t, ht, htable⟩ h)
    fun _ => .pure trivial

/-- An update keeps a database regular. -/
lemma keeps_update (ht : t ∈ types) (row : List Cell) :
    Keeps (Declares types) (update t row) fun _ => True :=
  keeps_write hapart
    (keeps_assembled fun table _ htable h => table.updateStatement_isFor ⟨t, ht, htable⟩ h)
    fun _ => .pure trivial

/-- The search for at most one row keeps a database regular. -/
lemma keeps_findOptional (q : Query) (args : List Cell) :
    Keeps (Declares types) (findOptional q args) fun _ => True := by
  refine keeps_write hapart (keeps_statement q _ args) fun o => ?_
  split
  · exact .pure trivial
  · exact (Keeps.result fun _ _ => trivial).bind fun _ _ => .pure trivial

/-- Every call keeps a database regular. -/
lemma Call.run_isRegular {c : Call} (hc : ∀ t ∈ c.types, t ∈ types) {db : Database}
    (hdb : db.IsRegular (Declares types)) : (c.run db).IsRegular (Declares types) := by
  have hkeeps {α : Type} {x : DatabaseAction α} (hx : Keeps (Declares types) x fun _ => True) :
      (x db).2.IsRegular (Declares types) := (hx db hdb).1
  cases c with
  | createTable t => exact hkeeps (keeps_createTable hapart (hc t (List.mem_singleton_self t)))
  | insert t row => exact hkeeps (keeps_insert hapart row)
  | upsert t row => exact hkeeps (keeps_upsert hapart (hc t (List.mem_singleton_self t)) row)
  | update t row => exact hkeeps (keeps_update hapart (hc t (List.mem_singleton_self t)) row)
  | query t filter =>
    exact hkeeps (.withRegistry fun r hr =>
      ⟨Registry.compile_moves Registry.isPath_isSound t filter r hr, fun _ _ => trivial⟩)
  | delete q args =>
    exact hkeeps (keeps_write hapart (keeps_statement q _ args) fun _ => .pure trivial)
  | findOptional q args => exact hkeeps (keeps_findOptional hapart q args)
  | find q args =>
    refine hkeeps ((keeps_findOptional hapart q args).bind fun row _ => ?_)
    cases row with
    | none => exact .result fun _ h => nomatch h
    | some row => exact .pure trivial
  | findAll q args =>
    exact hkeeps (keeps_write hapart (keeps_statement q _ args) fun _ => .result fun _ _ => trivial)
  | anyRow q args =>
    refine hkeeps (keeps_write hapart (keeps_statement q _ args) fun o => ?_)
    cases o <;> exact .pure trivial

/-- Every run of a program keeps a database regular: the tables of its store are those of the types
that it creates, their rows have different numbers, and the values of these are in stored form.

*Proof sketch.* A call assembles a statement from the table of its type, which is one of the given
ones, and runs it on the store. An assembled statement assigns no column of a key, and the tables of
one name have the same columns; so it assigns no row numbers, and keeps the tables regular. -/
theorem run_isRegular {calls : List Call} (hcalls : ∀ c ∈ calls, ∀ t ∈ c.types, t ∈ types)
    {db : Database} (hdb : db.IsRegular (Declares types)) :
    (run calls db).IsRegular (Declares types) := by
  induction calls generalizing db with
  | nil => exact hdb
  | cons c calls ih =>
    obtain ⟨hc, hcalls⟩ := List.forall_mem_cons.mp hcalls
    exact ih hcalls (c.run_isRegular hapart hc hdb)

end Calls

/-- A database that has just been opened has no tables. -/
lemma isRegular_of_connect {c : ConnectionConfig} {db : Database} (h : connect c = .ok db) :
    db.IsRegular P := by
  unfold connect at h
  split at h
  · cases h
  · cases h
    exact ⟨nofun, nofun⟩

/-- What a program finds under a name is a regular table of one of its types. -/
theorem table_of_run {types : List TableType}
    (htypes : types.Pairwise fun t u => sameName t.name u.name = false) {calls : List Call}
    (hcalls : ∀ c ∈ calls, ∀ t ∈ c.types, t ∈ types) {config : ConnectionConfig} {db : Database}
    (hdb : connect config = .ok db) {name : String} {t : StoredTable}
    (h : (run calls db).store.table name = .ok t) :
    t.IsRegular ∧ ∃ u ∈ types, u.table = .ok t.declared ∧ sameName u.name name = true := by
  have hrun := run_isRegular (toldApart_of_pairwise htypes) hcalls (isRegular_of_connect hdb)
  obtain ⟨ht, u, hu, hdeclared⟩ := hrun.store t (Store.mem_of_table h)
  exact ⟨ht, u, hu, hdeclared,
    (TableType.table_ok_iff.mp hdeclared).1 ▸ Store.sameName_of_table h⟩

end Database

end TypedSql
