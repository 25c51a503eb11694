import Mathlib.Data.List.Forall2
import TypedSql.Proofs.Record.Attributes
import TypedSql.Proofs.Schema.Accepted

/-!
# What declarations describe

A declaration of a record describes a table name and one column for each field. This file says so
with no reference to the way in which the attributes are read: for each part of a column, which
items set it. The record of a declaration is then the one with this table, if it has fields with
names and no type parameters, and if the keys and foreign keys of the columns are in order.

## Main definitions

* `FieldDeclaration.Describes`, `RecordDeclaration.Describes` — the column that a field describes,
  and the table name and columns that a declaration describes.
* `RecordDeclaration.IsDocumented` — the attributes are as documented.

## Main results

* `FieldDeclaration.Describes.unique`, `RecordDeclaration.Describes.unique` — a field describes at
  most one column, and a declaration at most one table.
* `RecordDeclaration.derive_ok` — which declarations have a record, and which.
-/

set_option autoImplicit false

namespace TypedSql

open Attribute Attribute.Item

/-! ## Fields -/

namespace FieldDeclaration

/-- The items for the column of a field. -/
def items (f : FieldDeclaration) : List Item := columnItems f.attributes

/-- The column of a field, from its items. -/
def column (f : FieldDeclaration) : Column where
  name := (f.items.filterMap (textFor? "name")).getLast?.getD (plainName f.name)
  kind := f.type.kind
  primaryKey := decide (flag "primary_key" ∈ f.items) || decide (flag "autoincrement" ∈ f.items)
  autoIncrement := decide (flag "autoincrement" ∈ f.items)
  references := (f.items.filterMap reference?).getLast?
  cascade := decide (flag "cascade" ∈ f.items)
  index := if flag "unique" ∈ f.items then some .unique
    else if flag "index" ∈ f.items then some .plain else none

/-- The column that a field describes. -/
structure Describes (f : FieldDeclaration) (c : Column) : Prop where
  /-- All items are ones for a column. -/
  items : ∀ i ∈ f.items, i.IsColumnItem
  /-- The column has the name of the field, unless the items give another. -/
  name : c.name = (f.items.filterMap (textFor? "name")).getLast?.getD (plainName f.name)
  kind : c.kind = f.type.kind
  primaryKey : c.primaryKey = true ↔
    flag "primary_key" ∈ f.items ∨ flag "autoincrement" ∈ f.items
  autoIncrement : c.autoIncrement = true ↔ flag "autoincrement" ∈ f.items
  references : c.references = (f.items.filterMap reference?).getLast?
  cascade : c.cascade = true ↔ flag "cascade" ∈ f.items
  /-- A unique index prevails over a plain one. -/
  index : c.index = if flag "unique" ∈ f.items then some .unique
    else if flag "index" ∈ f.items then some .plain else none

variable {f : FieldDeclaration} {c : Column}

/-- The options that the items give are those of the column. -/
lemma column_ofItems (f : FieldDeclaration) :
    (ColumnOptions.ofItems f.items).column f = f.column := by
  simp [ColumnOptions.column, ColumnOptions.ofItems, ColumnOptions.extend, column]

/-- A field with items for a column describes its column. -/
lemma describes_column (h : ∀ i ∈ f.items, i.IsColumnItem) : f.Describes f.column where
  items := h
  name := rfl
  kind := rfl
  primaryKey := by simp [column]
  autoIncrement := decide_eq_true_iff
  references := rfl
  cascade := decide_eq_true_iff
  index := rfl

/-- A field describes at most one column. -/
theorem Describes.unique {c' : Column} (h : f.Describes c) (h' : f.Describes c') : c = c' := by
  have hkey := Bool.eq_iff_iff.mpr (h.primaryKey.trans h'.primaryKey.symm)
  have hauto := Bool.eq_iff_iff.mpr (h.autoIncrement.trans h'.autoIncrement.symm)
  have hcascade := Bool.eq_iff_iff.mpr (h.cascade.trans h'.cascade.symm)
  rcases c with ⟨name, kind, key, auto, references, cascade, index⟩
  rcases c' with ⟨name', kind', key', auto', references', cascade', index'⟩
  exact Column.mk.injEq .. ▸ ⟨h.name.trans h'.name.symm, h.kind.trans h'.kind.symm, hkey, hauto,
    h.references.trans h'.references.symm, hcascade, h.index.trans h'.index.symm⟩

/-- The column that a field describes is its column, if its items are ones for a column. -/
lemma describes_iff : f.Describes c ↔ (∀ i ∈ f.items, i.IsColumnItem) ∧ f.column = c := by
  constructor
  · exact fun h => ⟨h.items, (describes_column h.items).unique h⟩
  · rintro ⟨h, rfl⟩
    exact describes_column h

/-- Fields describe columns, each its own, if and only if their items are ones for a column. -/
lemma forall₂_describes {fs : List FieldDeclaration} {cs : List Column} :
    List.Forall₂ Describes fs cs ↔
      (∀ f ∈ fs, ∀ i ∈ f.items, i.IsColumnItem) ∧ fs.map column = cs := by
  induction fs generalizing cs with
  | nil => simp [eq_comm]
  | cons f fs ih =>
    simp only [List.forall₂_cons_left_iff, describes_iff, ih, List.forall_mem_cons, List.map_cons]
    constructor
    · rintro ⟨_, _, ⟨hf, rfl⟩, ⟨hfs, rfl⟩, rfl⟩
      exact ⟨⟨hf, hfs⟩, rfl⟩
    · rintro ⟨⟨hf, hfs⟩, rfl⟩
      exact ⟨_, _, ⟨hf, rfl⟩, ⟨hfs, rfl⟩, rfl⟩

end FieldDeclaration

/-! ## Records -/

namespace RecordDeclaration

open FieldDeclaration

/-- The table name and the columns that a declaration describes. -/
structure Describes (d : RecordDeclaration) (table : String) (columns : List Column) : Prop where
  /-- The table has the name of the record in snake case, unless an attribute gives another. -/
  table : FirstNames d.attributes table ∨
    (∀ a ∈ d.attributes, a.IsSilent) ∧ table = snakeCase d.name
  columns : List.Forall₂ FieldDeclaration.Describes d.fields columns

/-- Records with named fields and without type parameters. -/
def IsPlain (d : RecordDeclaration) : Prop :=
  d.shape = .named ∧ hasTypeParameters d.typeParameters = false

/-- All attributes are as documented: those for the table give a name or nothing, and those of the
fields give items for a column. -/
structure IsDocumented (d : RecordDeclaration) : Prop where
  table : ∀ a ∈ d.attributes, a.IsSilent ∨ ∃ name, a.Names name
  columns : ∀ f ∈ d.fields, ∀ i ∈ f.items, i.IsColumnItem

variable {d : RecordDeclaration} {r : Record} {table : String} {columns : List Column}

/-- A declaration whose attributes are as documented describes a table. -/
lemma IsDocumented.exists_describes (h : d.IsDocumented) :
    ∃ table columns, d.Describes table columns := by
  have hcolumns := forall₂_describes.mpr ⟨h.columns, rfl⟩
  rcases silent_or_firstNames h.table with hsilent | ⟨name, hname⟩
  · exact ⟨_, _, .inr ⟨hsilent, rfl⟩, hcolumns⟩
  · exact ⟨_, _, .inl hname, hcolumns⟩

/-- A declaration has the shape of a record if it is plain. -/
lemma checkShape_ok : d.checkShape = .ok () ↔ d.IsPlain := by
  unfold checkShape IsPlain
  cases hasTypeParameters d.typeParameters <;> cases d.shape <;>
    simp [bind, Except.bind, throw, throwThe, MonadExceptOf.throw, pure, Except.pure]

/-- Columns that refer to another one whenever they cascade. -/
def CascadesRefer (columns : List Column) : Prop :=
  ∀ c ∈ columns, c.cascade = true → c.references ≠ none

/-- Elements with one of two properties have the second, or the first without the second. -/
lemma countP_or {α : Type} (p q : α → Bool) (xs : List α) :
    xs.countP (fun x => p x || q x) = xs.countP q + xs.countP fun x => p x && !q x := by
  induction xs with
  | nil => rfl
  | cons x xs ih =>
    simp only [List.countP_cons, ih]
    cases p x <;> cases q x <;> simp <;> omega

/-- The check of the keys of a declaration is that of the keys of its columns. -/
lemma checkKeys_ok (fs : List FieldDeclaration) :
    checkKeys (fs.map fun f => .ofItems f.items) = .ok () ↔
      Fault.ofKeys? (fs.map FieldDeclaration.column) = none := by
  generalize hoptions : (fs.map fun f => ColumnOptions.ofItems f.items) = os
  have hauto : (fs.map FieldDeclaration.column).countP (·.autoIncrement) =
      os.countP (·.autoIncrement) := by
    simp only [← hoptions, ← column_ofItems, List.countP_map, Function.comp_def,
      ColumnOptions.column]
  have hkey : (fs.map FieldDeclaration.column).countP (·.primaryKey) =
      os.countP (·.autoIncrement) + os.countP (fun o => o.primaryKey && !o.autoIncrement) := by
    rw [← countP_or]
    simp only [← hoptions, ← column_ofItems, List.countP_map, Function.comp_def,
      ColumnOptions.column]
  rw [Fault.ofKeys?_eq_none, hauto, hkey, checkKeys]
  split
  · rename_i hnone
    exact iff_of_true rfl ⟨by omega, by omega⟩
  · rename_i hone
    split
    · rename_i hany
      have hpos : 0 < os.countP (fun o => o.primaryKey && !o.autoIncrement) :=
        List.countP_pos_iff.mpr (List.any_eq_true.mp hany)
      exact iff_of_false nofun (by omega)
    · rename_i hany
      have hzero : os.countP (fun o => o.primaryKey && !o.autoIncrement) = 0 :=
        List.countP_eq_zero.mpr fun o ho hkey => hany (List.any_eq_true.mpr ⟨o, ho, hkey⟩)
      exact iff_of_true rfl ⟨by omega, by omega⟩
  · rename_i hne_zero hne_one
    have htwo : 1 < os.countP (·.autoIncrement) :=
      Nat.one_lt_iff_ne_zero_and_ne_one.mpr ⟨hne_zero, hne_one⟩
    exact iff_of_false nofun (by omega)

/-- What a declaration describes is what its attributes are read as. -/
lemma describes_iff : d.Describes table columns ↔
    (∃ name?, tableName? d.attributes = .ok name? ∧ name?.getD (snakeCase d.name) = table) ∧
      (∀ f ∈ d.fields, ∀ i ∈ f.items, i.IsColumnItem) ∧
      d.fields.map FieldDeclaration.column = columns := by
  rw [← forall₂_describes]
  constructor
  · rintro ⟨hname | ⟨hsilent, rfl⟩, hcolumns⟩
    · exact ⟨⟨_, tableName?_some.mpr hname, rfl⟩, hcolumns⟩
    · exact ⟨⟨_, tableName?_none.mpr hsilent, rfl⟩, hcolumns⟩
  · rintro ⟨⟨_ | name, hname, rfl⟩, hcolumns⟩
    · exact ⟨.inr ⟨tableName?_none.mp hname, rfl⟩, hcolumns⟩
    · exact ⟨.inl (tableName?_some.mp hname), hcolumns⟩

/-- A declaration describes at most one table. -/
theorem Describes.unique {table' : String} {columns' : List Column}
    (h : d.Describes table columns) (h' : d.Describes table' columns') :
    table = table' ∧ columns = columns' := by
  obtain ⟨⟨name?, hname, rfl⟩, -, rfl⟩ := describes_iff.mp h
  obtain ⟨⟨name?', hname', rfl⟩, -, rfl⟩ := describes_iff.mp h'
  cases hname.symm.trans hname'
  exact ⟨rfl, rfl⟩

/-- A field has options if its items are ones for a column and it refers to a column if it
cascades. -/
lemma fieldOptions_ok {f : FieldDeclaration} {p : FieldDeclaration × ColumnOptions} :
    fieldOptions f = .ok p ↔
      ((∀ i ∈ f.items, i.IsColumnItem) ∧ (f.column.cascade = true → f.column.references ≠ none)) ∧
        (f, .ofItems f.items) = p := by
  simp only [fieldOptions, except_bind_ok, except_pure_ok, ColumnOptions.ofAttributes_ok]
  constructor
  · rintro ⟨_, ⟨hitems, hcascade, rfl⟩, rfl⟩
    rw [← column_ofItems]
    exact ⟨⟨hitems, hcascade⟩, rfl⟩
  · rintro ⟨⟨hitems, hcascade⟩, rfl⟩
    rw [← column_ofItems] at hcascade
    exact ⟨_, ⟨hitems, hcascade, rfl⟩, rfl⟩

/-- The record of a declaration has the table that it describes. There is one if and only if the
declaration is plain and describes a table with sound keys in which columns that cascade refer to
others. -/
theorem derive_ok : d.derive = .ok r ↔ d.IsPlain ∧ d.Describes r.table r.columns ∧
    CascadesRefer r.columns ∧ Fault.ofKeys? r.columns = none ∧
    r.fields = d.fields.map fun f => ⟨f.name, f.type, f.column⟩ := by
  have hcascades : CascadesRefer (d.fields.map FieldDeclaration.column) ↔
      ∀ f ∈ d.fields, f.column.cascade = true → f.column.references ≠ none :=
    List.forall_mem_map
  simp only [derive, except_bind_ok, except_pure_ok, describes_iff,
    except_mapM_ok (f := fieldOptions) fun _ _ => fieldOptions_ok]
  constructor
  · rintro ⟨name?, hname, ⟨⟩, hshape, _, ⟨hfields, rfl⟩, ⟨⟩, hkeys, rfl⟩
    simp only [List.map_map, Function.comp_def] at hkeys
    simp only [Record.columns, List.map_map, Function.comp_def, column_ofItems]
    exact ⟨checkShape_ok.mp hshape, ⟨⟨name?, hname, rfl⟩, fun f hf => (hfields f hf).1, trivial⟩,
      hcascades.mpr fun f hf => (hfields f hf).2, (checkKeys_ok d.fields).mp hkeys, trivial⟩
  · rintro ⟨hplain, ⟨⟨name?, hname, htable⟩, hitems, hcolumns⟩, hcascade, hkeys, hfields⟩
    rw [← hcolumns] at hcascade hkeys
    refine ⟨name?, hname, (), checkShape_ok.mpr hplain, _,
      ⟨fun f hf => ⟨hitems f hf, hcascades.mp hcascade f hf⟩, rfl⟩, (), ?_, ?_⟩
    · simpa only [List.map_map, Function.comp_def] using (checkKeys_ok d.fields).mpr hkeys
    · rcases r with ⟨table, fields⟩
      simp only [List.map_map, Function.comp_def, column_ofItems]
      exact Record.mk.injEq .. ▸ ⟨htable, hfields.symm⟩

end RecordDeclaration

end TypedSql
