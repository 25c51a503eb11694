import TypedSql.Proofs.Codec.CellPlaces
import TypedSql.Proofs.Record.Description
import TypedSql.Proofs.Schema.Validation

/-!
# Records and their tables

A declaration of a record is checked twice: when the record is derived from it, which looks at what
the attributes say, and when its table is declared, which looks at the columns. This file shows that
both checks agree: if the names of the table and its columns are fine, a declaration has a record if
and only if the table that it describes is accepted. It also shows that the parts of the record at
one place belong together: the column, its accessor, and the cell that is written and read.

## Main definitions

* `Record.HasPlace` — the parts of a record at a place are those of a field and its column.

## Main results

* `RecordDeclaration.Describes.exists_derive`, `RecordDeclaration.Describes.exists_declare` — when
  there is a record, and when the table is accepted.
* `RecordDeclaration.derive_agrees` — the two checks agree, and the parts belong together.
-/

set_option autoImplicit false

namespace TypedSql

open Attribute Attribute.Item
open Text (IsIdentifier)

/-! ## Columns -/

namespace FieldDeclaration.Describes

variable {f : FieldDeclaration} {c : Column}

/-- The foreign key of a column that is described consists of identifiers. -/
lemma isIdentifier_references (h : f.Describes c) {fk : ForeignKey}
    (hfk : c.references = some fk) : IsIdentifier fk.table ∧ IsIdentifier fk.column := by
  rw [h.references] at hfk
  obtain ⟨i, -, hi⟩ := List.mem_filterMap.mp (List.mem_of_getLast? hfk)
  obtain ⟨text, -, hreference⟩ := reference?_eq_some.mp hi
  exact hreference.2

/-- A column that is described has no fault but cascading without a reference, if it has a fine name
and is of an integer type in case that the database counts it up. -/
lemma ofColumn?_eq_none (h : f.Describes c) (hname : IsIdentifier c.name)
    (hauto : flag "autoincrement" ∈ f.items → ∃ t, f.type = .required (.integer t)) :
    Fault.ofColumn? [] c = none ↔ (c.cascade = true → c.references ≠ none) := by
  have hkind : c.kind.isWellFormed = true := h.kind ▸ f.type.isWellFormed_kind
  have hcounted : Fault.ofAutoIncrement? c = none := by
    refine Fault.ofAutoIncrement?_eq_none.mpr fun hc => ?_
    have hitem := h.autoIncrement.mp hc
    obtain ⟨t, ht⟩ := hauto hitem
    exact ⟨h.primaryKey.mpr (.inr hitem), by rw [h.kind, ht]; rfl⟩
  simp only [Fault.ofColumn?_eq_none, Fault.ofReference?_eq_none, hname, hkind, hcounted,
    List.not_mem_nil, not_false_eq_true, true_and]
  constructor
  · rintro ⟨-, hcascade⟩ htrue hnone
    exact Bool.false_ne_true ((hcascade hnone).symm.trans htrue)
  · intro hcascade
    exact ⟨fun fk hfk => h.isIdentifier_references hfk, fun hnone =>
      Bool.eq_false_iff.mpr fun htrue => hcascade htrue hnone⟩

end FieldDeclaration.Describes

/-! ## Tables -/

namespace RecordDeclaration

variable {d : RecordDeclaration} {table : String} {columns : List Column}

/-- A plain declaration has a record if and only if the columns that it describes refer to others
where they cascade and have sound keys. -/
theorem Describes.exists_derive (h : d.Describes table columns) (hplain : d.IsPlain) :
    (∃ r, d.derive = .ok r) ↔ CascadesRefer columns ∧ Fault.ofKeys? columns = none := by
  constructor
  · rintro ⟨r, hr⟩
    obtain ⟨-, hdescribes, hcascade, hkeys, -⟩ := derive_ok.mp hr
    obtain ⟨-, rfl⟩ := h.unique hdescribes
    exact ⟨hcascade, hkeys⟩
  · rintro ⟨hcascade, hkeys⟩
    have hcolumns : Record.columns ⟨table, d.fields.map fun f => ⟨f.name, f.type, f.column⟩⟩ =
        columns := by
      simp only [Record.columns, List.map_map, Function.comp_def]
      exact (describes_iff.mp h).2.2
    refine ⟨⟨table, d.fields.map fun f => ⟨f.name, f.type, f.column⟩⟩, derive_ok.mpr ?_⟩
    rw [hcolumns]
    exact ⟨hplain, h, hcascade, hkeys, rfl⟩

/-- The table that a declaration with fields describes is accepted if and only if the same holds of
its columns, provided that its names are fine and the columns that the database counts up are of
integer types. -/
theorem Describes.exists_declare (h : d.Describes table columns) (hfields : d.fields ≠ [])
    (htable : IsIdentifier table) (hnames : ∀ c ∈ columns, IsIdentifier c.name)
    (hdistinct : (columns.map (·.name)).Nodup)
    (hauto : ∀ f ∈ d.fields, flag "autoincrement" ∈ f.items →
      ∃ t, f.type = .required (.integer t)) :
    (∃ t, Table.declare table columns = .ok t) ↔
      CascadesRefer columns ∧ Fault.ofKeys? columns = none := by
  obtain ⟨-, hitems, rfl⟩ := describes_iff.mp h
  have hcolumns : (∀ c ∈ d.fields.map FieldDeclaration.column, Fault.ofColumn? [] c = none) ↔
      CascadesRefer (d.fields.map FieldDeclaration.column) := by
    simp only [CascadesRefer, List.forall_mem_map] at hnames ⊢
    refine forall₂_congr fun f hf => ?_
    have hdescribes := FieldDeclaration.describes_column (hitems f hf)
    exact hdescribes.ofColumn?_eq_none (hnames f hf) (hauto f hf)
  rw [Table.exists_declare_iff, ← Table.ofDeclaration?_eq_none_iff, Fault.ofDeclaration?_eq_none,
    Fault.ofColumns?_eq_none, hcolumns]
  have hne : d.fields.map FieldDeclaration.column ≠ [] := by simpa using hfields
  simp only [htable, hne, hdistinct, ne_eq, not_false_eq_true, true_and, and_true]

end RecordDeclaration

/-! ## Places -/

/-- The parts of a record at a place are those of a field and its column: the accessor has the name
of the field and builds the expression for the column in the table of the record, whatever the label
of its table type; the cell at the place is written from the value of the field, and this value is
read from the cell there; in a row that ends before the place, the column is missing. -/
structure Record.HasPlace (r : Record) (i : Nat) (f : FieldDeclaration) (c : Column) : Prop where
  column : r.columns[i]? = some c
  field : r.fields[i]? = some ⟨f.name, f.type, c⟩
  accessor (label : String) :
    (r.accessors label)[i]? = some (f.name, Builder.column (r.tableType label) c.name)
  written (x : RowValues r.rowFields) : ∃ v : f.type.Carrier,
    x.values[i]? = some ⟨f.type, v⟩ ∧ x.encode[i]? = some (f.type.codec.encode v)
  read {row : List Cell} {y : RowValues r.rowFields}
    (h : RowValues.decode r.rowFields row = .ok y) : ∃ (v : f.type.Carrier) (cell : Cell),
    y.values[i]? = some ⟨f.type, v⟩ ∧ row[i]? = some cell ∧ f.type.codec.decode cell = .ok v
  missing (x : RowValues r.rowFields) :
    RowValues.decode r.rowFields (x.encode.take i) = .error ⟨.column c.name, .endOfRow⟩

/-- The fields of a record stand at the same places in its rows. -/
lemma Record.getElem?_rowFields {r : Record} {i : Nat} {f : RecordField}
    (h : r.fields[i]? = some f) : r.rowFields[i]? = some f.rowField := by
  rw [rowFields, List.getElem?_map, h, Option.map_some]

/-- The parts at a place are those of the field there. -/
lemma Record.hasPlace {r : Record} {i : Nat} {f : FieldDeclaration} {c : Column}
    (h : r.fields[i]? = some ⟨f.name, f.type, c⟩) : r.HasPlace i f c where
  column := by rw [columns, List.getElem?_map, h, Option.map_some]
  field := h
  accessor label := by rw [accessors, List.getElem?_map, h, Option.map_some]
  written x := by
    obtain ⟨v, hv⟩ := x.getElem?_values (getElem?_rowFields h)
    exact ⟨v, hv, x.getElem?_encode hv⟩
  read {row y} hread := by
    obtain ⟨v, hv⟩ := y.getElem?_values (getElem?_rowFields h)
    obtain ⟨cell, hcell, hdecode⟩ := RowValues.decode_ok.mp hread i _ hv
    exact ⟨v, cell, hv, hcell, hdecode⟩
  missing x := RowValues.decode_take r.fields x h

namespace RecordDeclaration

/-- Suppose that a declaration is plain and has fields, and that the fields with an auto-increment
key are of integer types. If the names in the table that it describes are identifiers, and those of
the columns are different, then it has a record if and only if this table is accepted. With
attributes as documented it describes a table. Its record, if there is one, has the table that it
describes, and at each place the column, the accessor and the cells of the field there.

*Proof sketch.* What a declaration describes is what its attributes are read as. All that the two
checks then leave open is the same: whether columns that cascade refer to others, and whether there
is at most one auto-increment key and no key beside it. The record looks for the latter among the
keys that are not auto-increment keys, the table counts all keys; an auto-increment key is among
these. -/
theorem derive_agrees {d : RecordDeclaration} (hplain : d.IsPlain) (hfields : d.fields ≠ [])
    (hauto : ∀ f ∈ d.fields, flag "autoincrement" ∈ f.items →
      ∃ t, f.type = .required (.integer t)) :
    (∀ table columns, d.Describes table columns → IsIdentifier table →
      (∀ c ∈ columns, IsIdentifier c.name) → (columns.map (·.name)).Nodup →
        ((∃ r, d.derive = .ok r) ↔ ∃ t, Table.declare table columns = .ok t)) ∧
    (d.IsDocumented → ∃ table columns, d.Describes table columns) ∧
    ∀ r, d.derive = .ok r → d.Describes r.table r.columns ∧ r.fields.length = d.fields.length ∧
      ∀ i f, d.fields[i]? = some f → ∃ c, f.Describes c ∧ r.HasPlace i f c := by
  refine ⟨?_, IsDocumented.exists_describes, ?_⟩
  · intro table columns h htable hnames hdistinct
    rw [h.exists_derive hplain, h.exists_declare hfields htable hnames hdistinct hauto]
  · intro r hr
    obtain ⟨-, h, -, -, hplaces⟩ := derive_ok.mp hr
    refine ⟨h, by rw [hplaces, List.length_map], fun i f hf => ⟨f.column, ?_, ?_⟩⟩
    · exact FieldDeclaration.describes_column
        ((describes_iff.mp h).2.1 f (List.mem_of_getElem? hf))
    · exact Record.hasPlace (by rw [hplaces, List.getElem?_map, hf, Option.map_some])

end RecordDeclaration

namespace Sample

/-- Puppies are numbered; each has a dog for a mother, with which it goes. -/
def puppyDeclaration : RecordDeclaration where
  name := "Puppy"
  fields := [⟨"number", .required (.integer .int64), [⟨"column", some [flag "autoincrement"]⟩]⟩,
    ⟨"mother", .required .text,
      [⟨"column", some [given "references" "dog.name", flag "cascade"]⟩]⟩]

/-- The record of puppies. -/
def puppy : Record where
  table := "puppy"
  fields := [⟨"number", .required (.integer .int64),
      (Column.new "number" (.plain .integer)).asAutoKey⟩,
    ⟨"mother", .required .text,
      ((Column.new "mother" (.plain .text)).referring "dog" "name").cascading⟩]

/-- The table that the declaration of puppies describes is accepted, since there is a record. -/
theorem puppy_agrees : puppyDeclaration.IsPlain ∧ puppyDeclaration.fields ≠ [] ∧
    (∀ f ∈ puppyDeclaration.fields, flag "autoincrement" ∈ f.items →
      ∃ t, f.type = .required (.integer t)) ∧
    puppyDeclaration.Describes puppy.table puppy.columns ∧
    ∃ t, Table.declare puppy.table puppy.columns = .ok t := by
  have hplain : puppyDeclaration.IsPlain := ⟨rfl, by decide +kernel⟩
  have hfields : puppyDeclaration.fields ≠ [] := by simp [puppyDeclaration]
  have hauto : ∀ f ∈ puppyDeclaration.fields, flag "autoincrement" ∈ f.items →
      ∃ t, f.type = .required (.integer t) := by
    refine List.forall_mem_cons.mpr ⟨fun _ => ⟨.int64, rfl⟩, List.forall_mem_singleton.mpr ?_⟩
    exact fun h => absurd h (by decide +kernel)
  have hderive : puppyDeclaration.derive = .ok puppy := by decide +kernel
  obtain ⟨hagrees, -, hrecord⟩ := RecordDeclaration.derive_agrees hplain hfields hauto
  obtain ⟨hdescribes, -, -⟩ := hrecord puppy hderive
  have hdeclare := hagrees puppy.table puppy.columns hdescribes (by decide +kernel)
    (by decide +kernel) (by decide +kernel)
  exact ⟨hplain, hfields, hauto, hdescribes, hdeclare.mp ⟨puppy, hderive⟩⟩

end Sample

end TypedSql
