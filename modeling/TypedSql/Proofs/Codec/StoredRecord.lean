import TypedSql.Proofs.Codec.RoundTrip
import TypedSql.Proofs.Store.Insertion

/-!
# Records are read back from a store

A record that is inserted into the table of its type becomes a row of cells, which the store keeps
in the forms of the columns; the row is read back as cells of the kinds of the columns, and these as
a record. This file shows when that is the record that was inserted, with the row number in its
auto-increment key. It is not in three cases: an optional real that is not a number is stored as
NULL, and read back as absent; the only column of a key, if it holds integers and its value is
absent, is given the number of the row; and the number may be too great for the type of the key.

## Main definitions

* `Record.read` — a stored row, read as a record.
* `ValueType.KeptAs`, `RecordField.IsReturned` — what a value is read back as.
* `Record.Survives` — whether a record is read back.

## Main results

* `Record.decodeRow_eq` — a query over the type of a record answers the records that are read.
* `ValueType.reads_stored` — a value that is not stored as NULL is read back.
* `RecordField.reads_inserted_iff` — when the value of a field is read back.
* `Database.insert_read_iff` — when the record that was inserted is read back.
-/

set_option autoImplicit false

namespace TypedSql

open Number (Binary32 Binary64 Exact)

/-! ## What is read back -/

/-- A stored row, read as a record. -/
def Record.read (r : Record) (stored : StoredRow) :
    Except DatabaseError (RowValues r.rowFields) := do
  let cells ← (Database.readRow r.columns stored.values).mapError .store
  (RowValues.decode r.rowFields cells).mapError fun e => .refused (.decode e)

/-- A query over the type of a record answers the rows of the records that it reads. -/
theorem Record.decodeRow_eq {r : Record} {label : String} {q : Query}
    (hsource : q.source = r.tableType label) (hcolumns : q.table.columns = r.columns)
    (stored : StoredRow) :
    Database.decodeRow q stored = (r.read stored).map (·.encode) := by
  rw [Database.decodeRow, read, hcolumns, hsource]
  cases Database.readRow r.columns stored.values with
  | error e => rfl
  | ok cells =>
    cases hdecode : RowValues.decode r.rowFields cells with
    | error e =>
      dsimp only
      rw [recode_of_failure hdecode label]
      show _ = Except.map _ ((RowValues.decode r.rowFields cells).mapError _)
      rw [hdecode]
      rfl
    | ok y =>
      dsimp only
      rw [recode_of_decode hdecode label]
      show _ = Except.map _ ((RowValues.decode r.rowFields cells).mapError _)
      rw [hdecode]
      rfl

/-- Whether a value is read back from a store as another one: a number as one of the same value, as
zero has no sign there, and any other value as from its cell. -/
def ValueType.KeptAs (t : ValueType) (v w : t.Carrier) : Prop :=
  if t.scalar = .real then (t.codec.encode v).toDatum.equals (t.codec.encode w).toDatum = true
  else t.ReadsAs v w

/-- Whether a value is a given integer. -/
def FieldType.IsNumber (n : Int) : (t : FieldType) → t.Carrier → Prop
  | .required (.integer _), w => w.val = n
  | _, _ => False

/-- Whether a given integer is a value of a type. -/
def FieldType.HoldsNumber (n : Int) : FieldType → Prop
  | .required (.integer t) => t.Holds n
  | _ => False

/-- Whether the value of a field is returned by a row of a given number as another one: an
auto-increment key as the number, any other value as itself. -/
def RecordField.IsReturned (n : Int) (f : RecordField) (v w : f.type.Carrier) : Prop :=
  if f.column.autoIncrement = true then f.type.IsNumber n w
  else f.type.Lifts ValueType.KeptAs v w

/-- Whether a record is read back from a row of a given number: no cell is a real that is not a
number, none is NULL in a column with the row numbers, and the number is a value of the
auto-increment key. -/
structure Record.Survives (r : Record) (table : Table) (n : Int) (x : RowValues r.rowFields) :
    Prop where
  numbers : ∀ c ∈ x.encode, c.isNaN = false
  keys : ∀ p ∈ r.columns.zip x.encode, table.Numbers p.1 → p.2 ≠ .null
  range : ∀ f ∈ r.fields, f.column.autoIncrement = true → f.type.HoldsNumber n

/-! ## Values -/

/-- Whether a stored value is read as a value of a field. -/
def FieldType.Reads (t : FieldType) (x : Datum) (w : t.Carrier) : Prop :=
  ∃ c, Database.readDatum? t.kind.scalar x = some c ∧ t.codec.decode c = .ok w

/-- An exact value is equal to itself. -/
lemma Number.Exact.compare_self (u : Exact) : u.compare u = .eq := by
  cases u with
  | rational a d => rw [compare_rational]
  | negativeInfinity | positiveInfinity => rfl

/-- A real is kept in a real column, but for the sign of zero. -/
lemma Scalar.store_real_cases {x : Binary64} (h : x.isNaN = false) :
    ∃ y, store .real (.real x) = .real y ∧ y.isNaN = false ∧ (y = x ∨ y = .zero) ∧
      Datum.equals (.real x) (.real y) = true := by
  obtain ⟨u, hu⟩ := Binary64.exists_value?_of_not_isNaN h
  have hx : Datum.number? (.real x) = some u := hu
  rw [store_real hu]
  split
  · rename_i hzero
    have hequals : Datum.equals (.real x) (.int 0) = true := (Datum.equals_number hx rfl).mpr hzero
    exact ⟨.zero, rfl, by decide, .inr rfl,
      Datum.equals_trans h rfl (by decide) hequals (by decide +kernel)⟩
  · exact ⟨x, rfl, h, .inl rfl, (Datum.equals_number hx hx).mpr u.compare_self⟩

/-- What is no single real is no double real. -/
lemma Number.Binary64.isNaN_ofBinary32 {x : Binary32} (h : x.isNaN = true) :
    (ofBinary32 x).isNaN = true := by
  have hnan : x.reading = .nan := by simpa [Binary32.isNaN] using h
  rw [ofBinary32, hnan]
  decide

/-- A cell is stored as NULL if it is NULL, or a real that is not a number. -/
lemma Cell.toDatum_eq_null_iff {c : Cell} :
    c.toDatum = .null ↔ c = .null ∨ c.isNaN = true := by
  cases c <;> simp [toDatum, isNaN]

namespace ValueType

/-- Only a real may not be a number. -/
lemma scalar_of_isNaN {t : ValueType} {v : t.Carrier} (h : (t.codec.encode v).isNaN = true) :
    t.scalar = .real := by
  cases t with
  | real32 | real64 => rfl
  | text | integer | boolean | instant | dateTime | bytes => cases h

/-- The real that a number is stored as is read as a number that would be stored as it. -/
lemma exists_decode_real {t : ValueType} {v : t.Carrier} {x y : Binary64}
    (hv : t.codec.encode v = .real x) (hx : x.isNaN = false) (hy : y = x ∨ y = .zero) :
    ∃ w, t.codec.decode (.real y) = .ok w ∧ t.codec.encode w = .real y := by
  cases t with
  | real64 => exact ⟨y, rfl, rfl⟩
  | real32 =>
    obtain rfl := Cell.real.inj hv
    refine ⟨y.toBinary32, rfl, congrArg Cell.real ?_⟩
    rcases hy with rfl | rfl
    · rcases Binary64.toBinary32_ofBinary32 v with heq | ⟨hnan, -⟩
      · rw [heq]
      · rw [Binary64.isNaN_ofBinary32 hnan] at hx
        cases hx
    · decide +kernel
  | text | integer | boolean | instant | dateTime | bytes => cases hv

/-- A real that is a number is read back as one of the same value. -/
lemma reads_stored_real {t : ValueType} (ht : t.scalar = .real) {v : t.Carrier}
    (h : (t.codec.encode v).isNaN = false) :
    ∃ c w, Database.readDatum? t.scalar (t.scalar.store (t.codec.encode v).toDatum) = some c ∧
      c ≠ .null ∧ t.codec.decode c = .ok w ∧
      (t.codec.encode v).toDatum.equals (t.codec.encode w).toDatum = true := by
  have hdatum {x : Binary64} (hx : x.isNaN = false) : (Cell.real x).toDatum = .real x := by
    rw [Cell.toDatum, hx]
    rfl
  obtain ⟨x, hv⟩ : ∃ x, t.codec.encode v = .real x := by
    cases t with
    | real32 | real64 => exact ⟨_, rfl⟩
    | text | integer | boolean | instant | dateTime | bytes => cases ht
  rw [hv] at h ⊢
  obtain ⟨y, hstore, hy, hcases, hequals⟩ := Scalar.store_real_cases h
  obtain ⟨w, hdecode, hw⟩ := exists_decode_real hv h hcases
  refine ⟨.real y, w, ?_, Cell.noConfusion, hdecode, ?_⟩
  · rw [ht, hdatum h, hstore]
    rfl
  · rw [hdatum h, hw, hdatum hy, hequals]

/-- A value that is not stored as NULL is read back, from a cell that is not NULL. -/
theorem reads_stored {t : ValueType} {v : t.Carrier} (h : (t.codec.encode v).isNaN = false) :
    ∃ c w, Database.readDatum? t.scalar (t.scalar.store (t.codec.encode v).toDatum) = some c ∧
      c ≠ .null ∧ t.codec.decode c = .ok w ∧ t.KeptAs v w := by
  by_cases hreal : t.scalar = .real
  · obtain ⟨c, w, hread, hc, hdecode, hw⟩ := reads_stored_real hreal h
    exact ⟨c, w, hread, hc, hdecode, by rwa [KeptAs, if_pos hreal]⟩
  · have hread : Database.readDatum? t.scalar (t.scalar.store (t.codec.encode v).toDatum) =
        some (t.codec.encode v) := by
      cases t with
      | text | dateTime | bytes => rfl
      | integer t => exact congrArg (some ∘ Cell.int) (Int64.ofInt_toInt _)
      | instant => exact congrArg (some ∘ Cell.int) (Int64.ofInt_toInt _)
      | boolean => cases v <;> rfl
      | real32 | real64 => exact absurd rfl hreal
    obtain ⟨w, hdecode, hw⟩ := t.decode_encode v
    exact ⟨_, w, hread, t.encode_ne_null v, hdecode, by rwa [KeptAs, if_neg hreal]⟩

end ValueType

/-! ## Fields -/

namespace FieldType

/-- What is stored of a value that is neither absent nor NaN is read back as it. -/
lemma reads_stored {t : FieldType} {v : t.Carrier} (hnull : t.codec.encode v ≠ .null)
    (hnan : (t.codec.encode v).isNaN = false) :
    ∃ w, t.Reads (t.kind.scalar.store (t.codec.encode v).toDatum) w ∧
      t.Lifts ValueType.KeptAs v w := by
  rcases t with t | t
  · obtain ⟨c, w, hread, -, hdecode, hw⟩ := ValueType.reads_stored hnan
    exact ⟨w, ⟨c, hread, hdecode⟩, hw⟩
  · rcases v with _ | v
    · exact absurd rfl hnull
    · obtain ⟨c, w, hread, hc, hdecode, hw⟩ := ValueType.reads_stored (v := v) hnan
      refine ⟨some w, ⟨c, hread, ?_⟩, .some hw⟩
      exact (Codec.decode_optional _ hc).trans (by rw [hdecode]; rfl)

/-- Only a real may not be a number. -/
lemma scalar_of_isNaN {t : FieldType} {v : t.Carrier} (h : (t.codec.encode v).isNaN = true) :
    t.kind.scalar = .real := by
  rcases t with t | t
  · exact ValueType.scalar_of_isNaN h
  · rcases v with _ | v
    · cases h
    · exact ValueType.scalar_of_isNaN (v := v) h

/-- NULL is read as an absent value. -/
lemma reads_null {t : ValueType} {w : (optional t).Carrier} :
    (optional t).Reads .null w ↔ w = none := by
  have hread (s : Scalar) : Database.readDatum? s .null = some .null := by cases s <;> rfl
  constructor
  · rintro ⟨c, hc, hdecode⟩
    obtain rfl := Option.some.inj ((hread _).symm.trans hc)
    exact (Except.ok.inj hdecode).symm
  · rintro rfl
    exact ⟨.null, hread _, rfl⟩

/-- An integer is not read as an absent value. -/
lemma not_reads_int {t : ValueType} {n : Int} : ¬ (optional t).Reads (.int n) none := by
  rintro ⟨c, hc, hdecode⟩
  have hne : c ≠ .null := by
    rintro rfl
    cases t <;> cases hc
  rw [codec, Codec.decode_optional _ hne] at hdecode
  obtain ⟨w, -, hw⟩ := except_map_ok.mp hdecode
  cases hw

/-- A number is read as a value of an integer type if it is one. -/
lemma reads_number_iff {t : IntegerType} {n : Int} :
    (∃ w, (required (.integer t)).Reads (.int n) w ∧ IsNumber n (.required (.integer t)) w) ↔
      t.Holds n := by
  constructor
  · rintro ⟨w, -, rfl⟩
    exact w.property
  · intro h
    exact ⟨⟨n, h⟩, ⟨.int (Int64.ofInt n), rfl, Codec.decode_integer ⟨n, h⟩⟩, rfl⟩

/-- A field of a column that holds integers alone has an integer type. -/
lemma exists_of_kind {t : FieldType} (h : t.kind = .plain .integer) :
    ∃ i, t = .required (.integer i) := by
  rcases t with t | t
  · cases t with
    | integer i => exact ⟨i, rfl⟩
    | text | real32 | real64 | boolean | instant | dateTime | bytes => cases h
  · have hlayers : 1 = 0 := congrArg Kind.layers h
    cases hlayers

end FieldType

namespace RecordField

variable {table : Table} {f : RecordField} {n : Int} {v : f.type.Carrier}

/-- An auto-increment key is returned as the row number, if this is one of its values. -/
lemma reads_autoIncrement_iff (hkind : f.column.kind = f.type.kind)
    (hcolumn : f.column ∈ table.columns) (hauto : f.column.autoIncrement = true) :
    (∃ w, f.type.Reads (table.inserted n f.column (f.type.codec.encode v)) w ∧
      f.IsReturned n v w) ↔ f.type.HoldsNumber n := by
  obtain ⟨accessor, type, column⟩ := f
  obtain ⟨i, rfl⟩ := FieldType.exists_of_kind (hkind ▸ table.kind_of_autoIncrement hcolumn hauto)
  have hnumber :
      table.inserted n column ((FieldType.required (.integer i)).codec.encode v) = .int n :=
    if_pos ⟨Table.numbers_of_autoIncrement hcolumn hauto, .inl hauto⟩
  simp only [IsReturned, if_pos hauto, hnumber]
  exact FieldType.reads_number_iff

/-- A value that is given is returned, unless it is not a number, or the row number is put in its
place. -/
lemma reads_given_iff (hkind : f.column.kind = f.type.kind)
    (hauto : f.column.autoIncrement = false)
    (hcomplete : table.inserted n f.column (f.type.codec.encode v) = .null →
      f.column.kind.isNullable = true) :
    (∃ w, f.type.Reads (table.inserted n f.column (f.type.codec.encode v)) w ∧
      f.IsReturned n v w) ↔
      (f.type.codec.encode v).isNaN = false ∧
        (table.Numbers f.column → f.type.codec.encode v ≠ .null) := by
  obtain ⟨accessor, type, column⟩ := f
  dsimp only at hkind hauto hcomplete v ⊢
  simp only [IsReturned, hauto, Bool.false_eq_true, if_false]
  by_cases hnull : type.codec.encode v = .null
  · -- the value is absent: the row number may be put in its place
    rcases type with t | t
    · exact absurd hnull (t.encode_ne_null v)
    rcases v with _ | v
    · rw [hnull]
      by_cases hnumbers : table.Numbers column
      · have hstored : table.inserted n column .null = .int n := if_pos ⟨hnumbers, .inr rfl⟩
        rw [hstored]
        refine iff_of_false ?_ fun h => h.2 hnumbers rfl
        rintro ⟨w, hread, hw⟩
        cases hw
        exact FieldType.not_reads_int hread
      · have hstored : table.inserted n column .null = .null :=
          (if_neg fun h => hnumbers h.1).trans (Scalar.store_eq_null.mpr rfl)
        rw [hstored]
        exact iff_of_true ⟨none, FieldType.reads_null.mpr rfl, .none⟩
          ⟨rfl, fun h => absurd h hnumbers⟩
    · exact absurd hnull (t.encode_ne_null v)
  · by_cases hnan : (type.codec.encode v).isNaN = true
    · -- the value is not a number, so that NULL is stored, which may only be read as absent
      have hstored : table.inserted n column (type.codec.encode v) = .null := by
        have hreal : ¬ table.Numbers column := by
          rintro ⟨-, hinteger⟩
          rw [hkind, Kind.sqlType, FieldType.scalar_of_isNaN hnan] at hinteger
          exact absurd hinteger (by decide)
        rw [Table.inserted, if_neg fun h => hreal h.1, Scalar.store_eq_null,
          Cell.toDatum_eq_null_iff]
        exact .inr hnan
      refine iff_of_false ?_ fun h => Bool.false_ne_true (h.1.symm.trans hnan)
      rintro ⟨w, hread, hw⟩
      have hnullable := hcomplete hstored
      rw [hstored] at hread
      rw [hkind] at hnullable
      rcases type with t | t
      · cases hnullable
      · obtain rfl := FieldType.reads_null.mp hread
        cases hw
        exact hnull rfl
    · rw [Bool.not_eq_true] at hnan
      have hdatum : (type.codec.encode v).toDatum ≠ .null := fun h =>
        (Cell.toDatum_eq_null_iff.mp h).elim hnull (by simp [hnan])
      have hstored : table.inserted n column (type.codec.encode v) =
          type.kind.scalar.store (type.codec.encode v).toDatum := by
        rw [Table.inserted, if_neg (by simp [hauto, hdatum]), hkind]
      rw [hstored]
      exact iff_of_true (FieldType.reads_stored hnull hnan) ⟨hnan, fun _ => hnull⟩

/-- When the value of a field is returned. -/
theorem reads_inserted_iff (hkind : f.column.kind = f.type.kind)
    (hcolumn : f.column ∈ table.columns)
    (hcomplete : table.inserted n f.column (f.type.codec.encode v) = .null →
      f.column.kind.isNullable = true ∨ f.column.autoIncrement = true) :
    (∃ w, f.type.Reads (table.inserted n f.column (f.type.codec.encode v)) w ∧
      f.IsReturned n v w) ↔
      (f.type.codec.encode v).isNaN = false ∧
        (table.Numbers f.column → f.type.codec.encode v ≠ .null) ∧
        (f.column.autoIncrement = true → f.type.HoldsNumber n) := by
  cases hauto : f.column.autoIncrement with
  | false =>
    simp only [hauto, Bool.false_eq_true, or_false] at hcomplete
    rw [reads_given_iff hkind hauto hcomplete]
    simp
  | true =>
    rw [reads_autoIncrement_iff hkind hcolumn hauto]
    obtain ⟨accessor, type, column⟩ := f
    obtain ⟨i, rfl⟩ := FieldType.exists_of_kind (hkind ▸ table.kind_of_autoIncrement hcolumn hauto)
    exact ⟨fun h => ⟨rfl, fun _ => nofun, fun _ => h⟩, fun h => h.2.2 rfl⟩

end RecordField

/-! ## Rows -/

namespace RowValues

/-- Whether stored values are read as a record. -/
def Reads (fs : List RecordField) (stored : List Datum) (y : RowValues (fs.map (·.rowField))) :
    Prop :=
  ∃ cells, Database.readRow (fs.map (·.column)) stored = .ok cells ∧
    decode (fs.map (·.rowField)) cells = .ok y

/-- Stored values are read as a record field by field. -/
lemma reads_cons_iff {f : RecordField} {fs : List RecordField} {d : Datum} {ds : List Datum}
    (hkind : f.column.kind = f.type.kind) {y : RowValues ((f :: fs).map (·.rowField))} :
    Reads (f :: fs) (d :: ds) y ↔ ∃ w z, f.type.Reads d w ∧ Reads fs ds z ∧ y = .cons w z := by
  constructor
  · rintro ⟨cells, hrow, hdecode⟩
    rw [List.map_cons, Database.readRow, hkind] at hrow
    split at hrow
    · rename_i c hread
      obtain ⟨rest, hrest, rfl⟩ := except_map_ok.mp hrow
      obtain ⟨w, hvalue, hdecode⟩ := except_bind_ok.mp hdecode
      obtain ⟨z, hz, hy⟩ := except_bind_ok.mp hdecode
      exact ⟨w, z, ⟨c, hread, hvalue⟩, ⟨rest, hrest, hz⟩, (except_pure_ok.mp hy).symm⟩
    · cases hrow
  · rintro ⟨w, z, ⟨c, hread, hvalue⟩, ⟨rest, hrest, hz⟩, rfl⟩
    refine ⟨c :: rest, ?_, except_bind_ok.mpr ⟨w, hvalue, except_bind_ok.mpr ⟨z, hz, rfl⟩⟩⟩
    rw [List.map_cons, Database.readRow, hkind, hread]
    exact except_map_ok.mpr ⟨rest, hrest, rfl⟩

/-- When the values that an insertion stores are read back as the record.

The induction goes along the fields; each condition splits into that of the first field and those of
the others. -/
lemma reads_inserted_iff {table : Table} {n : Int} (fs : List RecordField)
    (x : RowValues (fs.map (·.rowField))) (hkinds : ∀ f ∈ fs, f.column.kind = f.type.kind)
    (hcolumns : ∀ f ∈ fs, f.column ∈ table.columns)
    (hcomplete : ∀ p ∈ (fs.map (·.column)).zip x.encode, table.inserted n p.1 p.2 = .null →
      p.1.kind.isNullable = true ∨ p.1.autoIncrement = true) :
    (∃ y, Reads fs (List.zipWith (table.inserted n) (fs.map (·.column)) x.encode) y ∧
      Relates (RecordField.IsReturned n) fs x y) ↔
      (∀ c ∈ x.encode, c.isNaN = false) ∧
        (∀ p ∈ (fs.map (·.column)).zip x.encode, table.Numbers p.1 → p.2 ≠ .null) ∧
        ∀ f ∈ fs, f.column.autoIncrement = true → f.type.HoldsNumber n := by
  induction fs with
  | nil =>
    rcases x with _ | _
    exact iff_of_true ⟨.nil, ⟨[], rfl, rfl⟩, trivial⟩
      ⟨List.forall_mem_nil _, List.forall_mem_nil _, List.forall_mem_nil _⟩
  | cons f fs ih =>
    rcases x with _ | ⟨v, x⟩
    obtain ⟨hkind, hkinds⟩ := List.forall_mem_cons.mp hkinds
    obtain ⟨hcolumn, hcolumns⟩ := List.forall_mem_cons.mp hcolumns
    obtain ⟨hfirst, hcomplete⟩ := List.forall_mem_cons.mp hcomplete
    have hfield := RecordField.reads_inserted_iff hkind hcolumn hfirst
    have hrest := ih x hkinds hcolumns hcomplete
    calc
      _ ↔ (∃ w, f.type.Reads (table.inserted n f.column (f.type.codec.encode v)) w ∧
            f.IsReturned n v w) ∧
          ∃ z, Reads fs (List.zipWith (table.inserted n) (fs.map (·.column)) x.encode) z ∧
            Relates (RecordField.IsReturned n) fs x z := by
        constructor
        · rintro ⟨y, hy, hrelates⟩
          obtain ⟨w, z, hw, hz, rfl⟩ := (reads_cons_iff hkind).mp hy
          exact ⟨⟨w, hw, hrelates.1⟩, z, hz, hrelates.2⟩
        · rintro ⟨⟨w, hw, hreturned⟩, z, hz, hrelates⟩
          exact ⟨.cons w z, (reads_cons_iff hkind).mpr ⟨w, z, hw, hz, rfl⟩, hreturned, hrelates⟩
      _ ↔ _ := by
        rw [hfield, hrest]
        simp only [encode, List.map_cons, List.zip_cons_cons, List.forall_mem_cons]
        constructor
        · rintro ⟨⟨hnumber, hkey, hrange⟩, hnumbers, hkeys, hranges⟩
          exact ⟨⟨hnumber, hnumbers⟩, ⟨hkey, hkeys⟩, hrange, hranges⟩
        · rintro ⟨⟨hnumber, hnumbers⟩, ⟨hkey, hkeys⟩, hrange, hranges⟩
          exact ⟨⟨hnumber, hkey, hrange⟩, hnumbers, hkeys, hranges⟩

end RowValues

/-! ## Records -/

/-- The columns of a derived record have the kinds of its fields. -/
lemma RecordDeclaration.kind_of_derive {d : RecordDeclaration} {r : Record}
    (h : d.derive = .ok r) : ∀ f ∈ r.fields, f.column.kind = f.type.kind := by
  obtain ⟨name, -, h⟩ := except_bind_ok.mp h
  obtain ⟨-, -, h⟩ := except_bind_ok.mp h
  obtain ⟨options, -, h⟩ := except_bind_ok.mp h
  obtain ⟨-, -, h⟩ := except_bind_ok.mp h
  rw [← except_pure_ok.mp h]
  intro f hf
  obtain ⟨⟨field, o⟩, -, rfl⟩ := List.mem_map.mp hf
  rfl

/-- A stored row is read as a record if its values are. -/
lemma Record.read_ok_iff {r : Record} {stored : StoredRow} {y : RowValues r.rowFields} :
    r.read stored = .ok y ↔ RowValues.Reads r.fields stored.values y := by
  constructor
  · intro h
    obtain ⟨cells, hrow, h⟩ := except_bind_ok.mp h
    exact ⟨cells, except_mapError_ok.mp hrow, except_mapError_ok.mp h⟩
  · rintro ⟨cells, hrow, h⟩
    exact except_bind_ok.mpr ⟨cells, except_mapError_ok.mpr hrow, except_mapError_ok.mpr h⟩

/-- A stored row has NULL only in columns that admit it, or that the database counts up. -/
lemma StoredTable.IsInserted.isNullable {t : StoredTable} {row : List Cell} {r : StoredRow}
    (h : t.IsInserted row r) : ∀ p ∈ t.declared.columns.zip row,
      t.declared.inserted r.number p.1 p.2 = .null →
        p.1.kind.isNullable = true ∨ p.1.autoIncrement = true := by
  intro p hp hnull
  have hzip : (p.1, t.declared.inserted r.number p.1 p.2) ∈ t.declared.columns.zip r.values := by
    obtain ⟨i, hi⟩ := List.mem_iff_getElem?.mp hp
    obtain ⟨hc, hx⟩ := List.getElem?_zip_eq_some.mp hi
    refine List.mem_iff_getElem?.mpr ⟨i, List.getElem?_zip_eq_some.mpr ⟨hc, ?_⟩⟩
    rw [h.values, List.getElem?_zipWith, hc, hx]
  have hfault := List.findSome?_eq_none_iff.mp h.complete _ hzip
  rw [hnull] at hfault
  by_contra hneither
  rw [not_or, Bool.not_eq_true, Bool.not_eq_true] at hneither
  simp [hneither, Datum.isNull] at hfault

/-- A record that is inserted into the table of its type is stored in one new row, which has the
number that is answered. It is read back as the record with this number in its auto-increment key,
with points in time and date-times cut to what is stored of them, if and only if no cell is a real
that is not a number, none is NULL in a column with the row numbers, and the number is a value of
the auto-increment key.

Proof sketch. The registry is sound, and the columns of the table have different names; so the store
has put the stored form of each cell, or the row number, in the column of its field. A stored form
is read back as its value, field by field: a number is stored as itself, but for the sign of zero,
and every other value as what its cell is. NULL is only read as an absent value, and so comes from
one, unless it stands for a real that is not a number; and a row number in the place of NULL is read
as a value that is there. -/
theorem Database.insert_read_iff {config : ConnectionConfig} {opened : Database}
    (hopened : connect config = .ok opened) (calls : List Call) {d : RecordDeclaration} {r : Record}
    (hderived : d.derive = .ok r) (label : String) {table : StoredTable}
    (hstored : (run calls opened).store.table r.table = .ok table)
    (hdeclared : (r.tableType label).table = .ok table.declared) {x : RowValues r.rowFields}
    {n : Int} {db : Database}
    (hinsert : insert (r.tableType label) x.encode (run calls opened) = (.ok n, db)) :
    ∃ row, row.number = n ∧ db.store.table r.table = .ok (table.insertRow row) ∧
      ((∃ y, r.read row = .ok y ∧ RowValues.Relates (RecordField.IsReturned n) r.fields x y) ↔
        r.Survives table.declared n x) := by
  obtain ⟨row, rfl, hinserted, hstore⟩ :=
    insert_ok (isSound_run hopened calls) hstored hdeclared hinsert
  have hcolumns : table.declared.columns = r.columns := (TableType.table_ok_iff.mp hdeclared).2
  refine ⟨row, rfl, by rw [hstore]; exact Store.table_put hstored rfl, ?_⟩
  have hcomplete := hinserted.isNullable
  have hvalues := hinserted.values
  rw [hcolumns] at hcomplete hvalues
  simp only [Record.read_ok_iff, hvalues]
  refine (RowValues.reads_inserted_iff r.fields x (RecordDeclaration.kind_of_derive hderived)
    (fun f hf => ?_) hcomplete).trans ⟨fun h => ⟨h.1, h.2.1, h.2.2⟩, fun h => ⟨h.1, h.2, h.3⟩⟩
  rw [hcolumns]
  exact List.mem_map_of_mem hf

namespace Sample

/-- Events, which the database counts, each with a title and perhaps a score. -/
def eventDeclaration : RecordDeclaration where
  name := "Event"
  fields := [⟨"id", .required (.integer .int64), [⟨"column", some [⟨"autoincrement", none⟩]⟩]⟩,
    ⟨"title", .required .text, []⟩, ⟨"score", .optional .real64, []⟩]

/-- The record of an event. -/
def event : Record where
  table := "event"
  fields := [⟨"id", .required (.integer .int64), (Column.new "id" (.plain .integer)).asAutoKey⟩,
    ⟨"title", .required .text, .new "title" (.plain .text)⟩,
    ⟨"score", .optional .real64, .new "score" (.optional .real)⟩]

/-- The table type of events. -/
def eventType : TableType := event.tableType "Event"

/-- A final with a score. -/
def final (id : ValueType.Carrier (.integer .int64)) (score : Option Binary64) :
    RowValues event.rowFields :=
  .cons id (.cons "Final" (.cons score .nil))

/-- A database in memory, with the table of events. -/
def eventDatabase : Database :=
  Database.run [.createTable eventType]
    { registry := { log := [.connected "sqlite::memory:" 1] } }

/-- The table of events without rows. -/
def events : StoredTable where
  declared := ⟨"event", event.columns, by decide +kernel⟩

/-- The database holds the table of events. -/
lemma events_stored : eventDatabase.store.table "event" = .ok events := by
  have hfields :
      (eventDatabase.store.table "event").map (fun t => (t.declared, t.rows, t.lastNumber)) =
        .ok (events.declared, [], 0) := by decide +kernel
  obtain ⟨⟨declared, rows, lastNumber⟩, htable, heq⟩ := except_map_ok.mp hfields
  cases heq
  exact htable

/-- A final with a score of three is read back with its number. -/
theorem final_returned :
    (Database.insert eventType (final ⟨0, by decide⟩ (some (.ofInt 3))).encode eventDatabase).1 =
      .ok 1 ∧
    ∃ row, row.number = 1 ∧
      (Database.insert eventType (final ⟨0, by decide⟩ (some (.ofInt 3))).encode
        eventDatabase).2.store.table "event" = .ok (events.insertRow row) ∧
      ∃ y, event.read row = .ok y ∧ RowValues.Relates (RecordField.IsReturned 1) event.fields
        (final ⟨0, by decide⟩ (some (.ofInt 3))) y := by
  have hname : ConnectionConfig.fileName? {} = some ":memory:" := by decide +kernel
  have hopened : Database.connect {} =
      .ok { registry := { log := [.connected "sqlite::memory:" 1] } } := by
    simp only [Database.connect, hname]
    rfl
  have hderived : eventDeclaration.derive = .ok event := by decide +kernel
  have hinsert : (Database.insert eventType (final ⟨0, by decide⟩ (some (.ofInt 3))).encode
      eventDatabase).1 = .ok 1 := by decide +kernel
  obtain ⟨row, hnumber, hrow, hread⟩ := Database.insert_read_iff hopened [.createTable eventType]
    hderived "Event" events_stored (TableType.table_ok_iff.mpr ⟨rfl, rfl⟩) (Prod.ext hinsert rfl)
  refine ⟨hinsert, row, hnumber, hrow, hread.mpr ⟨by decide +kernel, by decide +kernel, ?_⟩⟩
  refine List.forall_mem_cons.mpr ⟨fun _ => (by decide : IntegerType.int64.Holds 1), ?_⟩
  simp [Column.new]

/-- A score that is not a number is accepted, and read back as no score. -/
theorem nan_absent :
    eventDeclaration.derive = .ok event ∧
    (Database.insert eventType (final ⟨0, by decide⟩ (some .nan)).encode eventDatabase).1 =
      .ok 1 ∧
    (Database.insert eventType (final ⟨0, by decide⟩ (some .nan)).encode
      eventDatabase).2.store.tables.map (·.rows) = [[⟨1, [.int 1, .text "Final", .null]⟩]] ∧
    event.read ⟨1, [.int 1, .text "Final", .null]⟩ = .ok (final ⟨1, by decide⟩ none) ∧
    ¬ RowValues.Relates (RecordField.IsReturned 1) event.fields
      (final ⟨0, by decide⟩ (some .nan)) (final ⟨1, by decide⟩ none) := by
  refine ⟨by decide +kernel, by decide +kernel, by decide +kernel, rfl, ?_⟩
  rintro ⟨-, -, hscore, -⟩
  cases hscore

end Sample

end TypedSql
