import TypedSql.Proofs.Calendar.TextOrder
import TypedSql.Proofs.Codec.StoredRecord

/-!
# Arguments that a query takes for what they are read as

An argument of a query is a cell that the kind of its parameter accepts. Cells are read more
generously than they are written: any integer but zero is read as true, and a date-time may be read
from several texts. Each value is written as one cell, and in the column of its type it is stored as
this cell. So the query that compares the column with an argument finds the rows whose value is that
of the argument exactly if the argument is a cell as values are written. Otherwise it finds nothing,
although the argument is accepted.

## Main definitions

* `Scalar.Writes` — the cells that equal one as which a value is written.
* `StoredTable.Holds` — the tables whose rows have values of a type in a column.

## Main results

* `FieldType.encode_equals_iff` — the cell of the value that an argument is read as equals the
  argument if and only if values are written as it.
* `FieldType.stored_equals_iff` — which stored values equal an argument.
* `Query.exists_compile_equal` — a column may be compared with a parameter of its kind.
* `Query.equal_argument_selects` — which rows the comparison selects.
-/

set_option autoImplicit false

namespace TypedSql

open Calendar (Instant DateTime)

/-! ## Cells as values are written -/

/-- Whether a value of a scalar kind is written as a cell, or as one that equals it: a boolean as
one or zero, a date-time as its text. No value is written as NULL. -/
def Scalar.Writes : Scalar → Cell → Prop
  | _, .null => False
  | .boolean, .int n => n = 0 ∨ n = 1
  | .dateTime, .text s => ∃ t : DateTime, String.ofList t.text = s
  | _, _ => True

namespace Scalar

variable {s : Scalar} {c d : Cell}

/-- NULL is the written form of no value. -/
lemma not_writes_null : ¬ s.Writes .null := by
  cases s <;> exact id

/-- Cells of a kind other than the reals are equal if they are stored as the same value. -/
lemma equals_iff_eq (hs : s ≠ .real) (hc : s.admitsType c.type = true)
    (hd : s.admitsType d.type = true) :
    c.toDatum.equals d.toDatum = true ↔ c.toDatum = d.toDatum := by
  cases s with
  | text | dateTime =>
    cases c <;> cases hc
    cases d <;> cases hd
    simp only [Cell.toDatum, Datum.equals_text, Datum.text.injEq]
  | blob =>
    cases c <;> cases hc
    cases d <;> cases hd
    simp only [Cell.toDatum, Datum.equals_blob, Datum.blob.injEq]
  | integer | timestamp =>
    cases c <;> cases hc
    cases d <;> cases hd
    simp only [Cell.toDatum, Datum.equals_int, Datum.int.injEq]
  | boolean =>
    cases c <;> cases hc <;> cases d <;> cases hd <;>
      simp only [Cell.toDatum, Datum.equals_int, Datum.int.injEq]
  | real => exact absurd rfl hs

end Scalar

namespace Codec

/-- An integer is written as the cell that it is read from. -/
lemma encode_integer_of_decode {i : IntegerType} {n : Int64} {v : { m : Int // i.Holds m }}
    (h : (integer i).decode (.int n) = .ok v) : (integer i).encode v = .int n := by
  obtain ⟨m, hm, hv⟩ := except_bind_ok.mp h
  obtain rfl := Except.ok.inj hm
  split at hv <;> cases hv
  exact congrArg Cell.int (Int64.ofInt_toInt n)

/-- A point in time is written as the cell that it is read from. -/
lemma encode_instant_of_decode {n : Int64} {v : Instant} (h : instant.decode (.int n) = .ok v) :
    instant.encode v = .int n := by
  obtain ⟨m, hm, hv⟩ := except_bind_ok.mp h
  obtain rfl := Except.ok.inj hm
  split at hv <;> cases hv
  rename_i hinstant
  obtain ⟨_, hsome⟩ := Option.dite_none_right_eq_some.mp hinstant
  obtain rfl := Option.some.inj hsome
  exact congrArg Cell.int (Int64.ofInt_toInt n)

/-- A text is read as the date-time that it is parsed to. -/
lemma decode_dateTime_of_parse {s : String} {u : DateTime}
    (h : DateTime.parse? s.toList = some u) : dateTime.decode (.text s) = .ok u := by
  simp only [dateTime, Codec.text, bind, Except.bind, h]

end Codec

namespace ValueType

variable {t : ValueType} {c d : Cell} {v w : t.Carrier}

/-- The cell of a value is accepted by the kind of its type. -/
lemma admitsType_encode (t : ValueType) (v : t.Carrier) :
    t.scalar.admitsType (t.codec.encode v).type = true := by
  cases t <;> rfl

/-- The cell of a value is in written form. -/
lemma writes_encode (t : ValueType) (v : t.Carrier) : t.scalar.Writes (t.codec.encode v) := by
  cases t with
  | dateTime => exact ⟨v, rfl⟩
  | text | integer | real32 | real64 | boolean | instant | bytes => trivial

/-- A value other than a real is stored as its cell, which is read back. -/
lemma readDatum?_store (ht : t.scalar ≠ .real) (v : t.Carrier) :
    t.scalar.store (t.codec.encode v).toDatum = (t.codec.encode v).toDatum ∧
      Database.readDatum? t.scalar (t.codec.encode v).toDatum = some (t.codec.encode v) := by
  cases t with
  | text | dateTime | bytes => exact ⟨rfl, rfl⟩
  | integer | instant => exact ⟨rfl, congrArg (some ∘ Cell.int) (Int64.ofInt_toInt _)⟩
  | boolean => cases v <;> exact ⟨rfl, rfl⟩
  | real32 | real64 => exact absurd rfl ht

/-- A boolean is read as whether it is stored as something else than zero. -/
lemma decode_boolean (hc : Scalar.admitsType .boolean c.type = true) :
    Codec.boolean.decode c = .ok (c.toDatum != .int 0) := by
  cases c with
  | bool b => cases b <;> rfl
  | int n =>
    have hzero : (n != 0) = (Datum.int n.toInt != .int 0) := by
      rw [Bool.eq_iff_iff, bne_iff_ne, bne_iff_ne, ne_eq, ne_eq, Datum.int.injEq,
        ← Int64.toInt_inj, Int64.toInt_zero]
    exact congrArg Except.ok hzero
  | null | real | text | blob => cases hc

/-- Cells that are stored as the same value are read as the same value. -/
lemma decode_congr (ht : t.scalar ≠ .real) (hc : t.scalar.admitsType c.type = true)
    (hd : t.scalar.admitsType d.type = true) (h : c.toDatum = d.toDatum) :
    t.codec.decode c = t.codec.decode d := by
  cases t with
  | text | dateTime | bytes =>
    cases c <;> cases hc
    cases d <;> cases hd
    cases h
    rfl
  | integer | instant =>
    cases c <;> cases hc
    cases d <;> cases hd
    rw [Int64.toInt_inj.mp (Datum.int.inj h)]
  | boolean => exact (decode_boolean hc).trans (h ▸ (decode_boolean hd).symm)
  | real32 | real64 => exact absurd rfl ht

/-- A truth value is written as the cell that it is read from if this cell is one or zero. -/
lemma toDatum_encode_boolean_iff {b : Bool} (hc : Scalar.admitsType .boolean c.type = true)
    (h : Codec.boolean.decode c = .ok b) :
    (Codec.boolean.encode b).toDatum = c.toDatum ↔ Scalar.Writes .boolean c := by
  obtain rfl := Except.ok.inj ((decode_boolean hc).symm.trans h)
  cases c with
  | bool b => cases b <;> exact iff_of_true rfl trivial
  | int n =>
    have hone : n = 1 ↔ n.toInt = 1 := by rw [← Int64.toInt_inj, Int64.toInt_one]
    have hzero : n = 0 ↔ n.toInt = 0 := by rw [← Int64.toInt_inj, Int64.toInt_zero]
    simp only [Scalar.Writes, hone, hzero, Codec.boolean, Cell.toDatum, Datum.int.injEq,
      bne_iff_ne, ne_eq]
    split <;> omega
  | null | real | text | blob => cases hc

/-- A date-time is written as the text that it is read from if any date-time is. -/
lemma toDatum_encode_dateTime_iff {u : DateTime}
    (hc : Scalar.admitsType .dateTime c.type = true) (h : Codec.dateTime.decode c = .ok u) :
    (Codec.dateTime.encode u).toDatum = c.toDatum ↔ Scalar.Writes .dateTime c := by
  cases c with
  | text s =>
    have hwritten : (Codec.dateTime.encode u).toDatum = (Cell.text s).toDatum ↔
        String.ofList u.text = s := Datum.text.injEq _ _ ▸ Iff.rfl
    rw [hwritten]
    constructor
    · exact fun hs => ⟨u, hs⟩
    · rintro ⟨u', rfl⟩
      have hread := Codec.decode_dateTime u'
      obtain rfl := Except.ok.inj (hread.symm.trans h)
      rw [u'.text_wholeMillis]
  | null | bool | int | real | blob => cases hc

/-- The value that a cell is read as is written as this cell if and only if any value is. -/
lemma toDatum_encode_iff (ht : t.scalar ≠ .real) (hc : t.scalar.admitsType c.type = true)
    (h : t.codec.decode c = .ok v) :
    (t.codec.encode v).toDatum = c.toDatum ↔ t.scalar.Writes c := by
  cases t with
  | text | bytes =>
    cases c <;> cases hc
    cases h
    exact iff_of_true rfl trivial
  | integer =>
    cases c <;> cases hc
    exact iff_of_true (congrArg Cell.toDatum (Codec.encode_integer_of_decode h)) trivial
  | instant =>
    cases c <;> cases hc
    exact iff_of_true (congrArg Cell.toDatum (Codec.encode_instant_of_decode h)) trivial
  | boolean => exact toDatum_encode_boolean_iff hc h
  | dateTime => exact toDatum_encode_dateTime_iff hc h
  | real32 | real64 => exact absurd rfl ht

/-- The cell of the value that an argument is read as equals the argument if and only if values are
written as it. -/
lemma encode_equals_iff (ht : t.scalar ≠ .real) (hc : t.scalar.admitsType c.type = true)
    (h : t.codec.decode c = .ok v) :
    (t.codec.encode v).toDatum.equals c.toDatum = true ↔ t.scalar.Writes c := by
  rw [Scalar.equals_iff_eq ht (t.admitsType_encode v) hc, toDatum_encode_iff ht hc h]

/-- The cell of a value equals an argument if and only if values are written as the argument, and
both are read as the same value. -/
lemma encode_equals_iff_decode (ht : t.scalar ≠ .real) (hc : t.scalar.admitsType c.type = true)
    (h : t.codec.decode c = .ok v) :
    (t.codec.encode w).toDatum.equals c.toDatum = true ↔
      t.scalar.Writes c ∧ t.codec.decode (t.codec.encode w) = .ok v := by
  have hw := t.admitsType_encode w
  rw [Scalar.equals_iff_eq ht hw hc]
  constructor
  · intro heq
    have hread : t.codec.decode (t.codec.encode w) = .ok v := (decode_congr ht hw hc heq).trans h
    have hown : (t.codec.encode v).toDatum = (t.codec.encode w).toDatum :=
      (toDatum_encode_iff ht hw hread).mpr (t.writes_encode w)
    exact ⟨(toDatum_encode_iff ht hc h).mp (hown.trans heq), hread⟩
  · rintro ⟨hwrites, hread⟩
    exact ((toDatum_encode_iff ht hw hread).mpr (t.writes_encode w)).symm.trans
      ((toDatum_encode_iff ht hc h).mpr hwrites)

end ValueType

/-! ## Fields -/

/-- A kind accepts a cell other than NULL if its scalar kind admits the type of the cell. -/
lemma Kind.admitsType_of_accepts {k : Kind} {c : Cell} (h : k.accepts c = true)
    (hc : c ≠ .null) : k.scalar.admitsType c.type = true := by
  have hnull : c.isNull = false := Bool.eq_false_iff.mpr (mt Cell.isNull_iff.mp hc)
  rwa [accepts, if_neg (Bool.eq_false_iff.mp hnull)] at h

namespace FieldType

variable {t : FieldType} {c : Cell} {v : t.Carrier}

/-- A cell other than NULL is read as a value that is there if its value type reads it so. -/
lemma decode_some_iff {t : ValueType} {u : t.Carrier} (hc : c ≠ .null) :
    (optional t).codec.decode c = .ok (some u) ↔ t.codec.decode c = .ok u := by
  have hmap : (optional t).codec.decode c = (t.codec.decode c).map some :=
    Codec.decode_optional _ hc
  rw [hmap]
  constructor
  · intro h
    obtain ⟨u', hu', heq⟩ := except_map_ok.mp h
    exact Option.some.inj heq ▸ hu'
  · exact fun h => except_map_ok.mpr ⟨u, h, rfl⟩

/-- An argument is NULL and read as an absent value, or it is read as a value that is there. -/
lemma decode_optional_cases {t : ValueType} {v : (optional t).Carrier}
    (h : (optional t).codec.decode c = .ok v) :
    c = .null ∧ v = none ∨ c ≠ .null ∧ ∃ u, t.codec.decode c = .ok u ∧ some u = v := by
  by_cases hc : c = .null
  · subst hc
    exact .inl ⟨rfl, (Except.ok.inj h).symm⟩
  · rw [codec, Codec.decode_optional _ hc] at h
    exact .inr ⟨hc, except_map_ok.mp h⟩

/-- The cell of the value that an argument is read as equals the argument if and only if values are
written as it. -/
theorem encode_equals_iff (ht : t.kind.scalar ≠ .real) (hc : t.kind.accepts c = true)
    (h : t.codec.decode c = .ok v) :
    (t.codec.encode v).toDatum.equals c.toDatum = true ↔ t.kind.scalar.Writes c := by
  cases t with
  | required t =>
    have hne : c ≠ .null := by
      rintro rfl
      cases hc
    exact ValueType.encode_equals_iff ht (Kind.admitsType_of_accepts hc hne) h
  | optional t =>
    rcases decode_optional_cases h with ⟨rfl, rfl⟩ | ⟨hne, u, hu, rfl⟩
    · exact iff_of_false Bool.false_ne_true Scalar.not_writes_null
    · exact ValueType.encode_equals_iff ht (Kind.admitsType_of_accepts hc hne) hu

/-- A value of a field without reals is stored as its cell, which is read back. -/
lemma readDatum?_store (ht : t.kind.scalar ≠ .real) (w : t.Carrier) :
    t.kind.scalar.store (t.codec.encode w).toDatum = (t.codec.encode w).toDatum ∧
      Database.readDatum? t.kind.scalar (t.codec.encode w).toDatum = some (t.codec.encode w) := by
  cases t with
  | required t => exact ValueType.readDatum?_store ht w
  | optional t =>
    cases w with
    | none => cases t <;> exact ⟨rfl, rfl⟩
    | some w => exact ValueType.readDatum?_store ht w

/-- The cell of a value equals an argument if and only if values are written as the argument, and
both are read as the same value. -/
lemma encode_equals_iff_decode (ht : t.kind.scalar ≠ .real) (hc : t.kind.accepts c = true)
    (h : t.codec.decode c = .ok v) (w : t.Carrier) :
    (t.codec.encode w).toDatum.equals c.toDatum = true ↔
      t.kind.scalar.Writes c ∧ t.codec.decode (t.codec.encode w) = .ok v := by
  cases t with
  | required t =>
    have hne : c ≠ .null := by
      rintro rfl
      cases hc
    exact ValueType.encode_equals_iff_decode ht (Kind.admitsType_of_accepts hc hne) h
  | optional t =>
    rcases decode_optional_cases h with ⟨rfl, rfl⟩ | ⟨hne, u, hu, rfl⟩
    · refine iff_of_false ?_ fun hwrites => Scalar.not_writes_null hwrites.1
      exact Bool.eq_false_iff.mp (Datum.equals_null_right _)
    · cases w with
      | none => exact iff_of_false Bool.false_ne_true fun hread => nomatch hread.2
      | some w =>
        have hread : (optional t).codec.decode (t.codec.encode w) = .ok (some u) ↔
            t.codec.decode (t.codec.encode w) = .ok u := decode_some_iff (t.encode_ne_null w)
        exact (ValueType.encode_equals_iff_decode ht (Kind.admitsType_of_accepts hc hne) hu).trans
          (and_congr_right fun _ => hread.symm)

/-- A stored value of a type equals an argument if and only if values are written as the argument,
and both are read as the same value. -/
theorem stored_equals_iff (ht : t.kind.scalar ≠ .real) (hc : t.kind.accepts c = true)
    (h : t.codec.decode c = .ok v) (w : t.Carrier) :
    (t.kind.scalar.store (t.codec.encode w).toDatum).equals c.toDatum = true ↔
      t.kind.scalar.Writes c ∧ t.Reads (t.kind.scalar.store (t.codec.encode w).toDatum) v := by
  obtain ⟨hstore, hread⟩ := readDatum?_store ht w
  rw [hstore, encode_equals_iff_decode ht hc h, Reads, hread]
  simp only [Option.some.injEq, exists_eq_left']

end FieldType

/-! ## The comparison of a column with an argument -/

/-- A test that does not fail chooses as a filter does. -/
lemma filterM_ok {ε α : Type} (p : α → Bool) (l : List α) :
    (l.filterM fun a => (.ok (p a) : Except ε Bool)) = .ok (l.filter p) := by
  have hrest (acc : List α) : (l.filterAuxM (fun a => (.ok (p a) : Except ε Bool)) acc) =
      .ok ((l.filter p).reverse ++ acc) := by
    induction l generalizing acc with
    | nil => rfl
    | cons a l ih =>
      have hstep : ((a :: l).filterAuxM (fun a => (.ok (p a) : Except ε Bool)) acc) =
          l.filterAuxM (fun a => (.ok (p a) : Except ε Bool)) (if p a then a :: acc else acc) := by
        cases hp : p a <;> simp [List.filterAuxM, hp, bind, Except.bind]
      rw [hstep, ih, List.filter_cons]
      split <;> simp
  rw [List.filterM, hrest]
  simp [bind, Except.bind, pure, Except.pure]

/-- A comparison is true of equal values alone. -/
lemma truth_apply_equal (x y : Datum) :
    ((BinaryOp.equal.apply x y).truth == some true) = x.equals y := by
  have htruth : (BinaryOp.equal.apply x y).truth = (x.compare? y).map (· == .eq) :=
    Datum.truth_ofTruth _
  rw [htruth, Datum.equals]
  cases x.compare? y with
  | none => rfl
  | some o => cases o <;> rfl

/-- The condition that a column equals the first parameter. -/
def Condition.equalsFirst (table column : String) : Condition :=
  .binary .equal (.column table column) (.placeholder 1)

section Rows

variable {t : StoredTable} {table column : String} {i : Nat} {s : Store}

/-- The comparison with the first parameter is true of the rows whose value equals it. -/
lemma Condition.holds_equalsFirst (hname : sameName t.name table = true)
    (hplace : t.place? column = some i) (tables : List StoredTable) (x : Datum) (row : StoredRow) :
    (equalsFirst table column).holds tables [x] t row = .ok ((row.value i).equals x) := by
  have hvalue : lookupValue [⟨t, row⟩] table column = row.value i := by
    simp [lookupValue, hname, hplace]
  show Except.ok
    ((BinaryOp.equal.apply (lookupValue [⟨t, row⟩] table column) x).truth == some true) =
    Except.ok _
  rw [hvalue, truth_apply_equal]

/-- The query that compares a column with the first parameter answers the rows whose value equals
it, in their order. -/
lemma Store.run_equalsFirst (htable : s.table table = .ok t) (hplace : t.place? column = some i)
    (c : Cell) : s.run ⟨.filter .find table (.equalsFirst table column) [], [c]⟩ =
      .ok (.rows (t.rows.filter fun row => (row.value i).equals c.toDatum), s) := by
  have hname := sameName_of_table htable
  have hresolved : (Condition.equalsFirst table column).unresolved? s.tables [t] = none := by
    simp [Condition.equalsFirst, Condition.unresolved?, hname, hplace]
  have hholds : (Condition.equalsFirst table column).holds s.tables [c.toDatum] t =
      fun row => .ok ((row.value i).equals c.toDatum) :=
    funext (Condition.holds_equalsFirst hname hplace s.tables c.toDatum)
  have hmatching : s.matching t (.equalsFirst table column) [c.toDatum] =
      .ok (t.rows.filter fun row => (row.value i).equals c.toDatum) := by
    rw [matching, hresolved, hholds]
    exact filterM_ok _ t.rows
  -- without sort keys all rows are in order
  have hsort (rows : List StoredRow) : sortRows t [] rows = .ok rows := by
    have hsorted : rows.mergeSort (fun r s => compareRows [] r s != .gt) = rows :=
      List.mergeSort_of_pairwise (List.pairwise_of_forall fun _ _ => rfl)
    exact congrArg Except.ok hsorted
  simp only [run, find, htable, hmatching, hsort, List.map_cons, List.map_nil, bind, Except.bind,
    pure, Except.pure]

end Rows

/-- A joined kind has the scalar kind that it is joined for. -/
lemma Kind.scalar_joined (s : Scalar) (ks : List Kind) : (joined s ks).scalar = s := by
  unfold joined nullableIf
  split
  · exact scalar_nullable _
  · rfl

/-- Whether the rows of a table have values of a type at a place. -/
def StoredTable.Holds (t : StoredTable) (i : Nat) (type : FieldType) : Prop :=
  ∀ row ∈ t.rows, ∃ w : type.Carrier,
    row.value i = type.kind.scalar.store (type.codec.encode w).toDatum

namespace Query

/-- The filter that compares a column with a parameter of a type. -/
def equalFilter (type : FieldType) (column parameter : String) : Expr :=
  .binary ⟨"eq"⟩ .equal (Builder.col column) (Builder.param type parameter)

/-- A column of a valid declaration may be compared with a parameter of its kind, unless it has the
name of a truth value. -/
theorem exists_compile_equal {r : Registry} (hr : r.IsReachable) {t : TableType} (ht : t.IsValid)
    {column : Column} (hcolumn : column ∈ t.columns) (hname : truthName? column.name = none)
    {type : FieldType} (hkind : column.kind = type.kind) (parameter : String) :
    ∃ q r', compile t (equalFilter type column.name parameter) r = (.ok q, r') ∧
      q.table.name = t.name ∧ q.condition = .equalsFirst t.name column.name ∧
      q.arena = ⟨[⟨some parameter, type.kind, none⟩]⟩ ∧ q.order = [] := by
  obtain ⟨table, r₁, hregister⟩ := Registry.register_of_isValid r ht
  obtain ⟨htable, hcolumns⟩ :=
    TableType.table_ok_iff.mp (Registry.register_ok hr.isSound hregister).1
  have hfound : table.column? column.name = some column :=
    Table.column?_eq_some_iff.mpr ⟨hcolumns ▸ hcolumn, rfl⟩
  have hcomparable : column.kind.IsComparable type.kind := .inl (congrArg Kind.scalar hkind)
  have hcompile : (equalFilter type column.name parameter).compile [⟨t, table⟩] table ⟨r₁, {}⟩ =
      (.ok ⟨.equalsFirst table.name column.name,
        Kind.joined .boolean [column.kind, type.kind]⟩,
        ⟨r₁, ⟨[⟨some parameter, type.kind, none⟩]⟩⟩) :=
    Expr.compile_binary_ok.mpr ⟨_, _,
      Expr.compile_column_ok.mpr ⟨.inr ⟨hname, column, hfound, rfl⟩, rfl⟩, _,
      Expr.compile_param_ok.mpr ⟨1, _, rfl, rfl, rfl⟩, hcomparable, rfl⟩
  refine ⟨_, _, compile_ok.mpr ⟨table, r₁, hregister, rfl, _, _, hcompile, ?_, rfl, rfl⟩, htable,
    congrArg (Condition.equalsFirst · column.name) htable, rfl, rfl⟩
  exact Kind.scalar_joined _ _

/-- An argument is bound to a single parameter whose kind accepts it. -/
lemma statement_equal {q : Query} {parameter : String} {k : Kind} {c : Cell}
    (harena : q.arena = ⟨[⟨some parameter, k, none⟩]⟩) (hc : k.accepts c = true)
    (operation : Operation) :
    q.statement operation [c] = .ok ⟨q.command operation, [c]⟩ := by
  have hbind : q.bind [c] = .ok [c] := by
    rw [bind, harena]
    simp [Arena.bind, Arena.runtimeCount, Parameter.isRuntime, Arena.bindFrom, hc, Except.map]
  rw [statement, hbind]
  rfl

/-- The arguments that a query takes for what they are read as. For a type other than the reals, let
an argument be accepted by its kind and read as a value. The cell of the value equals the argument
if and only if values are written as the argument. In a table whose rows have values of the type in
a column, the query that compares the column with the argument selects the rows with the value of
the argument if values are written as the argument, and otherwise no row.

*Proof sketch.* Cells of such a type that are equal are stored as the same value, and then they are
read as the same value; and a cell that is written for a value is the one of the value that it is
read as. The comparison is true of a row exactly if its stored value equals the argument. -/
theorem equal_argument_selects {type : FieldType} (htype : type.kind.scalar ≠ .real) {c : Cell}
    {v : type.Carrier} (haccepts : type.kind.accepts c = true)
    (hread : type.codec.decode c = .ok v) :
    ((type.codec.encode v).toDatum.equals c.toDatum = true ↔ type.kind.scalar.Writes c) ∧
    ∀ {r : Registry} (_ : r.IsReachable) {t : TableType} (_ : t.IsValid) {column : Column}
      (_ : column ∈ t.columns) (_ : truthName? column.name = none) (_ : column.kind = type.kind)
      (parameter : String),
      ∃ q r', compile t (equalFilter type column.name parameter) r = (.ok q, r') ∧
        ∃ statement, q.statement .find [c] = .ok statement ∧
          ∀ {s : Store} {stored : StoredTable} {i : Nat} (_ : s.table t.name = .ok stored)
            (_ : stored.place? column.name = some i) (_ : stored.Holds i type),
            ∃ selected : StoredRow → Bool,
              s.run statement = .ok (.rows (stored.rows.filter selected), s) ∧
              ∀ row ∈ stored.rows, selected row = true ↔
                type.kind.scalar.Writes c ∧ type.Reads (row.value i) v := by
  refine ⟨type.encode_equals_iff htype haccepts hread, ?_⟩
  intro r hr t ht column hcolumn hname hkind parameter
  obtain ⟨q, r', hcompile, htable, hcondition, harena, horder⟩ :=
    exists_compile_equal hr ht hcolumn hname hkind parameter
  refine ⟨q, r', hcompile, _, statement_equal harena haccepts .find, ?_⟩
  intro s stored i hstored hplace hholds
  refine ⟨fun row => (row.value i).equals c.toDatum, ?_, fun row hrow => ?_⟩
  · rw [command, htable, hcondition, horder]
    exact Store.run_equalsFirst hstored hplace c
  · obtain ⟨w, hw⟩ := hholds row hrow
    show (row.value i).equals c.toDatum = true ↔ _
    rw [hw]
    exact type.stored_equals_iff htype haccepts hread w

end Query

namespace Sample

/-- Tasks, which may be done and have a date. -/
def task : TableType where
  label := "Task"
  name := "task"
  columns := [.new "name" (.plain .text), .new "done" (.plain .boolean),
    .new "due" (.plain .dateTime)]

/-- A task that is done. -/
def watering : StoredRow := ⟨1, [.text "water", .int 1, .text "2024-01-02 03:04:05.000"]⟩

/-- A task that is not done. -/
def feeding : StoredRow := ⟨2, [.text "feed", .int 0, .text "2024-01-03 00:00:00.000"]⟩

/-- The table of the tasks. -/
def tasks : StoredTable where
  declared := ⟨task.name, task.columns, by decide +kernel⟩
  rows := [watering, feeding]

/-- The table of tasks keeps a truth value in its second column. -/
lemma tasks_hold : tasks.Holds 1 (.required .boolean) := by
  rintro row hrow
  obtain rfl | rfl : row = watering ∨ row = feeding := by simpa [tasks] using hrow
  · exact ⟨true, rfl⟩
  · exact ⟨false, rfl⟩

/-- The column that says whether a task is done. -/
lemma done_mem : Column.new "done" (.plain .boolean) ∈ task.columns := by decide

/-- The store holds the table of tasks. -/
lemma tasks_stored : Store.table { tables := [tasks] } task.name = .ok tasks := by
  have hfound : findTable? [tasks] task.name = some tasks :=
    List.find?_cons_of_pos (p := fun t : StoredTable => sameName t.name task.name)
      (sameName_self task.name)
  rw [Store.table, findTable, hfound]

/-- Whether a task is done stands in the second column. -/
lemma done_place : tasks.place? "done" = some 1 := by decide +kernel

/-- The truth value that is given as one selects the tasks that are done. -/
theorem done_selected : ∃ q r',
    Query.compile task (Query.equalFilter (.required .boolean) "done" "d") {} = (.ok q, r') ∧
    ∃ s, q.statement .find [.int 1] = .ok s ∧
      Store.run { tables := [tasks] } s = .ok (.rows [watering], { tables := [tasks] }) := by
  have hscalar : (FieldType.required .boolean).kind.scalar ≠ .real := by decide
  have haccepts : (FieldType.required .boolean).kind.accepts (.int 1) = true := rfl
  have hread : (FieldType.required .boolean).codec.decode (.int 1) = .ok true := rfl
  obtain ⟨-, hquery⟩ := Query.equal_argument_selects hscalar haccepts hread
  obtain ⟨q, r', hcompile, s, hs, hrun⟩ :=
    hquery ⟨[], rfl⟩ tasks.declared.accepted done_mem rfl rfl "d"
  obtain ⟨selected, hrows, hselected⟩ := hrun tasks_stored done_place tasks_hold
  have hfirst : selected watering = true :=
    (hselected watering (by simp [tasks])).mpr ⟨.inr rfl, .bool true, rfl, rfl⟩
  have hsecond : selected feeding = false := by
    rw [Bool.eq_false_iff, ne_eq, hselected feeding (by simp [tasks])]
    rintro ⟨-, c, hc, hfeeding⟩
    cases hc
    cases hfeeding
  have hfilter : tasks.rows.filter selected = [watering] := by
    simp [tasks, hfirst, hsecond]
  exact ⟨q, r', hcompile, s, hs, hfilter ▸ hrows⟩

/-- The integer two is accepted as a truth value and read as true, but the cell of true does not
equal it, and the query for it does not find the task that is done. So it is with a text in which
leading zeros are missing, and the date-time that it is read as. -/
theorem two_not_selected :
    (FieldType.required .boolean).kind.accepts (.int 2) = true ∧
    (FieldType.required .boolean).codec.decode (.int 2) = .ok true ∧
    ((FieldType.required .boolean).codec.encode true).toDatum.equals (Cell.int 2).toDatum = false ∧
    (FieldType.required .boolean).Reads (watering.value 1) true ∧
    (∃ q r',
      Query.compile task (Query.equalFilter (.required .boolean) "done" "d") {} = (.ok q, r') ∧
      ∃ s, q.statement .find [.int 2] = .ok s ∧
        Store.run { tables := [tasks] } s = .ok (.rows [], { tables := [tasks] })) ∧
    (FieldType.required .dateTime).kind.accepts (.text "2024-1-2 3:04:05") = true ∧
    ∃ u, (FieldType.required .dateTime).codec.decode (.text "2024-1-2 3:04:05") = .ok u ∧
      (FieldType.required .dateTime).Reads (watering.value 2) u ∧
      (watering.value 2).equals (Cell.text "2024-1-2 3:04:05").toDatum = false := by
  refine ⟨rfl, rfl, by decide +kernel, ⟨.bool true, rfl, rfl⟩, ?_, rfl, ?_⟩
  · have haccepts : (FieldType.required .boolean).kind.accepts (.int 2) = true := rfl
    have hkind : (Column.new "done" (.plain .boolean)).kind = (FieldType.required .boolean).kind :=
      rfl
    obtain ⟨q, r', hcompile, htable, hcondition, harena, horder⟩ :=
      Query.exists_compile_equal ⟨[], rfl⟩ tasks.declared.accepted done_mem rfl hkind "d"
    refine ⟨q, r', hcompile, _, Query.statement_equal harena haccepts .find, ?_⟩
    have hnone : tasks.rows.filter (fun row => (row.value 1).equals (Cell.int 2).toDatum) = [] := by
      decide +kernel
    rw [Query.command, htable, hcondition, horder]
    exact hnone ▸ Store.run_equalsFirst tasks_stored done_place (.int 2)
  · have hparse : DateTime.parse? "2024-1-2 3:04:05".toList =
        DateTime.parse? "2024-01-02 03:04:05.000".toList := by decide +kernel
    have hsome : (DateTime.parse? "2024-01-02 03:04:05.000".toList).isSome = true := by
      decide +kernel
    obtain ⟨u, hu⟩ := Option.isSome_iff_exists.mp hsome
    exact ⟨u, Codec.decode_dateTime_of_parse (hparse.trans hu),
      ⟨.text "2024-01-02 03:04:05.000", rfl, Codec.decode_dateTime_of_parse hu⟩,
      by decide +kernel⟩

end Sample

end TypedSql
