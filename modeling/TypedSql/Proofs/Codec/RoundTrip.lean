import TypedSql.Proofs.Calendar.DateTimeText
import TypedSql.Proofs.Number.Conversion
import TypedSql.Proofs.Query.Nullability
import TypedSql.Record.Derive
import TypedSql.Schema.Rows

/-!
# Values and records are read back

A value of a program becomes a cell, and a record a row of cells. This file shows that both are read
back: a point in time without its fraction of a second, a date-time without what is less than a
millisecond, and every other value as it is, but for the bits of a real that is not a number.

## Main definitions

* `ValueType.ReadsAs` — what a value is read back as.
* `FieldType.Lifts`, `RowValues.Relates` — relations of values, carried over to fields and records.
* `Record.rowFields` — the fields of a record in its rows.

## Main results

* `FieldType.decode_encode` — a value is read back from its cell.
* `RowValues.decode_encode`, `RowValues.decode_take` — a record is read back from its row, and a row
  that ends too early lacks the column of the first field without a cell.
* `Record.roundTrip` — both, with what the columns accept.
-/

set_option autoImplicit false

namespace TypedSql

open Calendar (Instant DateTime)
open Number (Binary32 Binary64)

/-! ## Values -/

/-- Whether a value is read back as another one. -/
def ValueType.ReadsAs : (t : ValueType) → t.Carrier → t.Carrier → Prop
  | .real32, (v : Binary32), (w : Binary32) => w = v ∨ v.isNaN = true ∧ w.isNaN = true
  | .instant, (v : Instant), w => w = v.wholeSeconds
  | .dateTime, (v : DateTime), w => w = v.wholeMillis
  | _, v, w => w = v

/-- A relation of values, carried over to values that may be absent. -/
def FieldType.Lifts (R : (t : ValueType) → t.Carrier → t.Carrier → Prop) :
    (t : FieldType) → t.Carrier → t.Carrier → Prop
  | .required t, v, w => R t v w
  | .optional t, v, w => Option.Rel (R t) v w

/-- An integer of 64 bits is read back. -/
lemma Codec.decodeInt_ofInt {n : Int} (h : IntegerType.int64.Holds n) :
    decodeInt (.int (Int64.ofInt n)) = .ok n := by
  obtain ⟨hleast, hgreatest⟩ := h
  simp only [IntegerType.least, IntegerType.greatest] at hleast hgreatest
  rw [decodeInt, Int64.toInt_ofInt_of_le (by omega) (by omega)]

/-- An integer of a type comes back as it is. -/
lemma Codec.decode_integer {t : IntegerType} (n : { n : Int // t.Holds n }) :
    (integer t).decode ((integer t).encode n) = .ok n := by
  have hread : decodeInt ((integer t).encode n) = .ok n.val := decodeInt_ofInt n.property.wide
  simp only [integer] at hread ⊢
  simp only [hread, bind, Except.bind, n.property, ↓reduceDIte]

/-- An instant comes back in whole seconds. -/
lemma Codec.decode_instant (t : Instant) :
    instant.decode (instant.encode t) = .ok t.wholeSeconds := by
  have hholds : IntegerType.int64.Holds t.seconds := by
    have hleast := t.seconds_least
    have hgreatest := t.seconds_greatest
    constructor <;> simp only [IntegerType.least, IntegerType.greatest] <;> omega
  have hread : decodeInt (instant.encode t) = .ok t.seconds := decodeInt_ofInt hholds
  have hwhole : Instant.of? t.seconds 0 = some t.wholeSeconds :=
    dif_pos ⟨⟨t.seconds_least, t.seconds_greatest⟩, by decide⟩
  simp only [instant] at hread ⊢
  simp only [hread, bind, Except.bind, hwhole]

/-- A date-time comes back in whole milliseconds. -/
lemma Codec.decode_dateTime (t : DateTime) :
    dateTime.decode (dateTime.encode t) = .ok t.wholeMillis := by
  simp only [dateTime, Codec.text, bind, Except.bind, String.toList_ofList, DateTime.parse?_text]

/-- A value is read back from its cell. -/
lemma ValueType.decode_encode (t : ValueType) (v : t.Carrier) :
    ∃ w, t.codec.decode (t.codec.encode v) = .ok w ∧ t.ReadsAs v w := by
  cases t with
  | text | real64 | boolean | bytes => exact ⟨v, rfl, rfl⟩
  | integer t => exact ⟨v, Codec.decode_integer v, rfl⟩
  | real32 => exact ⟨_, rfl, Binary64.toBinary32_ofBinary32 v⟩
  | instant => exact ⟨_, Codec.decode_instant v, rfl⟩
  | dateTime => exact ⟨_, Codec.decode_dateTime v, rfl⟩

/-- No value that is there becomes NULL. -/
lemma ValueType.encode_ne_null (t : ValueType) (v : t.Carrier) : t.codec.encode v ≠ .null := by
  cases t <;> exact nofun

/-- A cell that is not NULL is read as a value that is there. -/
lemma Codec.decode_optional {α : Type} (codec : Codec α) {c : Cell} (hc : c ≠ .null) :
    codec.optional.decode c = (codec.decode c).map some := by
  cases c with
  | null => exact absurd rfl hc
  | bool | int | real | text | blob => rfl

/-- A field is read back from its cell. -/
theorem FieldType.decode_encode (t : FieldType) (v : t.Carrier) :
    ∃ w, t.codec.decode (t.codec.encode v) = .ok w ∧ t.Lifts ValueType.ReadsAs v w := by
  rcases t with t | t
  · exact t.decode_encode v
  · rcases v with _ | v
    · exact ⟨none, rfl, .none⟩
    · obtain ⟨w, hdecode, hw⟩ := t.decode_encode v
      refine ⟨some w, ?_, .some hw⟩
      show t.codec.optional.decode (t.codec.encode v) = _
      rw [Codec.decode_optional _ (t.encode_ne_null v), hdecode]
      rfl

/-! ## Records -/

/-- The field with the name of its column. -/
def RecordField.rowField (f : RecordField) : RowField := ⟨f.column.name, f.type⟩

/-- The fields of a record, with the names of their columns. -/
def Record.rowFields (r : Record) : List RowField := r.fields.map (·.rowField)

/-- The table type of a record has the record's fields. -/
lemma Record.rowFields?_tableType (r : Record) (label : String) :
    (r.tableType label).rowFields? = some r.rowFields := by
  simp only [TableType.rowFields?, tableType, Option.map_some, columns, rowFields]
  rw [List.zipWith_map, List.zipWith_self]
  rfl

namespace RowValues

/-- A relation of fields, carried over to records. -/
def Relates (R : (f : RecordField) → f.type.Carrier → f.type.Carrier → Prop) :
    (fs : List RecordField) → RowValues (fs.map (·.rowField)) →
      RowValues (fs.map (·.rowField)) → Prop
  | [], _, _ => True
  | f :: fs, .cons v x, .cons w y => R f v w ∧ Relates R fs x y

/-- A record is read back from its row; further cells are ignored. -/
theorem decode_encode (fs : List RecordField) (x : RowValues (fs.map (·.rowField)))
    (extra : List Cell) : ∃ y, decode (fs.map (·.rowField)) (x.encode ++ extra) = .ok y ∧
      Relates (fun f => f.type.Lifts ValueType.ReadsAs) fs x y := by
  induction fs with
  | nil => exact ⟨.nil, rfl, trivial⟩
  | cons f fs ih =>
    rcases x with _ | ⟨v, x⟩
    obtain ⟨w, hvalue, hw⟩ := f.type.decode_encode v
    obtain ⟨y, hrest, hy⟩ := ih x
    refine ⟨.cons w y, ?_, hw, hy⟩
    exact except_bind_ok.mpr ⟨w, hvalue, except_bind_ok.mpr ⟨y, hrest, rfl⟩⟩

/-- A row that ends too early is not read. -/
lemma decode_short {fs : List RowField} {row : List Cell} (h : row.length < fs.length) :
    ∃ e, decode fs row = .error e := by
  induction fs generalizing row with
  | nil => cases h
  | cons f fs ih =>
    cases row with
    | nil => exact ⟨_, rfl⟩
    | cons c row =>
      obtain ⟨e, hrest⟩ := ih (Nat.lt_of_succ_lt_succ h)
      rw [decode]
      cases f.type.codec.decode c with
      | error e => exact ⟨e, rfl⟩
      | ok v => exact ⟨e, except_bind_error.mpr (.inr ⟨v, rfl, except_bind_error.mpr (.inl hrest)⟩)⟩

/-- The row of a record that ends too early lacks the column of the first field without a cell. -/
theorem decode_take (fs : List RecordField) (x : RowValues (fs.map (·.rowField)))
    {n : Nat} {f : RecordField} (hf : fs[n]? = some f) :
    decode (fs.map (·.rowField)) (x.encode.take n) = .error ⟨.column f.column.name, .endOfRow⟩ := by
  induction fs generalizing n with
  | nil => cases hf
  | cons g fs ih =>
    rcases x with _ | ⟨v, x⟩
    cases n with
    | zero =>
      obtain rfl := Option.some.inj hf
      rfl
    | succ n =>
      obtain ⟨w, hvalue, -⟩ := g.type.decode_encode v
      exact except_bind_error.mpr (.inr ⟨w, hvalue, except_bind_error.mpr (.inl (ih x hf))⟩)

end RowValues

/-- A row is read as the record that its cells are decoded to. -/
lemma Record.recode_of_decode {r : Record} {row : List Cell} {y : RowValues r.rowFields}
    (h : RowValues.decode r.rowFields row = .ok y) (label : String) :
    (r.tableType label).recode row = .ok y.encode := by
  simp only [TableType.recode, r.rowFields?_tableType label, h]
  rfl

/-- A row that is not decoded is refused for this reason. -/
lemma Record.recode_of_failure {r : Record} {row : List Cell} {e : Codec.Failure}
    (h : RowValues.decode r.rowFields row = .error e) (label : String) :
    (r.tableType label).recode row = .error (.decode e) := by
  simp only [TableType.recode, r.rowFields?_tableType label, h]
  rfl

/-- The cell of every value is accepted by the kind of its type and read back as the value. So is
the row of every record, also if further cells follow; a row with too few cells is refused, and if
its cells are those of a record, for the first column without a cell.

Proof sketch. A value is read back by a case for each type: integers of each type are integers of 64
bits, a real of 32 bits keeps its value among those of 64 bits, and the numbers in the text of a
date-time each end where no digit follows. Records go by induction on their fields. -/
theorem Record.roundTrip :
    (∀ (t : FieldType) (v : t.Carrier), t.kind.accepts (t.codec.encode v) = true ∧
      ∃ w, t.codec.decode (t.codec.encode v) = .ok w ∧ t.Lifts ValueType.ReadsAs v w) ∧
    ∀ (r : Record) (label : String),
      (∀ (x : RowValues r.rowFields) (extra : List Cell), ∃ y,
        RowValues.decode r.rowFields (x.encode ++ extra) = .ok y ∧
        (r.tableType label).recode (x.encode ++ extra) = .ok y.encode ∧
        RowValues.Relates (fun f => f.type.Lifts ValueType.ReadsAs) r.fields x y) ∧
      (∀ row : List Cell, row.length < r.fields.length →
        ∃ e, (r.tableType label).recode row = .error (.decode e)) ∧
      ∀ (x : RowValues r.rowFields) (n : Nat) (f : RecordField), r.fields[n]? = some f →
        (r.tableType label).recode (x.encode.take n) =
          .error (.decode ⟨.column f.column.name, .endOfRow⟩) := by
  refine ⟨fun t v => ⟨t.accepts_encode v, t.decode_encode v⟩, fun r label => ⟨?_, ?_, ?_⟩⟩
  · intro x extra
    obtain ⟨y, hdecode, hy⟩ := RowValues.decode_encode r.fields x extra
    exact ⟨y, hdecode, recode_of_decode hdecode label, hy⟩
  · intro row hrow
    have hlength : row.length < r.rowFields.length := by rwa [rowFields, List.length_map]
    obtain ⟨e, he⟩ := RowValues.decode_short hlength
    exact ⟨e, recode_of_failure he label⟩
  · intro x n f hf
    exact recode_of_failure (RowValues.decode_take r.fields x hf) label

namespace Sample

/-- A visit, at a point in time and perhaps with a remark. -/
def visit : Record where
  table := "visit"
  fields := [⟨"at", .required .instant, .new "at" (.plain .timestamp)⟩,
    ⟨"remark", .optional .text, .new "remark" (.optional .text)⟩]

/-- A quarter of a second after the hour. -/
def pastHour : Instant := ⟨3600, 250000000, by decide, by decide, by decide⟩

/-- A visit at that time, with a remark. -/
def quietVisit : RowValues visit.rowFields := .cons pastHour (.cons (some "quiet") .nil)

/-- The visit at the full hour, with the same remark. -/
def hourlyVisit : RowValues visit.rowFields :=
  .cons pastHour.wholeSeconds (.cons (some "quiet") .nil)

/-- The row of a visit is read without the fraction of its second, also if a cell follows. A row
with the time alone is refused; if it is that of a visit, its remark is missing. -/
theorem visit_roundTrip :
    RowValues.decode visit.rowFields (quietVisit.encode ++ [.null]) = .ok hourlyVisit ∧
    (visit.tableType "Visit").recode (quietVisit.encode ++ [.null]) =
      .ok [.int 3600, .text "quiet"] ∧
    [Cell.int 0].length < visit.fields.length ∧
    (∃ e, (visit.tableType "Visit").recode [.int 0] = .error (.decode e)) ∧
    visit.fields[1]? = some ⟨"remark", .optional .text, .new "remark" (.optional .text)⟩ ∧
    ∀ x : RowValues visit.rowFields, (visit.tableType "Visit").recode (x.encode.take 1) =
      .error (.decode ⟨.column "remark", .endOfRow⟩) := by
  obtain ⟨hread, hshort, hcut⟩ := Record.roundTrip.2 visit "Visit"
  obtain ⟨y, hdecode, hrecode, hy⟩ := hread quietVisit [.null]
  have hvalue : y = hourlyVisit := by
    rcases y with _ | ⟨time, _ | ⟨remark, _ | _⟩⟩
    obtain ⟨htime, hremark, -⟩ := hy
    cases htime
    cases hremark with
    | some h =>
      cases h
      rfl
  subst hvalue
  exact ⟨hdecode, hrecode, by decide, hshort _ (by decide), rfl, fun x => hcut x 1 _ rfl⟩

end Sample

end TypedSql
