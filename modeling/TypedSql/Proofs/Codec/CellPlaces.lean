import TypedSql.Proofs.Codec.RoundTrip

/-!
# The places of values in rows

A record and its row have the same order: the cell at a place is that of the value at this place,
and a record that is read has at each place the value of the cell there. The values of a record
differ in type, so that a list of them keeps each with its type.

## Main definitions

* `FieldValue` — a value with its type; `RowValues.values` — those of a record in order.

## Main results

* `RowValues.getElem?_encode` — the cell at a place is that of the value there.
* `RowValues.decode_ok` — which records are read from a row.
-/

set_option autoImplicit false

namespace TypedSql

/-- A value of a field, with its type. -/
structure FieldValue where
  type : FieldType
  value : type.Carrier

namespace RowValues

/-- The values of a record in order, with their types. -/
def values : {fs : List RowField} → RowValues fs → List FieldValue
  | _, nil => []
  | _, cons (f := f) v rest => ⟨f.type, v⟩ :: rest.values

variable {fs : List RowField}

/-- The values have the types of their fields. -/
lemma getElem?_values {f : RowField} {i : Nat} (x : RowValues fs) (hf : fs[i]? = some f) :
    ∃ v : f.type.Carrier, x.values[i]? = some ⟨f.type, v⟩ := by
  induction x generalizing i with
  | nil => cases hf
  | cons v rest ih =>
    cases i with
    | zero =>
      obtain rfl := Option.some.inj hf
      exact ⟨v, rfl⟩
    | succ i => exact ih hf

/-- The cells of a record are those of its values. -/
lemma encode_eq_map (x : RowValues fs) :
    x.encode = x.values.map fun v => v.type.codec.encode v.value := by
  induction x with
  | nil => rfl
  | cons v rest ih => rw [encode, ih, values, List.map_cons]

/-- The cell at a place is that of the value there. -/
theorem getElem?_encode (x : RowValues fs) {i : Nat} {v : FieldValue}
    (hv : x.values[i]? = some v) : x.encode[i]? = some (v.type.codec.encode v.value) := by
  rw [encode_eq_map, List.getElem?_map, hv, Option.map_some]

/-- A record is read from a row if and only if each of its values is read from the cell at its
place. -/
theorem decode_ok {row : List Cell} {y : RowValues fs} : decode fs row = .ok y ↔
    ∀ (i : Nat) (v : FieldValue), y.values[i]? = some v →
      ∃ c, row[i]? = some c ∧ v.type.codec.decode c = .ok v.value := by
  induction y generalizing row with
  | nil => exact iff_of_true rfl (by simp [values])
  | @cons f fs v rest ih =>
    cases row with
    | nil =>
      refine iff_of_false nofun fun h => ?_
      obtain ⟨c, hc, -⟩ := h 0 _ rfl
      cases hc
    | cons c row =>
      have hsplit : decode (f :: fs) (c :: row) = .ok (cons v rest) ↔
          f.type.codec.decode c = .ok v ∧ decode fs row = .ok rest := by
        simp only [decode, except_bind_ok, except_pure_ok, cons.injEq]
        constructor
        · rintro ⟨_, hv, _, hrest, rfl, rfl⟩
          exact ⟨hv, hrest⟩
        · rintro ⟨hv, hrest⟩
          exact ⟨v, hv, rest, hrest, rfl, rfl⟩
      rw [hsplit, ih]
      constructor
      · rintro ⟨hv, hrest⟩ i w hw
        cases i with
        | zero =>
          obtain rfl := Option.some.inj hw
          exact ⟨c, rfl, hv⟩
        | succ i => exact hrest i w hw
      · intro h
        obtain ⟨_, hc, hv⟩ := h 0 _ rfl
        obtain rfl := Option.some.inj hc
        exact ⟨hv, fun i w hw => h (i + 1) w hw⟩

end RowValues

end TypedSql
