import TypedSql.Proofs.Number.Representation
import TypedSql.Proofs.Store.Nulls
import TypedSql.Store.Table

/-!
# Values in stored form

A column keeps the values that it takes in a form of its own: integers in a real column become
reals, and zero has no sign there. This file says which values are equal, and shows that a cell that
equals a value in stored form takes this form in the column.

## Main definitions

* `Scalar.Keeps` — the values in the form in which a column of a scalar kind keeps them.

## Main results

* `Datum.equals_iff` — when two values are equal.
* `Datum.equals_congr_right` — equal values equal the same values.
* `Scalar.keeps_store` — what is brought into stored form is kept as it is.
* `Scalar.store_eq_of_equals` — a cell that equals a value in stored form is stored as this value.
-/

set_option autoImplicit false

namespace TypedSql

/-! ## Exact values -/

namespace Number

/-- The order of two exact values does not matter for whether they are equal. -/
lemma Exact.compare_eq_comm {u v : Exact} : u.compare v = .eq ↔ v.compare u = .eq := by
  cases u with
  | rational a b =>
    cases v with
    | rational c d => rw [compare_rational, compare_rational, eq_comm]
    | negativeInfinity | positiveInfinity => simp [compare]
  | negativeInfinity | positiveInfinity => cases v <;> simp [compare]

/-- Equality of exact values is transitive. -/
lemma Exact.compare_eq_trans {u v w : Exact} (hv : ∀ a d, v = .rational a d → 0 < d)
    (huv : u.compare v = .eq) (hvw : v.compare w = .eq) : u.compare w = .eq := by
  cases v with
  | rational a' d' =>
    cases u with
    | rational a d =>
      cases w with
      | rational a'' d'' =>
        rw [compare_rational] at huv hvw ⊢
        have hpos : (d' : Int) ≠ 0 := by exact_mod_cast (hv a' d' rfl).ne'
        refine Int.eq_of_mul_eq_mul_right hpos ?_
        calc a * d'' * d' = a * d' * d'' := by ring
          _ = a' * d * d'' := by rw [huv]
          _ = a' * d'' * d := by ring
          _ = a'' * d' * d := by rw [hvw]
          _ = a'' * d * d' := by ring
      | negativeInfinity | positiveInfinity => cases hvw
    | negativeInfinity | positiveInfinity => cases huv
  | negativeInfinity | positiveInfinity =>
    cases u <;> first | exact hvw | cases huv

namespace Binary64

/-- A real that is a number has an exact value. -/
lemma exists_value?_of_not_isNaN {x : Binary64} (h : x.isNaN = false) :
    ∃ u, x.value? = some u := by
  unfold isNaN at h
  unfold value?
  cases hx : x.reading <;> simp_all

/-- The value of a word has a positive denominator. -/
lemma den_pos {x : Binary64} {a : Int} {d : Nat} (h : x.value? = some (.rational a d)) :
    0 < d := by
  rcases value?_cases h with ⟨-, a', d', heq, hd, -⟩ | ⟨-, heq⟩
  · obtain ⟨rfl, rfl⟩ := Exact.rational.inj heq
    exact hd
  · split at heq <;> cases heq

end Binary64

end Number

/-! ## Equal values -/

namespace Datum

/-- Whether the value is a real that is not a number; no cell is stored as such. -/
def isNaN : Datum → Bool
  | .real x => x.isNaN
  | _ => false

/-- No cell is stored as NaN. -/
lemma isNaN_toDatum (c : Cell) : c.toDatum.isNaN = false := by
  cases c with
  | real x =>
    rw [Cell.toDatum]
    split
    · rfl
    · exact Bool.eq_false_iff.mpr ‹_›
  | _ => rfl

/-- Lists compare as equal by keys that tell their elements apart only if they are equal. -/
lemma compareLex_eq {α : Type} {key : α → Nat} (hkey : Function.Injective key)
    {as bs : List α} : List.compareLex (compareOn key) as bs = .eq ↔ as = bs := by
  have hlawful : Std.LawfulEqCmp (compareOn key) :=
    { compare_self := Std.ReflCmp.compare_self
      eq_of_compare := fun h => hkey (Std.LawfulEqCmp.eq_of_compare h) }
  exact Std.LawfulEqCmp.compare_eq_iff_eq

variable {x y z : Datum}

/-- The exact values of numbers have positive denominators. -/
lemma den_pos {a : Int} {d : Nat} (h : x.number? = some (.rational a d)) : 0 < d := by
  cases x with
  | int n =>
    obtain ⟨rfl, rfl⟩ := Number.Exact.rational.inj (Option.some.inj h)
    exact Nat.one_pos
  | real r => exact Number.Binary64.den_pos h
  | null | text _ | blob _ => cases h

/-- A value with the rank of numbers has an exact value. -/
lemma exists_number? (hx : x.isNaN = false) (h : x.rank = 1) : ∃ u, x.number? = some u := by
  cases x with
  | int n => exact ⟨_, rfl⟩
  | real r => exact Number.Binary64.exists_value?_of_not_isNaN hx
  | null | text _ | blob _ => cases h

/-- Texts are equal as values if they are equal. -/
lemma equals_text {s t : String} : equals (.text s) (.text t) = true ↔ s = t := by
  have hkey : Function.Injective Char.toNat := fun _ _ h => Char.toNat_inj.mp h
  simp [equals, compare?, isNull, sortCompare, compareLex_eq hkey, String.toList_inj]

/-- Blobs are equal as values if they are equal. -/
lemma equals_blob {s t : List UInt8} : equals (.blob s) (.blob t) = true ↔ s = t := by
  have hkey : Function.Injective UInt8.toNat := fun _ _ h => UInt8.toNat_inj.mp h
  simp [equals, compare?, isNull, sortCompare, compareLex_eq hkey]

/-- Integers are equal as values if they are equal. -/
lemma equals_int {n m : Int} : equals (.int n) (.int m) = true ↔ n = m := by
  simp [equals, compare?, isNull, sortCompare, number?, Number.Exact.ofInt,
    Number.Exact.compare_rational]

/-- Numbers are equal if their exact values are. -/
lemma equals_number {u v : Number.Exact} (hx : x.number? = some u) (hy : y.number? = some v) :
    x.equals y = true ↔ u.compare v = .eq := by
  cases x <;> cases y <;> simp_all [equals, compare?, isNull, sortCompare, number?]

/-- Nothing equals NULL. -/
lemma equals_null_right (x : Datum) : equals x .null = false := by
  cases x <;> rfl

/-- Values of different ranks are not equal. -/
lemma rank_eq_of_equals (h : x.equals y = true) : x.rank = y.rank := by
  cases x <;> cases y <;>
    first | rfl | simp [equals, compare?, isNull, sortCompare, number?, rank] at h

/-- Two values are equal if they are the same text, the same blob, or numbers of one value. -/
theorem equals_iff (hx : x.isNaN = false) (hy : y.isNaN = false) : x.equals y = true ↔
    (∃ s, x = .text s ∧ y = .text s) ∨ (∃ bytes, x = .blob bytes ∧ y = .blob bytes) ∨
      ∃ u v, x.number? = some u ∧ y.number? = some v ∧ u.compare v = .eq := by
  constructor
  · intro h
    have hrank := rank_eq_of_equals h
    cases x with
    | null =>
      rw [equals_null_left] at h
      cases h
    | text s =>
      cases y with
      | text t => exact .inl ⟨s, rfl, congrArg text (equals_text.mp h).symm⟩
      | null | int _ | real _ | blob _ => cases hrank
    | blob s =>
      cases y with
      | blob t => exact .inr (.inl ⟨s, rfl, congrArg blob (equals_blob.mp h).symm⟩)
      | null | int _ | real _ | text _ => cases hrank
    | int _ | real _ =>
      obtain ⟨u, hu⟩ := exists_number? hx rfl
      obtain ⟨v, hv⟩ := exists_number? hy hrank.symm
      exact .inr (.inr ⟨u, v, hu, hv, (equals_number hu hv).mp h⟩)
  · rintro (⟨s, rfl, rfl⟩ | ⟨bytes, rfl, rfl⟩ | ⟨u, v, hu, hv, huv⟩)
    · exact equals_text.mpr rfl
    · exact equals_blob.mpr rfl
    · exact (equals_number hu hv).mpr huv

/-- The order of two values does not matter for whether they are equal. -/
lemma equals_comm (hx : x.isNaN = false) (hy : y.isNaN = false) :
    x.equals y = true ↔ y.equals x = true := by
  rw [equals_iff hx hy, equals_iff hy hx]
  constructor <;>
  · rintro (⟨s, rfl, rfl⟩ | ⟨bytes, rfl, rfl⟩ | ⟨u, v, hu, hv, huv⟩)
    · exact .inl ⟨s, rfl, rfl⟩
    · exact .inr (.inl ⟨bytes, rfl, rfl⟩)
    · exact .inr (.inr ⟨v, u, hv, hu, Number.Exact.compare_eq_comm.mp huv⟩)

/-- Equality of values is transitive. -/
lemma equals_trans (hx : x.isNaN = false) (hy : y.isNaN = false) (hz : z.isNaN = false)
    (hxy : x.equals y = true) (hyz : y.equals z = true) : x.equals z = true := by
  rcases (equals_iff hx hy).mp hxy with ⟨s, rfl, rfl⟩ | ⟨bytes, rfl, rfl⟩ | ⟨u, v, hu, hv, huv⟩
  · exact hyz
  · exact hyz
  · rcases (equals_iff hy hz).mp hyz with ⟨s, rfl, rfl⟩ | ⟨bytes, rfl, rfl⟩ | ⟨v', w, hv', hw, hvw⟩
    · cases hv
    · cases hv
    · obtain rfl := Option.some.inj (hv.symm.trans hv')
      have hden : ∀ a d, v = .rational a d → 0 < d := fun a d hvd => den_pos (hvd ▸ hv)
      exact (equals_number hu hw).mpr (Number.Exact.compare_eq_trans hden huv hvw)

/-- Equal values equal the same values. -/
theorem equals_congr_right (hx : x.isNaN = false) (hy : y.isNaN = false) (hz : z.isNaN = false)
    (h : y.equals z = true) : x.equals y = true ↔ x.equals z = true :=
  ⟨fun hxy => equals_trans hx hy hz hxy h,
    fun hxz => equals_trans hx hz hy hxz ((equals_comm hy hz).mp h)⟩

end Datum

/-! ## Stored form -/

namespace Scalar

open Number (Binary64 Exact)

variable {s : Scalar} {x : Datum} {c : Cell}

/-- The stored form of a real: itself, or zero without a sign. -/
lemma store_real {r : Binary64} {u : Exact} (hr : r.value? = some u) :
    store .real (.real r) = .real (if u.compare (.ofInt 0) = .eq then .zero else r) := by
  simp only [store, hr, Option.map_some, Option.some.injEq]
  split <;> rfl

/-- The values in the form in which a column of a scalar kind keeps them. -/
structure Keeps (s : Scalar) (x : Datum) : Prop where
  store_eq : s.store x = x
  isNaN : x.isNaN = false

instance : Decidable (s.Keeps x) :=
  decidable_of_iff (s.store x = x ∧ x.isNaN = false) ⟨fun h => ⟨h.1, h.2⟩, fun h => ⟨h.1, h.2⟩⟩

/-- Every column keeps NULL. -/
lemma keeps_null : s.Keeps .null := by
  cases s <;> exact ⟨rfl, rfl⟩

/-- Columns of integers keep integers. -/
lemma keeps_int (hs : s.sqlType = "INTEGER") (n : Int) : s.Keeps (.int n) := by
  cases s with
  | integer | boolean | timestamp => exact ⟨rfl, rfl⟩
  | text | real | dateTime | blob => simp [sqlType] at hs

/-- Only NULL is kept as NULL. -/
lemma store_eq_null : s.store x = .null ↔ x = .null := by
  constructor
  · intro h
    unfold store at h
    split at h <;> first | cases h; done | exact h | skip
    all_goals split at h <;> try split at h
    all_goals cases h
  · rintro rfl
    cases s <;> rfl

/-- An integer in a real column is kept as the nearest real. -/
lemma keeps_ofInt (n : Int) : Keeps .real (.real (.ofInt n)) where
  store_eq := by
    by_cases hn : n = 0
    · rw [hn]
      decide +kernel
    · have hnan : (Binary64.ofInt n).isNaN = false := Binary64.isNaN_ofRational false n 1
      obtain ⟨u, hu⟩ := Binary64.exists_value?_of_not_isNaN hnan
      rw [store_real hu, if_neg (Binary64.compare_ofInt_zero hn hu)]
  isNaN := Binary64.isNaN_ofRational false n 1

/-- A column of reals keeps the reals that it has stored. -/
lemma keeps_store_real {r : Binary64} (h : r.isNaN = false) :
    Keeps .real (store .real (.real r)) := by
  obtain ⟨u, hu⟩ := Binary64.exists_value?_of_not_isNaN h
  rw [store_real hu]
  split
  · exact keeps_ofInt 0
  · rename_i hzero
    exact ⟨by rw [store_real hu, if_neg hzero], h⟩

section Whole

variable {r : Binary64}

/-- In an integer column a real becomes an integer, or it stays as it is. -/
lemma store_whole (hs : s.sqlType = "INTEGER") (r : Binary64) :
    (∃ n, s.store (.real r) = .int n) ∨ s.store (.real r) = .real r := by
  cases s with
  | integer | boolean | timestamp =>
    simp only [store]
    split
    · split
      · exact .inl ⟨_, rfl⟩
      · exact .inr rfl
    · exact .inr rfl
  | text | real | dateTime | blob => simp [sqlType] at hs

/-- In an integer column a real with the value of an integer becomes this integer. -/
lemma store_whole_eq (hs : s.sqlType = "INTEGER") {u : Exact} {n : Int} (hr : r.value? = some u)
    (h : u.compare (.ofInt n) = .eq) (hleast : Datum.leastInt ≤ n)
    (hgreatest : n ≤ Datum.greatestInt) : s.store (.real r) = .int n := by
  cases u with
  | rational a d =>
    have ha : a = n * d := by simpa using Exact.compare_rational.mp h
    have hd : (d : Int) ≠ 0 := by exact_mod_cast (Binary64.den_pos hr).ne'
    have hwhole : a % d = 0 ∧ Datum.leastInt ≤ n ∧ n ≤ Datum.greatestInt :=
      ⟨by rw [ha, Int.mul_emod_left], hleast, hgreatest⟩
    have hvalue : a / d = n := by rw [ha, Int.mul_ediv_cancel n hd]
    cases s with
    | integer | boolean | timestamp => simp only [store, hr, hvalue, if_pos hwhole]
    | text | real | dateTime | blob => simp [sqlType] at hs
  | negativeInfinity | positiveInfinity => cases h

end Whole

/-- What is brought into stored form is kept as it is. -/
theorem keeps_store (hx : x.isNaN = false) : s.Keeps (s.store x) := by
  cases x with
  | null | text _ | blob _ => cases s <;> exact ⟨rfl, rfl⟩
  | int n =>
    cases s with
    | real => exact keeps_ofInt n
    | _ => exact ⟨rfl, rfl⟩
  | real r =>
    by_cases hs : s.sqlType = "INTEGER"
    · rcases store_whole hs r with ⟨n, hn⟩ | hsame
      · rw [hn]
        cases s with
        | integer | boolean | timestamp => exact ⟨rfl, rfl⟩
        | text | real | dateTime | blob => simp [sqlType] at hs
      · rw [hsame]
        exact ⟨hsame, hx⟩
    · cases s with
      | real => exact keeps_store_real hx
      | text | dateTime | blob => exact ⟨rfl, hx⟩
      | integer | boolean | timestamp => exact absurd rfl hs

/-- The cells of an integer column are integers. -/
lemma exists_int (hs : s.sqlType = "INTEGER") (hc : s.admitsType c.type = true) :
    ∃ n, c.toDatum = .int n ∧ Datum.leastInt ≤ n ∧ n ≤ Datum.greatestInt := by
  have hcell : (∃ n, c = .int n) ∨ ∃ b, c = .bool b := by
    cases s with
    | integer | boolean | timestamp => cases c <;> simp_all [admitsType, Cell.type]
    | text | real | dateTime | blob => simp [sqlType] at hs
  rcases hcell with ⟨n, rfl⟩ | ⟨b, rfl⟩
  · have hleast := n.le_toInt
    have hgreatest := n.toInt_lt
    refine ⟨n.toInt, rfl, ?_, ?_⟩ <;> simp only [Datum.leastInt, Datum.greatestInt] <;> omega
  · cases b
    · exact ⟨0, rfl, by decide, by decide⟩
    · exact ⟨1, rfl, by decide, by decide⟩

/-- An integer or a real that equals a real in stored form is stored as this real. -/
lemma store_real_of_equals (hx : Keeps .real x) {u v : Exact} (hu : x.number? = some u)
    (hv : c.toDatum.number? = some v) (huv : u.compare v = .eq)
    (hc : admitsType .real c.type = true) : store .real c.toDatum = x := by
  cases x with
  | real w =>
    have hzero : u.compare (.ofInt 0) = .eq → .zero = w := fun h => by
      have hstore := hx.store_eq
      rw [store_real hu, if_pos h] at hstore
      exact Datum.real.inj hstore
    cases c with
    | int n =>
      obtain rfl := Option.some.inj hv
      refine congrArg Datum.real ?_
      by_cases hn : n.toInt = 0
      · rw [hn] at huv ⊢
        exact hzero huv
      · exact Binary64.ofInt_of_compare hu huv hn
    | real r =>
      have hdatum : (Cell.real r).toDatum = .real r := by
        rw [Cell.toDatum] at hv ⊢
        split at hv
        · cases hv
        · exact if_neg ‹_›
      rw [hdatum] at hv ⊢
      rw [store_real hv]
      rcases Binary64.eq_of_compare hu hv huv with rfl | ⟨hu0, hv0⟩
      · rw [← store_real hv, hx.store_eq]
      · rw [if_pos hv0, hzero hu0]
    | null | bool _ | text _ | blob _ => cases hc
  | int m => cases hx.store_eq
  | null | text _ | blob _ => cases hu

/-- A cell that equals a value in stored form is stored as this value. -/
theorem store_eq_of_equals (hx : s.Keeps x) (hc : s.admitsType c.type = true)
    (h : x.equals c.toDatum = true) : s.store c.toDatum = x := by
  rcases (Datum.equals_iff hx.isNaN (Datum.isNaN_toDatum c)).mp h with
    ⟨t, rfl, ht⟩ | ⟨bytes, rfl, hbytes⟩ | ⟨u, v, hu, hv, huv⟩
  · rw [ht]
    cases s <;> rfl
  · rw [hbytes]
    cases s <;> rfl
  · by_cases hs : s.sqlType = "INTEGER"
    · obtain ⟨n, hn, hleast, hgreatest⟩ := exists_int hs hc
      have hstore : s.store (.int n) = .int n := by
        cases s <;> first | rfl | simp [sqlType] at hs
      rw [hn] at hv ⊢
      obtain rfl := Option.some.inj hv
      rw [hstore]
      cases x with
      | int m =>
        obtain rfl := Option.some.inj hu
        exact congrArg Datum.int (by simpa using (Exact.compare_rational.mp huv).symm)
      | real r => cases hx.store_eq.symm.trans (store_whole_eq hs hu huv hleast hgreatest)
      | null | text _ | blob _ => cases hu
    · cases s with
      | real => exact store_real_of_equals hx hu hv huv hc
      | text | dateTime | blob => cases c <;> first | cases hc; done | cases hv
      | integer | boolean | timestamp => exact absurd rfl hs

end Scalar

end TypedSql
