import TypedSql.Proofs.Number.Arithmetic
import TypedSql.Store.Evaluate

/-!
# Where operators give NULL

Every operator gives NULL on a NULL operand, connectives aside. This file shows when one gives NULL
on operands that are not: only arithmetic does, where it divides by zero or where a number is not
finite.

## Main definitions

* `BinaryOp.IsUndefinedAt` — the operands at which an operator may have no value.
* `Condition.HasUndefinedArithmetic` — somewhere in a condition, outside of tests for NULL and
  nested queries, an operator is evaluated at such operands.

## Main results

* `BinaryOp.apply_eq_null` — an operator gives NULL on a NULL operand or where it is undefined.
* `ScalarFunction.value?_eq_null` — a function gives NULL on NULL alone.
-/

set_option autoImplicit false

namespace TypedSql

/-! ## Truth values -/

namespace Logic

/-- A conjunction is undefined only if one of its sides is. -/
lemma and_eq_none {a b : Option Bool} (h : and a b = none) : a = none ∨ b = none := by
  rcases a with _ | _ | _ <;> simp_all [and]

/-- A disjunction is undefined only if one of its sides is. -/
lemma or_eq_none {a b : Option Bool} (h : or a b = none) : a = none ∨ b = none := by
  rcases a with _ | _ | _ <;> simp_all [or]

/-- A negation is undefined if its operand is. -/
lemma not_eq_none {b : Option Bool} : not b = none ↔ b = none := by
  simp [not]

/-- A test is undefined if it is so without its negation. -/
lemma notIf_eq_none {negated : Bool} {b : Option Bool} : notIf negated b = none ↔ b = none := by
  cases negated <;> simp [notIf, not_eq_none]

/-- A disjunction is unknown only if one of its parts is. -/
lemma foldr_or_eq_none {bs : List (Option Bool)} (h : bs.foldr or (some false) = none) :
    none ∈ bs := by
  induction bs with
  | nil => simp at h
  | cons b bs ih =>
    rcases or_eq_none h with h | h
    · exact h ▸ List.mem_cons_self
    · exact List.mem_cons_of_mem b (ih h)

end Logic

namespace Datum

/-- A truth value is stored as NULL if it is undefined. -/
lemma ofTruth_eq_null {b : Option Bool} : ofTruth b = .null ↔ b = none := by
  cases b <;> simp [ofTruth]

/-- Only NULL has no truth value. -/
lemma truth_eq_none {x : Datum} : x.truth = none ↔ x = .null := by
  cases x <;> simp [truth]

/-- Only NULL is null. -/
lemma isNull_iff {x : Datum} : x.isNull = true ↔ x = .null := by
  cases x <;> simp [isNull]

/-- A comparison is undefined if one of its sides is NULL. -/
lemma compare?_eq_none {x y : Datum} : x.compare? y = none ↔ x = .null ∨ y = .null := by
  unfold compare?
  split <;> simp_all [isNull_iff]

/-- A pattern test is undefined if one of its sides is NULL. -/
lemma like_eq_none {x p : Datum} : x.like p = none ↔ x = .null ∨ p = .null := by
  unfold like
  split <;> simp_all [isNull_iff]

/-- Two joined values are NULL if one of them is. -/
lemma concat_eq_null {x y : Datum} : concat x y = .null ↔ x = .null ∨ y = .null := by
  unfold concat
  split <;> simp_all [isNull_iff]

/-- A real is stored as NULL if it is not a number. -/
lemma ofReal_eq_null {x : Number.Binary64} : ofReal x = .null ↔ x.isNaN = true := by
  simp [ofReal]

/-- The stored form of a cell is NULL if the cell is, or if it is not a number. -/
lemma toDatum_eq_null {c : Cell} :
    c.toDatum = .null ↔ c = .null ∨ ∃ x, c = .real x ∧ x.isNaN := by
  cases c <;> simp [Cell.toDatum]

end Datum

/-- An operator of comparison is undefined if one of its sides is NULL. -/
lemma BinaryOp.comparison_eq_none {op : BinaryOp} {x y : Datum} :
    op.comparison x y = none ↔ x = .null ∨ y = .null := by
  rw [comparison, Option.map_eq_none_iff, Datum.compare?_eq_none]

/-- A function gives NULL on NULL alone. -/
theorem ScalarFunction.value?_eq_null {f : ScalarFunction} {x : Datum}
    (h : f.value? x = some .null) : x = .null := by
  unfold value? at h
  split at h
  · exact Datum.isNull_iff.mp ‹_›
  · cases f <;> cases x <;> simp [applyTo?] at h

/-! ## Arithmetic -/

/-- Whether an operator does arithmetic. -/
def BinaryOp.isArithmetic : BinaryOp → Bool
  | .add | .sub | .mul | .div | .rem => true
  | _ => false

namespace BinaryOp

/-- The operands at which an operator may have no value: a divisor of zero, for the remainder one
whose integer part is zero, and a number that is not finite. -/
def IsUndefinedAt (op : BinaryOp) (x y : Datum) : Prop :=
  match op with
  | .add | .sub | .mul => x.toReal.isFinite = false ∨ y.toReal.isFinite = false
  | .div => x.toReal.isFinite = false ∨ y.toReal.isFinite = false ∨
      ∃ d, y.toReal.value? = some (.rational 0 d)
  | .rem => y.toReal.truncate Datum.leastInt Datum.greatestInt = 0
  | _ => False

end BinaryOp

namespace Datum

open Number.Binary64 (isNaN_add isNaN_sub isNaN_mul isNaN_div)

variable {op : BinaryOp} {x y : Datum}

/-- Arithmetic on finite reals has a value, but for a division by zero. -/
lemma realArithmetic_ne_null (hop : op.isArithmetic = true) (hx : x.toReal.isFinite = true)
    (hy : y.toReal.isFinite = true) (h : ¬ op.IsUndefinedAt x y) :
    realArithmetic op x.toReal y.toReal ≠ .null := by
  cases op with
  | add => simp [realArithmetic, ofReal_eq_null, isNaN_add hx hy]
  | sub => simp [realArithmetic, ofReal_eq_null, isNaN_sub hx hy]
  | mul => simp [realArithmetic, ofReal_eq_null, isNaN_mul hx hy]
  | div =>
    have hzero : ∀ d, y.toReal.value? ≠ some (.rational 0 d) := fun d hd =>
      h (.inr (.inr ⟨d, hd⟩))
    simp [realArithmetic, ofReal_eq_null, isNaN_div hx hy hzero]
  | rem =>
    simp only [BinaryOp.IsUndefinedAt] at h
    simp [realArithmetic, h]
  | _ => simp [BinaryOp.isArithmetic] at hop

/-- Arithmetic on reals gives NULL only where it is undefined. -/
lemma realArithmetic_eq_null (hop : op.isArithmetic = true)
    (h : realArithmetic op x.toReal y.toReal = .null) : op.IsUndefinedAt x y := by
  refine Classical.byContradiction fun hdef => ?_
  by_cases hfinite : x.toReal.isFinite = true ∧ y.toReal.isFinite = true
  · exact realArithmetic_ne_null hop hfinite.1 hfinite.2 hdef h
  · have hinfinite : x.toReal.isFinite = false ∨ y.toReal.isFinite = false := by
      rw [← Bool.not_eq_true, ← Bool.not_eq_true]
      exact Classical.not_and_iff_not_or_not.mp hfinite
    cases op with
    | add | sub | mul => exact hdef hinfinite
    | div => exact hdef (hinfinite.imp_right .inl)
    | rem =>
      simp only [BinaryOp.IsUndefinedAt] at hdef
      simp [realArithmetic, hdef] at h
    | _ => simp [BinaryOp.isArithmetic] at hop

/-- An integer is not NULL, nor is what stands for one that is too great. -/
lemma intOr_ne_null {n : Int} {other : Datum} (h : other ≠ .null) : intOr n other ≠ .null := by
  unfold intOr
  split
  · simp
  · exact h

/-- Division by the integer zero is undefined, for the remainder too. -/
lemma isUndefinedAt_zero (hop : op = .div ∨ op = .rem) (x : Datum) :
    op.IsUndefinedAt x (.int 0) := by
  have hzero : (int 0).toReal = Number.Binary64.zero := by decide +kernel
  rcases hop with rfl | rfl
  · exact .inr (.inr ⟨1 <<< 1074, by rw [hzero]; decide +kernel⟩)
  · simp only [BinaryOp.IsUndefinedAt, hzero]
    decide +kernel

/-- Arithmetic on integers gives NULL only where it is undefined. -/
lemma intArithmetic_eq_null {a b : Int} (hop : op.isArithmetic = true)
    (h : intArithmetic op a b = .null) : op.IsUndefinedAt (.int a) (.int b) := by
  refine Classical.byContradiction fun hdef => ?_
  have hreal : realArithmetic op (.ofInt a) (.ofInt b) ≠ .null := fun h =>
    hdef (realArithmetic_eq_null hop h)
  have hzero : op = .div ∨ op = .rem → b ≠ 0 := by
    rintro hop rfl
    exact hdef (isUndefinedAt_zero hop _)
  cases op with
  | add | sub | mul => exact intOr_ne_null hreal h
  | div =>
    simp only [intArithmetic, if_neg (hzero (.inl rfl))] at h
    exact intOr_ne_null hreal h
  | rem => simp [intArithmetic, hzero (.inr rfl)] at h
  | _ => simp [BinaryOp.isArithmetic] at hop

/-- Arithmetic gives NULL on NULL, and otherwise only where it is undefined. -/
lemma arithmetic_eq_null (hop : op.isArithmetic = true) (h : arithmetic op x y = .null) :
    x = .null ∨ y = .null ∨ op.IsUndefinedAt x y := by
  unfold arithmetic at h
  split at h
  · exact .inl rfl
  · exact .inr (.inl rfl)
  · exact .inr (.inr (intArithmetic_eq_null hop h))
  · exact .inr (.inr (realArithmetic_eq_null hop h))

end Datum

/-- An operator gives NULL on NULL, and otherwise only where it is undefined. -/
theorem BinaryOp.apply_eq_null {op : BinaryOp} {x y : Datum} (h : op.apply x y = .null) :
    x = .null ∨ y = .null ∨ op.IsUndefinedAt x y := by
  have comparison (hc : Datum.ofTruth (op.comparison x y) = .null) :
      x = .null ∨ y = .null ∨ op.IsUndefinedAt x y :=
    (comparison_eq_none.mp (Datum.ofTruth_eq_null.mp hc)).imp_right .inl
  cases op with
  | equal | notEqual | less | lessEqual | greater | greaterEqual => exact comparison h
  | and =>
    have hnull := Logic.and_eq_none (Datum.ofTruth_eq_null.mp h)
    rw [Datum.truth_eq_none, Datum.truth_eq_none] at hnull
    exact hnull.imp_right .inl
  | or =>
    have hnull := Logic.or_eq_none (Datum.ofTruth_eq_null.mp h)
    rw [Datum.truth_eq_none, Datum.truth_eq_none] at hnull
    exact hnull.imp_right .inl
  | add | sub | mul | div | rem => exact Datum.arithmetic_eq_null rfl h
  | concat => exact (Datum.concat_eq_null.mp h).imp_right .inl

/-! ## Conditions -/

namespace Condition

mutual

/-- Somewhere in a condition an operator is evaluated at operands at which it may have no value.
Tests for NULL and nested queries are never NULL, whatever is inside them. -/
def HasUndefinedArithmetic (tables : List StoredTable) (params : List Datum)
    (rows : List RowScope) : Condition → Prop
  | .literal _ | .column _ _ | .placeholder _ | .isNull _ _ | .existsIn _ _ => False
  | .not e | .call _ e => e.HasUndefinedArithmetic tables params rows
  | .binary op l r =>
    l.HasUndefinedArithmetic tables params rows ∨ r.HasUndefinedArithmetic tables params rows ∨
      ∃ x y, l.evaluate tables params rows = .ok x ∧ r.evaluate tables params rows = .ok y ∧
        op.IsUndefinedAt x y
  | .like _ e p =>
    e.HasUndefinedArithmetic tables params rows ∨ p.HasUndefinedArithmetic tables params rows
  | .between _ e low high =>
    e.HasUndefinedArithmetic tables params rows ∨ low.HasUndefinedArithmetic tables params rows ∨
      high.HasUndefinedArithmetic tables params rows
  | .inList _ e items =>
    e.HasUndefinedArithmetic tables params rows ∨
      ItemHasUndefinedArithmetic tables params rows items

/-- The same for one of the items of a list. -/
def ItemHasUndefinedArithmetic (tables : List StoredTable) (params : List Datum)
    (rows : List RowScope) : List Condition → Prop
  | [] => False
  | e :: es =>
    e.HasUndefinedArithmetic tables params rows ∨
      ItemHasUndefinedArithmetic tables params rows es

end

end Condition

end TypedSql
