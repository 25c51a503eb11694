import Mathlib.Tactic.Tauto
import TypedSql.Proofs.Query.Numbering
import TypedSql.Proofs.Store.Nulls

/-!
# Kinds that exclude NULL

The kind of a compiled expression admits NULL if that of an operand does. This file shows how far
that is sound: an expression of a kind without NULL, evaluated for rows and arguments that the kinds
accept, is NULL only if it divides by zero, or calculates with an infinite number. Division does not
make a kind nullable, so the exception is real: `id / 0` has a kind without NULL.

## Main definitions

* `Kind.Stores` — the stored values of a kind.
* `Scope.IsFilledBy` — rows whose values are of the kinds of their columns.
* `Arena.IsFilledBy` — parameters whose values are of the kinds of their slots.

## Main results

* `FieldType.accepts_encode` — captured values are of the kind of their parameter.
* `Arena.isFilledBy_of_bind` — accepted arguments give every slot a value of its kind.
* `Expr.evaluate_ne_null` — an expression of a kind without NULL is not NULL.
-/

set_option autoImplicit false

namespace TypedSql

/-! ## The stored values of a kind -/

/-- Whether the cell is a real that is not a number, which is stored as NULL. -/
def Cell.isNaN : Cell → Bool
  | .real x => x.isNaN
  | _ => false

/-- The stored values of a kind: those of the cells, other than NaN, that it accepts. -/
def Kind.Stores (k : Kind) (x : Datum) : Prop :=
  ∃ c : Cell, k.accepts c = true ∧ c.isNaN = false ∧ c.toDatum = x

/-- NULL is no stored value of a kind without NULL. -/
lemma Kind.Stores.ne_null {k : Kind} {x : Datum} (h : k.Stores x) (hk : k.isNullable = false) :
    x ≠ .null := by
  obtain ⟨c, haccepts, hnan, rfl⟩ := h
  intro hnull
  rcases Datum.toDatum_eq_null.mp hnull with rfl | ⟨x, rfl, hx⟩
  · cases hk.symm.trans haccepts
  · cases hnan.symm.trans hx

/-- The stored form of a literal is not NULL. -/
lemma Cell.toDatum_ne_null {c : Cell} {s : Scalar} (h : c.scalar? = some s)
    (hfinite : ∀ x, c = .real x → x.isFinite = true) : c.toDatum ≠ .null := by
  intro hnull
  rcases Datum.toDatum_eq_null.mp hnull with rfl | ⟨x, rfl, hx⟩
  · cases h
  · exact Bool.false_ne_true ((Number.Binary64.isNaN_of_isFinite (hfinite x rfl)).symm.trans hx)

/-- A joined kind without NULL is joined from kinds without NULL. -/
lemma Kind.isNullable_of_joined {s : Scalar} {ks : List Kind}
    (h : (Kind.joined s ks).isNullable = false) {k : Kind} (hk : k ∈ ks) :
    k.isNullable = false := by
  unfold joined nullableIf at h
  split at h
  · rw [isNullable_nullable] at h
    cases h
  · rename_i hany
    simp only [List.any_eq_true, not_exists, not_and, Bool.not_eq_true] at hany
    exact hany k hk

/-- The cell of a captured value is accepted by the kind of its type. -/
theorem FieldType.accepts_encode : ∀ (t : FieldType) (v : t.Carrier),
    t.kind.accepts (t.codec.encode v) = true
  | .required t, v => by cases t <;> rfl
  | .optional _, none => rfl
  | .optional t, some v => by cases t <;> rfl

/-! ## Parameters -/

namespace Arena

/-- Arguments that are bound give each slot its captured value or one that its kind accepts. -/
lemma bindFrom_ok {missing : Error} {ps : List Parameter} {position : Nat}
    {args cells : List Cell} (h : bindFrom missing position ps args = .ok cells) :
    List.Forall₂ (fun p c => p.value = some c ∨ p.value = none ∧ p.kind.accepts c = true) ps
      cells := by
  induction ps generalizing position args cells with
  | nil =>
    cases h
    exact .nil
  | cons p ps ih =>
    unfold bindFrom at h
    split at h
    · rename_i v hvalue
      obtain ⟨rest, hrest, rfl⟩ := except_map_ok.mp h
      exact .cons (.inl hvalue) (ih hrest)
    · cases h
    · rename_i c args hvalue
      split at h
      · rename_i haccepts
        obtain ⟨rest, hrest, rfl⟩ := except_map_ok.mp h
        exact .cons (.inr ⟨hvalue, haccepts⟩) (ih hrest)
      · cases h

/-- The cells of accepted arguments: each slot is filled by its captured value, or by an argument
that its kind accepts. -/
lemma bind_ok {a : Arena} {args cells : List Cell} (h : a.bind args = .ok cells) :
    List.Forall₂ (fun p c => p.value = some c ∨ p.value = none ∧ p.kind.accepts c = true) a.slots
      cells := by
  unfold bind at h
  split at h
  · exact bindFrom_ok h
  · cases h

/-- Whether the values of the parameters are of the kinds of the slots. -/
def IsFilledBy (a : Arena) (params : List Datum) : Prop :=
  ∀ n slot, a.get? n = some slot → slot.kind.Stores (params[n - 1]?.getD .null)

/-- Accepted arguments give every slot a value of its kind, if the captured values are of the kinds
of their parameters. -/
theorem isFilledBy_of_bind {a : Arena} {args cells : List Cell} (h : a.bind args = .ok cells)
    (hcaptured : ∀ p ∈ a.slots, ∀ v, p.value = some v → p.kind.accepts v = true)
    (hnan : ∀ c ∈ cells, c.isNaN = false) : a.IsFilledBy (cells.map Cell.toDatum) := by
  intro n slot hslot
  have hcells := bind_ok h
  cases n with
  | zero => cases hslot
  | succ i =>
    obtain ⟨hi, rfl⟩ := List.getElem?_eq_some_iff.mp hslot
    have hi' : i < cells.length := hcells.length_eq ▸ hi
    have hcell := hcells.get hi hi'
    refine ⟨cells[i], ?_, hnan _ (List.getElem_mem hi'), by simp [hi']⟩
    rcases hcell with hvalue | ⟨-, haccepts⟩
    · exact hcaptured _ (List.getElem_mem hi) _ hvalue
    · exact haccepts

end Arena

/-! ## Rows -/

/-- Whether every column in scope has a value of its kind in the rows in scope. -/
def Scope.IsFilledBy (scope : Scope) (rows : List RowScope) : Prop :=
  ∀ f ∈ scope, ∀ c ∈ f.table.columns,
    c.kind.Stores (lookupValue rows f.table.name c.name)

/-! ## Evaluation -/

namespace Expr

section Evaluation

variable {scope : Scope} {a : Arena} {tables : List StoredTable} {params : List Datum}
  {rows : List RowScope}

mutual

/-- An expression of a kind without NULL is NULL only if there is undefined arithmetic in it.

Proof sketch. By induction on the expression. A column and a parameter have values of their kinds.
An operator of a kind without NULL has operands of kinds without NULL; if it gives NULL, then one of
these does, or it is undefined at their values. -/
theorem hasUndefinedArithmetic_of_evaluate (hrows : scope.IsFilledBy rows)
    (hparams : a.IsFilledBy params) : ∀ (e : Expr) {current : Table} {w w' : Workspace} {t : Typed},
    current ∈ scope.map (·.table) → e.compile scope current w = (.ok t, w') →
    w'.arena.slots <+: a.slots → t.kind.isNullable = false →
    t.condition.evaluate tables params rows = .ok .null →
    t.condition.HasUndefinedArithmetic tables params rows
  | .literal _ v, current, w, w', t, _, h, _, _, hnull => by
    obtain ⟨⟨⟨s, hs, rfl⟩, hfinite⟩, -⟩ := compile_literal_ok.mp h
    rw [Condition.evaluate, Except.ok.injEq] at hnull
    exact absurd hnull (Cell.toDatum_ne_null hs hfinite)
  | .column _ name, current, w, w', t, hcurrent, h, _, hkind, hnull => by
    obtain ⟨⟨b, -, rfl⟩ | ⟨-, c, hc, rfl⟩, -⟩ := compile_column_ok.mp h
    · cases hnull
    · obtain ⟨f, hf, rfl⟩ := List.mem_map.mp hcurrent
      obtain ⟨hmem, rfl⟩ := Table.column?_eq_some_iff.mp hc
      rw [Condition.evaluate, Except.ok.injEq] at hnull
      exact absurd hnull ((hrows f hf c hmem).ne_null hkind)
  | .within _ u e, current, w, w', t, _, h, hslots, hkind, hnull => by
    obtain ⟨table, htable, h⟩ := compile_within_ok.mp h
    exact hasUndefinedArithmetic_of_evaluate hrows hparams e
      (List.mem_map_of_mem (Scope.mem_of_find? htable)) h hslots hkind hnull
  | .param _ p, current, w, w', t, _, h, hslots, hkind, hnull => by
    obtain ⟨n, arena, hplace, rfl, rfl⟩ := compile_param_ok.mp h
    obtain ⟨slot, hslot, hserves⟩ := Arena.exists_serves_of_place hplace
    have hstores := hparams n slot (Arena.get?_of_isPrefix hslots hslot)
    rw [Condition.evaluate, Except.ok.injEq] at hnull
    exact absurd hnull (hstores.ne_null (hserves.kind ▸ hkind))
  | .not _ e, current, w, w', t, hcurrent, h, hslots, hkind, hnull => by
    obtain ⟨te, he, -, rfl⟩ := compile_not_ok.mp h
    simp only [Condition.evaluate, except_bind_ok, except_pure_ok, Datum.ofTruth_eq_null,
      Logic.not_eq_none, Datum.truth_eq_none, exists_eq_right] at hnull
    rw [Condition.HasUndefinedArithmetic]
    exact hasUndefinedArithmetic_of_evaluate hrows hparams e hcurrent he hslots
      (Kind.isNullable_of_joined hkind (by simp)) hnull
  | .nullTest _ _ e, current, w, w', t, _, h, _, _, hnull => by
    obtain ⟨te, he, -, rfl⟩ := compile_nullTest_ok.mp h
    simp only [Condition.evaluate, except_bind_ok, except_pure_ok, Datum.ofTruth_eq_null,
      reduceCtorEq, and_false, exists_false] at hnull
  | .call _ f e, current, w, w', t, hcurrent, h, hslots, hkind, hnull => by
    obtain ⟨te, he, -, rfl⟩ := compile_call_ok.mp h
    simp only [Condition.evaluate, except_bind_ok] at hnull
    obtain ⟨x, hx, hnull⟩ := hnull
    split at hnull
    · rename_i y hy
      obtain rfl := except_pure_ok.mp hnull
      obtain rfl := ScalarFunction.value?_eq_null hy
      rw [Condition.HasUndefinedArithmetic]
      exact hasUndefinedArithmetic_of_evaluate hrows hparams e hcurrent he hslots
        (Kind.isNullable_of_joined hkind (by simp)) hx
    · cases hnull
  | .binary _ op l r, current, w, w', t, hcurrent, h, hslots, hkind, hnull => by
    obtain ⟨tl, w₁, hl, tr, hr, -, rfl⟩ := compile_binary_ok.mp h
    simp only [Condition.evaluate, except_bind_ok, except_pure_ok] at hnull
    obtain ⟨x, hx, y, hy, hnull⟩ := hnull
    have hkinds := fun k => Kind.isNullable_of_joined (k := k) hkind
    simp only [List.forall_mem_cons] at hkinds
    obtain ⟨hkl, hkr, -⟩ := hkinds
    have hslots₁ := (compile_slots hr).trans hslots
    rw [Condition.HasUndefinedArithmetic]
    rcases BinaryOp.apply_eq_null hnull with rfl | rfl | hundefined
    · exact .inl (hasUndefinedArithmetic_of_evaluate hrows hparams l hcurrent hl hslots₁ hkl hx)
    · exact .inr (.inl
        (hasUndefinedArithmetic_of_evaluate hrows hparams r hcurrent hr hslots hkr hy))
    · exact .inr (.inr ⟨x, y, hx, hy, hundefined⟩)
  | .like _ _ e p, current, w, w', t, hcurrent, h, hslots, hkind, hnull => by
    obtain ⟨te, w₁, he, tp, hp, -, rfl⟩ := compile_like_ok.mp h
    simp only [Condition.evaluate, except_bind_ok, except_pure_ok, Datum.ofTruth_eq_null,
      Logic.notIf_eq_none, Datum.like_eq_none] at hnull
    obtain ⟨x, hx, y, hy, hnull⟩ := hnull
    have hkinds := fun k => Kind.isNullable_of_joined (k := k) hkind
    simp only [List.forall_mem_cons] at hkinds
    obtain ⟨hke, hkp, -⟩ := hkinds
    have hslots₁ := (compile_slots hp).trans hslots
    rw [Condition.HasUndefinedArithmetic]
    rcases hnull with rfl | rfl
    · exact .inl (hasUndefinedArithmetic_of_evaluate hrows hparams e hcurrent he hslots₁ hke hx)
    · exact .inr (hasUndefinedArithmetic_of_evaluate hrows hparams p hcurrent hp hslots hkp hy)
  | .between _ _ e low high, current, w, w', t, hcurrent, h, hslots, hkind, hnull => by
    obtain ⟨te, w₁, he, tl, w₂, hl, th, hh, -, rfl⟩ := compile_between_ok.mp h
    simp only [Condition.evaluate, except_bind_ok, except_pure_ok, Datum.ofTruth_eq_null,
      Logic.notIf_eq_none] at hnull
    obtain ⟨x, hx, y, hy, z, hz, hnull⟩ := hnull
    have hkinds := fun k => Kind.isNullable_of_joined (k := k) hkind
    simp only [List.forall_mem_cons] at hkinds
    obtain ⟨hke, hkl, hkh, -⟩ := hkinds
    have hslots₂ := (compile_slots hh).trans hslots
    have hslots₁ := (compile_slots hl).trans hslots₂
    -- a range is the conjunction of two comparisons, one of which is undefined
    have hoperand : x = .null ∨ y = .null ∨ z = .null := by
      have hbounds := Logic.and_eq_none hnull
      rw [BinaryOp.comparison_eq_none, BinaryOp.comparison_eq_none] at hbounds
      tauto
    rw [Condition.HasUndefinedArithmetic]
    rcases hoperand with rfl | rfl | rfl
    · exact .inl (hasUndefinedArithmetic_of_evaluate hrows hparams e hcurrent he hslots₁ hke hx)
    · exact .inr (.inl
        (hasUndefinedArithmetic_of_evaluate hrows hparams low hcurrent hl hslots₂ hkl hy))
    · exact .inr (.inr
        (hasUndefinedArithmetic_of_evaluate hrows hparams high hcurrent hh hslots hkh hz))
  | .inList _ _ e items, current, w, w', t, hcurrent, h, hslots, hkind, hnull => by
    obtain ⟨-, te, w₁, he, ts, hs, rfl⟩ := compile_inList_ok.mp h
    simp only [Typed.inList, Condition.evaluate, except_bind_ok, except_pure_ok,
      Datum.ofTruth_eq_null, Logic.notIf_eq_none] at hnull
    obtain ⟨x, hx, ys, hys, hnull⟩ := hnull
    rw [Typed.inList, Typed.resultKind_eq] at hkind
    have hkinds := fun k => Kind.isNullable_of_joined (k := k) hkind
    obtain ⟨hke, hks⟩ := List.forall_mem_cons.mp (List.forall_mem_map.mp hkinds)
    obtain ⟨y, hy, hxy⟩ := List.mem_map.mp (Logic.foldr_or_eq_none hnull)
    rw [Typed.inList, Condition.HasUndefinedArithmetic]
    rcases BinaryOp.comparison_eq_none.mp hxy with rfl | rfl
    · exact .inl (hasUndefinedArithmetic_of_evaluate hrows hparams e hcurrent he
        ((compileItems_slots hs).trans hslots) hke hx)
    · exact .inr (itemHasUndefinedArithmetic_of_evaluate hrows hparams items hcurrent hs hslots hks
        hys hy)
  | .existsIn _ u filter, current, w, w', t, _, h, _, _, hnull => by
    obtain ⟨table, r, -, -, tf, hf, -, rfl⟩ := compile_existsIn_ok.mp h
    rw [Typed.existsIn, Condition.evaluate] at hnull
    split at hnull
    · cases hnull
    · simp only [except_bind_ok, except_pure_ok, Datum.ofTruth_eq_null, reduceCtorEq, and_false,
        exists_false] at hnull

/-- If an item of a list of kinds without NULL is NULL, then there is undefined arithmetic in one.
-/
theorem itemHasUndefinedArithmetic_of_evaluate (hrows : scope.IsFilledBy rows)
    (hparams : a.IsFilledBy params) : ∀ (items : List Expr) {current : Table} {site : Site}
    {construct : Construct} {operand : Typed} {w w' : Workspace} {ts : List Typed}
    {xs : List Datum}, current ∈ scope.map (·.table) →
    compileItems scope current site construct operand items w = (.ok ts, w') →
    w'.arena.slots <+: a.slots → (∀ t ∈ ts, t.kind.isNullable = false) →
    Condition.evaluateItems tables params rows (ts.map (·.condition)) = .ok xs → .null ∈ xs →
    Condition.ItemHasUndefinedArithmetic tables params rows (ts.map (·.condition))
  | [], _, _, _, _, _, _, ts, xs, _, h, _, _, hxs, hnull => by
    obtain ⟨rfl, -⟩ := compileItems_nil_ok.mp h
    cases hxs
    cases hnull
  | e :: es, current, _, _, _, _, _, ts, xs, hcurrent, h, hslots, hkinds, hxs, hnull => by
    obtain ⟨te, w₁, he, -, tes, hs, rfl⟩ := compileItems_cons_ok.mp h
    simp only [List.map_cons, Condition.evaluateItems, except_bind_ok, except_pure_ok] at hxs
    obtain ⟨x, hx, xs, hxs, rfl⟩ := hxs
    obtain ⟨hke, hks⟩ := List.forall_mem_cons.mp hkinds
    rw [List.map_cons, Condition.ItemHasUndefinedArithmetic]
    rcases List.mem_cons.mp hnull with rfl | hnull
    · exact .inl (hasUndefinedArithmetic_of_evaluate hrows hparams e hcurrent he
        ((compileItems_slots hs).trans hslots) hke hx)
    · exact .inr (itemHasUndefinedArithmetic_of_evaluate hrows hparams es hcurrent hs hslots hks hxs
        hnull)

end

/-- An expression of a kind without NULL is not NULL, whatever the rows and the arguments are,
unless there is undefined arithmetic in it. The rows have values of their columns' kinds, the
arguments are accepted by the arena of the whole filter, and the captured values are of the kinds of
their parameters; no value is NaN, which is stored as NULL. -/
theorem evaluate_ne_null {e : Expr} {current : Table} {w w' : Workspace} {t : Typed}
    {args cells : List Cell} {x : Datum} (hcurrent : current ∈ scope.map (·.table))
    (h : e.compile scope current w = (.ok t, w')) (hkind : t.kind.isNullable = false)
    (hrows : scope.IsFilledBy rows) (hslots : w'.arena.slots <+: a.slots)
    (hbind : a.bind args = .ok cells)
    (hcaptured : ∀ p ∈ a.slots, ∀ v, p.value = some v → p.kind.accepts v = true)
    (hnan : ∀ c ∈ cells, c.isNaN = false)
    (hdefined : ¬ t.condition.HasUndefinedArithmetic tables (cells.map Cell.toDatum) rows)
    (hx : t.condition.evaluate tables (cells.map Cell.toDatum) rows = .ok x) : x ≠ .null := by
  rintro rfl
  exact hdefined (hasUndefinedArithmetic_of_evaluate hrows
    (Arena.isFilledBy_of_bind hbind hcaptured hnan) e hcurrent h hslots hkind hx)

end Evaluation

end Expr

/-! ## Division -/

namespace Sample

/-- A person of unknown age. -/
def ann : RowScope := ⟨{ declared := persons }, ⟨7, [.int 7, .text "Ann", .null]⟩⟩

/-- The key of Ann's row. -/
lemma ann_id : lookupValue [ann] "person" "id" = .int 7 := by decide +kernel

/-- Ann's row has values of the kinds of its columns. -/
lemma ann_isFilled : Scope.IsFilledBy [⟨person, persons⟩] [ann] := by
  have hname : lookupValue [ann] "person" "name" = .text "Ann" := by decide +kernel
  have hage : lookupValue [ann] "person" "age" = .null := by decide +kernel
  intro f hf c hc
  obtain rfl := List.mem_singleton.mp hf
  rcases hc with _ | ⟨_, _ | ⟨_, _ | ⟨_, ⟨⟩⟩⟩⟩
  · exact ⟨.int 7, rfl, rfl, ann_id.symm⟩
  · exact ⟨.text "Ann", rfl, rfl, hname.symm⟩
  · exact ⟨.null, rfl, rfl, hage.symm⟩

/-- Half of the key is at least the limit. -/
def halfKey : Expr :=
  .binary ⟨"ge"⟩ .greaterEqual
    (.binary ⟨"div"⟩ .div (Builder.col "id") (.literal ⟨"div"⟩ (.int 2))) limit

/-- Half of the key of a person is compared with a limit without NULL. -/
theorem halfKey_ne_null :
    ∃ t w, halfKey.compile [⟨person, persons⟩] persons ⟨{}, {}⟩ = (.ok t, w) ∧
      t.kind.isNullable = false ∧ w.arena.bind [.int 3] = .ok [.int 3] ∧
      ∀ x, t.condition.evaluate [] [.int 3] [ann] = .ok x → x ≠ .null := by
  let arena : Arena := ⟨[⟨some "limit", .plain .integer, none⟩]⟩
  have hcompile : halfKey.compile [⟨person, persons⟩] persons ⟨{}, {}⟩ =
      (.ok ⟨.binary .greaterEqual (.binary .div (.column "person" "id") (.literal (.int 2)))
        (.placeholder 1), .plain .boolean⟩, ⟨{}, arena⟩) := rfl
  have hbind : arena.bind [.int 3] = .ok [.int 3] := rfl
  have htwo : (Datum.int 2).toReal.value? = some (.rational (2 ^ 52) (2 ^ 51)) := by decide +kernel
  have hfinite : (Datum.int 7).toReal.isFinite = true ∧ (Datum.int 2).toReal.isFinite = true := by
    decide +kernel
  refine ⟨_, _, hcompile, rfl, hbind, fun x hx => ?_⟩
  refine Expr.evaluate_ne_null (List.mem_singleton.mpr rfl) hcompile rfl ann_isFilled
    List.prefix_rfl hbind ?captured ?nan ?defined hx
  case captured => simp [arena]
  case nan => simp [Cell.isNaN]
  case defined =>
    have hliteral : (Cell.int 2).toDatum = .int 2 := rfl
    simp [Condition.HasUndefinedArithmetic, Condition.evaluate, BinaryOp.IsUndefinedAt, ann_id,
      hliteral, htwo, hfinite]

/-- The quotient of the key by zero is one, or it is not. -/
def zeroQuotient : Expr :=
  let quotient : Expr := .binary ⟨"eq"⟩ .equal
    (.binary ⟨"div"⟩ .div (Builder.col "id") (.literal ⟨"div"⟩ (.int 0)))
    (.literal ⟨"eq"⟩ (.int 1))
  .binary ⟨"or"⟩ .or quotient (.not ⟨"not"⟩ quotient)

/-- A filter with a division by zero has a kind without NULL, but it is NULL. A test for NULL would
tell, but is refused. -/
theorem zeroQuotient_null :
    ∃ t w, zeroQuotient.compile [⟨person, persons⟩] persons ⟨{}, {}⟩ = (.ok t, w) ∧
      t.kind = .plain .boolean ∧ Scope.IsFilledBy [⟨person, persons⟩] [ann] ∧
      w.arena.bind [] = .ok [] ∧ t.condition.evaluate [] [] [ann] = .ok .null ∧
      ((Expr.nullTest ⟨"is_null"⟩ .isNull zeroQuotient).compile [⟨person, persons⟩] persons
        ⟨{}, {}⟩).1 = .error (.notNullable ⟨"is_null"⟩ t.condition.text) := by
  refine ⟨_, _, rfl, rfl, ann_isFilled, rfl, ?_, rfl⟩
  show Condition.evaluate [] [] [ann] (.binary .or
    (.binary .equal (.binary .div (.column "person" "id") (.literal (.int 0))) (.literal (.int 1)))
    (.not (.binary .equal (.binary .div (.column "person" "id") (.literal (.int 0)))
      (.literal (.int 1))))) = _
  simp only [Condition.evaluate, ann_id]
  rfl

end Sample

end TypedSql
