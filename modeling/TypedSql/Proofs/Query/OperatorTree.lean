import TypedSql.Proofs.Query.Numbering
import TypedSql.Proofs.Query.Rendering

/-!
# The operator tree of a filter

A filter says which operators it has, on which operands and in which order. Its text says so too, by
the grammar of SQL expressions. Both say the same: the text of a compiled filter is written as one
tree only, and this tree is that of the filter, except for parentheses.

## Main definitions

* `Parameter.number` — the number of a parameter after those that have been numbered.
* `Expr.operatorTree` — the operators of an expression on their operands.

## Main results

* `Expr.compile_operatorTree` — a compiled condition has the operator tree of the expression.
* `Query.compile_reads` — the text of a query reads as the operator tree of its filter, and only so.
-/

set_option autoImplicit false

namespace TypedSql

open Sql (Keyword Tree)

/-! ## Numbers of parameters -/

/-- The number of a parameter, and the parameters that have a number after it. A name that has been
seen keeps its number; every other parameter has the next one. -/
def Parameter.number (p : Parameter) (seen : List Parameter) : Nat × List Parameter :=
  match p.name with
  | none => (seen.length + 1, seen ++ [p])
  | some name =>
    match seen.findIdx? (·.name == some name) with
    | some i => (i + 1, seen)
    | none => (seen.length + 1, seen ++ [p])

/-- The position of a parameter in an arena is its number after the slots. -/
lemma Arena.number_of_place {a a' : Arena} {site : Site} {p : Parameter} {n : Nat}
    (h : a.place site p = .ok (n, a')) : p.number a.slots = (n, a'.slots) := by
  unfold place at h
  unfold Parameter.number
  cases hname : p.name with
  | none =>
    rw [hname] at h
    cases h
    rfl
  | some name =>
    simp only [hname, findName?, Option.bind_eq_bind, Option.pure_def] at h
    cases hfind : a.slots.findIdx? (·.name == some name) with
    | none =>
      simp only [hfind, Option.bind_none] at h ⊢
      cases h
      rfl
    | some i =>
      -- the place of a name is in use, so that nothing is added
      obtain ⟨hi, -⟩ := List.findIdx?_eq_some_iff_getElem.mp hfind
      simp only [hfind, Option.bind_some, List.getElem?_eq_getElem hi] at h ⊢
      split at h
      · cases h
      · split at h
        · cases h
        · cases h
          rfl

/-! ## Operator trees -/

namespace Expr

mutual

/-- The operators of an expression on their operands, and the parameters that have a number after
it. Columns are those of the current table, which is given by its name. -/
def operatorTree (current : String) (seen : List Parameter) : Expr → Tree × List Parameter
  | .literal _ v => (v.tree, seen)
  | .column _ name =>
    match truthName? name with
    | some b => (.integer (if b then 1 else 0), seen)
    | none => (.column current name, seen)
  | .within _ u e => e.operatorTree u.name seen
  | .param _ p =>
    let (n, seen) := p.number seen
    (.placeholder n, seen)
  | .not _ e =>
    let (e, seen) := e.operatorTree current seen
    (.not e, seen)
  | .binary _ op l r =>
    let (l, seen) := l.operatorTree current seen
    let (r, seen) := r.operatorTree current seen
    (.binary op l r, seen)
  | .nullTest _ test e =>
    let (e, seen) := e.operatorTree current seen
    match test with
    | .isSome | .isNull => (.isNull false e, seen)
    | .isNone | .isNotNull => (.isNull true e, seen)
  | .like _ negated e p =>
    let (e, seen) := e.operatorTree current seen
    let (p, seen) := p.operatorTree current seen
    (.like negated e p, seen)
  | .between _ negated e low high =>
    let (e, seen) := e.operatorTree current seen
    let (low, seen) := low.operatorTree current seen
    let (high, seen) := high.operatorTree current seen
    (.between negated e low high, seen)
  | .inList _ negated e items =>
    let (e, seen) := e.operatorTree current seen
    let (items, seen) := itemOperatorTrees current seen items
    (.inList negated e items, seen)
  | .call _ f e =>
    let (e, seen) := e.operatorTree current seen
    (.call f.name e, seen)
  | .existsIn _ u e =>
    let (e, seen) := e.operatorTree u.name seen
    (.existsIn u.name e, seen)

/-- The operator trees of the items of a list. -/
def itemOperatorTrees (current : String) (seen : List Parameter) :
    List Expr → List Tree × List Parameter
  | [] => ([], seen)
  | e :: es =>
    let (e, seen) := e.operatorTree current seen
    let (es, seen) := itemOperatorTrees current seen es
    (e :: es, seen)

end

end Expr

/-! ## Parentheses -/

/-- A literal has no parentheses. -/
@[simp]
lemma Cell.withoutParens_tree (v : Cell) : v.tree.withoutParens = v.tree := by
  cases v <;> rfl

/-- Parentheses around a tree do not count. -/
@[simp]
lemma Condition.withoutParens_wrapTree (needed level : Nat) (t : Tree) :
    (wrapTree needed level t).withoutParens = t.withoutParens := by
  unfold wrapTree
  split <;> rfl

/-! ## Compiled conditions -/

namespace Expr

mutual

/-- A compiled condition has the operator tree of the expression, and the arena that is left has
the parameters that have a number. -/
theorem compile_operatorTree : ∀ (e : Expr) {scope : Scope} {current : Table} {w w' : Workspace}
    {t : Typed}, scope.IsSound → w.registry.IsSound →
    e.compile scope current w = (.ok t, w') →
    e.operatorTree current.name w.arena.slots =
      (t.condition.tree.withoutParens, w'.arena.slots)
  | .literal _ _, scope, current, w, w', t, _, _, h => by
    obtain ⟨⟨⟨s, -, rfl⟩, -⟩, rfl⟩ := compile_literal_ok.mp h
    simp [operatorTree, Condition.tree]
  | .column _ name, scope, current, w, w', t, _, _, h => by
    obtain ⟨⟨b, hb, rfl⟩ | ⟨hb, c, -, rfl⟩, rfl⟩ := compile_column_ok.mp h
    · simp [operatorTree, hb, Condition.tree, Cell.tree, Tree.withoutParens]
    · simp [operatorTree, hb, Condition.tree, Tree.withoutParens]
  | .within _ u e, scope, current, w, w', t, hscope, hw, h => by
    obtain ⟨other, hu, h⟩ := compile_within_ok.mp h
    have hname := (TableType.table_ok_iff.mp (hscope.table_of_find? hu)).1
    rw [operatorTree, ← hname]
    exact compile_operatorTree e hscope hw h
  | .param _ p, scope, current, w, w', t, _, _, h => by
    obtain ⟨n, a, hplace, rfl, rfl⟩ := compile_param_ok.mp h
    rw [operatorTree, Arena.number_of_place hplace]
    rfl
  | .not _ e, scope, current, w, w', t, hscope, hw, h => by
    obtain ⟨te, he, -, rfl⟩ := compile_not_ok.mp h
    rw [operatorTree, compile_operatorTree e hscope hw he]
    simp [Condition.tree, Tree.withoutParens]
  | .binary _ op l r, scope, current, w, w', t, hscope, hw, h => by
    obtain ⟨tl, w₁, hl, tr, hr, -, rfl⟩ := compile_binary_ok.mp h
    simp only [operatorTree, compile_operatorTree l hscope hw hl,
      compile_operatorTree r hscope (compile_isSound hl hw) hr, Condition.tree,
      Tree.withoutParens, Condition.withoutParens_wrapTree]
  | .nullTest _ test e, scope, current, w, w', t, hscope, hw, h => by
    obtain ⟨te, he, -, rfl⟩ := compile_nullTest_ok.mp h
    rw [operatorTree, compile_operatorTree e hscope hw he]
    cases test <;> simp [NullTest.negated, Condition.tree, Tree.withoutParens]
  | .like _ negated e p, scope, current, w, w', t, hscope, hw, h => by
    obtain ⟨te, w₁, he, tp, hp, -, rfl⟩ := compile_like_ok.mp h
    simp only [operatorTree, compile_operatorTree e hscope hw he,
      compile_operatorTree p hscope (compile_isSound he hw) hp, Condition.tree,
      Tree.withoutParens, Condition.withoutParens_wrapTree]
  | .between _ negated e low high, scope, current, w, w', t, hscope, hw, h => by
    obtain ⟨te, w₁, he, tl, w₂, hl, th, hh, -, rfl⟩ := compile_between_ok.mp h
    have hw₁ := compile_isSound he hw
    simp only [operatorTree, compile_operatorTree e hscope hw he,
      compile_operatorTree low hscope hw₁ hl,
      compile_operatorTree high hscope (compile_isSound hl hw₁) hh, Condition.tree,
      Tree.withoutParens, Condition.withoutParens_wrapTree]
  | .inList _ negated e items, scope, current, w, w', t, hscope, hw, h => by
    obtain ⟨-, te, w₁, he, ts, hs, rfl⟩ := compile_inList_ok.mp h
    simp only [operatorTree, compile_operatorTree e hscope hw he,
      compileItems_operatorTrees items hscope (compile_isSound he hw) hs, Typed.inList,
      Condition.tree, Tree.withoutParens, Condition.withoutParens_wrapTree]
  | .call _ f e, scope, current, w, w', t, hscope, hw, h => by
    obtain ⟨te, he, -, rfl⟩ := compile_call_ok.mp h
    rw [operatorTree, compile_operatorTree e hscope hw he]
    rfl
  | .existsIn _ u e, scope, current, w, w', t, hscope, hw, h => by
    obtain ⟨inner, r, hu, -, tf, hf, -, rfl⟩ := compile_existsIn_ok.mp h
    obtain ⟨hinner, hr⟩ := Registry.register_ok hw hu
    have hname := (TableType.table_ok_iff.mp hinner).1
    have he := compile_operatorTree e (hscope.cons hinner) hr hf
    rw [operatorTree, ← hname, he]
    rfl

/-- The items of a list are compiled to their operator trees. -/
theorem compileItems_operatorTrees : ∀ (items : List Expr) {scope : Scope} {current : Table}
    {site : Site} {construct : Construct} {operand : Typed} {w w' : Workspace} {ts : List Typed},
    scope.IsSound → w.registry.IsSound →
    compileItems scope current site construct operand items w = (.ok ts, w') →
    itemOperatorTrees current.name w.arena.slots items =
      (Tree.itemsWithoutParens (Condition.itemTrees (ts.map (·.condition))), w'.arena.slots)
  | [], scope, current, site, construct, operand, w, w', ts, _, _, h => by
    obtain ⟨rfl, rfl⟩ := compileItems_nil_ok.mp h
    rfl
  | e :: es, scope, current, site, construct, operand, w, w', ts, hscope, hw, h => by
    obtain ⟨te, w₁, he, -, tes, hs, rfl⟩ := compileItems_cons_ok.mp h
    simp only [itemOperatorTrees, compile_operatorTree e hscope hw he,
      compileItems_operatorTrees es hscope (compile_isSound he hw) hs, List.map_cons,
      Condition.itemTrees, Tree.itemsWithoutParens]

end

end Expr

/-! ## Queries -/

namespace Query

variable {r r' : Registry} {t : TableType} {filter : Expr} {q : Query}

/-- The names of a compiled query are no keywords if those of its table types are none. -/
lemma compile_leaves_keywords (hr : r.IsSound) (h : Query.compile t filter r = (.ok q, r'))
    (hnames : ∀ u ∈ t :: filter.tables, Keyword.ofWord? u.name = none ∧
      ∀ c ∈ u.columns, Keyword.ofWord? c.name = none) :
    ∀ x ∈ q.condition.leaves, x.IsProper fun w => Keyword.ofWord? w = none := by
  have hproper : ∀ u ∈ t :: filter.tables, ∀ table, u.table = .ok table →
      table.NamesAre fun w => Keyword.ofWord? w = none := by
    intro u hu table htable
    obtain ⟨hname, hcolumns⟩ := TableType.table_ok_iff.mp htable
    unfold Table.NamesAre
    rw [hname, hcolumns]
    exact hnames u hu
  obtain ⟨table, r₁, hregister, -, tf, w, hf, -, rfl, -⟩ := compile_ok.mp h
  obtain ⟨htable, hr₁⟩ := Registry.register_ok hr hregister
  have hroot := hproper t List.mem_cons_self table htable
  refine Expr.compile_leaves filter (fun u hu => hproper u (List.mem_cons_of_mem t hu)) ?_ hroot
    hr₁ hf
  simpa using hroot

/-- The text of a compiled query is written as one tree of the grammar only, which is found by
reading the whole text and is the operator tree of its filter, except for parentheses.

Proof sketch. The text stands apart, so that it is read back as the tokens of the condition. The
parentheses in it stand where the strengths of the grammar need them, so that these tokens are
written as the tree of the condition, and no list of tokens is written as two trees. By induction on
the filter, the tree of the condition is the operator tree of the filter, except for parentheses. -/
theorem compile_reads (hr : r.IsReachable) (h : Query.compile t filter r = (.ok q, r'))
    (hnames : ∀ u ∈ t :: filter.tables, Keyword.ofWord? u.name = none ∧
      ∀ c ∈ u.columns, Keyword.ofWord? c.name = none) :
    ∃ tree, (∀ u, Sql.Reads q.conditionText u ↔ u = tree) ∧
      Sql.readText? q.conditionText = some tree ∧
      (filter.operatorTree t.name []).1 = tree.withoutParens := by
  have hreads : Sql.Reads q.conditionText q.condition.tree :=
    Condition.reads_tree (compile_leaves hr.isSound h) (compile_leaves_keywords hr.isSound h hnames)
  refine ⟨q.condition.tree, fun u => ⟨fun hu => hu.unique hreads, ?_⟩, hreads.readText?_eq, ?_⟩
  · rintro rfl
    exact hreads
  · obtain ⟨table, r₁, hregister, -, tf, w, hf, -, rfl, -⟩ := compile_ok.mp h
    obtain ⟨htable, hr₁⟩ := Registry.register_ok hr.isSound hregister
    rw [← (TableType.table_ok_iff.mp htable).1]
    exact congrArg Prod.fst (Expr.compile_operatorTree filter (.singleton htable) hr₁ hf)

end Query

/-- The text of a filter with a nested query reads as its operator tree. -/
theorem Sample.owners_reads :
    ∃ q r' tree, Query.compile person owners {} = (.ok q, r') ∧
      Sql.readText? q.conditionText = some tree ∧
      (owners.operatorTree person.name []).1 = tree.withoutParens := by
  obtain ⟨q, r', h⟩ := exists_compile_owners
  obtain ⟨tree, -, hread, htree⟩ := Query.compile_reads ⟨[], rfl⟩ h (by decide)
  exact ⟨q, r', tree, h, hread, htree⟩

end TypedSql
