import TypedSql.Proofs.Query.Blame
import TypedSql.Proofs.Query.Numbering
import TypedSql.Proofs.Sql.Literals

/-!
# Constant filters

A complete filter must not be a lone truth value. The guard looks at the expression, through the
qualifications around it; the text comes from the condition, in which the qualifications are gone
and the names of the truth values have become literals. This file shows that the two agree: a
condition that was compiled from a complete filter is no literal and does not read like one, at the
top and in every nested query, and the guard refuses nothing but truth values.

## Main definitions

* `Condition.nestedFilters` — the filters of the nested queries of a condition, at any depth.
* `Expr.IsTruth` — a truth value, by itself or with qualifications around it.

## Main results

* `Condition.not_areLiteral` — no other condition than a literal has the lexemes of one.
* `Expr.isTruthValue_of_compile` — a boolean that compiles to a literal is a lone truth value.
* `Query.guarded_constants` — what compiles is no constant, and what the guard refuses is one.
-/

set_option autoImplicit false

namespace TypedSql

open Sql (AreLiteral lexemes)
open Text (IsIdentifier)

/-! ## Lexemes of conditions -/

namespace Condition

/-- Parentheses add lexemes. -/
lemma length_lexemes_wrap (needed level : Nat) (ps : List Sql.Piece) :
    (lexemes ps).length ≤ (lexemes (wrap needed level ps)).length := by
  unfold wrap
  split
  · simp only [Sql.parenthesized, Sql.lexemes_append, List.length_append]
    omega
  · exact le_rfl

/-- The sign of an operator is one lexeme. -/
lemma length_lexemes_operator (op : BinaryOp) : (lexemes [.lexeme op.lexeme]).length = 1 := by
  cases op <;> rfl

/-- The word of a test is among its lexemes. -/
lemma word_mem_testWords (negated : Bool) (w : String) :
    .word w ∈ lexemes (testWords negated [w]) := by
  cases negated <;> simp [testWords, Sql.words, List.intercalate]

/-- Every condition has a lexeme. -/
lemma length_lexemes_pos (c : Condition) : 0 < (lexemes c.pieces).length := by
  cases c with
  | literal v =>
    rw [pieces, lexemes, List.flatMap_singleton]
    unfold Sql.Piece.lexemes
    split <;> simp_all
  | binary op l r =>
    simp only [pieces, Sql.lexemes_append, List.length_append, length_lexemes_operator]
    omega
  | like negated e p =>
    have hword : .word "LIKE" ∈ lexemes (like negated e p).pieces := by
      simp [pieces, word_mem_testWords]
    exact List.length_pos_of_mem hword
  | inList negated e items =>
    have hword : .word "IN" ∈ lexemes (inList negated e items).pieces := by
      simp [pieces, word_mem_testWords]
    exact List.length_pos_of_mem hword
  | _ => simp [pieces]

/-- No other condition than a literal has the lexemes of one: there is a word or a placeholder among
them, or there are too many. -/
theorem not_areLiteral {c : Condition} (h : ∀ v, c ≠ .literal v) :
    ¬ AreLiteral (lexemes c.pieces) := by
  intro hliteral
  cases c with
  | literal v => exact h v rfl
  | column table name => exact hliteral.word_notMem table (by simp [pieces])
  | placeholder n => exact hliteral.placeholder_notMem n (by simp [pieces])
  | not e => exact hliteral.word_notMem "NOT" (by simp [pieces])
  | binary op l r =>
    have hl := (length_lexemes_pos l).trans_le (length_lexemes_wrap op.lhsLevel l.level _)
    have hr := (length_lexemes_pos r).trans_le (length_lexemes_wrap op.rhsLevel r.level _)
    have hlength := hliteral.length_le
    simp only [pieces, Sql.lexemes_append, List.length_append, length_lexemes_operator]
      at hlength
    omega
  | isNull negated e => exact hliteral.word_notMem "IS" (by simp [pieces])
  | like negated e p =>
    exact hliteral.word_notMem "LIKE" (by simp [pieces, word_mem_testWords])
  | between negated e low high => exact hliteral.word_notMem "AND" (by simp [pieces])
  | inList negated e items =>
    exact hliteral.word_notMem "IN" (by simp [pieces, word_mem_testWords])
  | call f e => exact hliteral.word_notMem f.name (by simp [pieces])
  | existsIn table e => exact hliteral.word_notMem "EXISTS" (by simp [pieces])

/-- The text of a condition with proper leaves is one literal only if the condition is one. -/
lemma readLiteral_ne {c : Condition} (hleaves : ∀ x ∈ c.leaves, x.IsProper IsIdentifier)
    (h : ∀ v, c ≠ .literal v) (l : Sql.Literal) :
    Sql.readLiteral c.text.toList ≠ some (l, []) := by
  intro hread
  obtain ⟨ls, hlex, hliteral⟩ := Sql.exists_lex_of_readLiteral hread
  rw [text, (standsApart c hleaves).lex_spell] at hlex
  cases hlex
  exact not_areLiteral h hliteral

/-! ## Filters of nested queries -/

mutual

/-- The filters of the nested queries of a condition, at any depth. -/
def nestedFilters : Condition → List Condition
  | .literal _ | .column _ _ | .placeholder _ => []
  | .not e | .isNull _ e | .call _ e => e.nestedFilters
  | .binary _ l r | .like _ l r => l.nestedFilters ++ r.nestedFilters
  | .between _ e low high => e.nestedFilters ++ low.nestedFilters ++ high.nestedFilters
  | .inList _ e items => e.nestedFilters ++ itemNestedFilters items
  | .existsIn _ e => e :: e.nestedFilters

/-- The filters of the nested queries of the items of a list. -/
def itemNestedFilters : List Condition → List Condition
  | [] => []
  | e :: es => e.nestedFilters ++ itemNestedFilters es

end

mutual

/-- What holds of the leaves of a condition holds of those of the nested filters. -/
theorem nestedFilters_leaves {P : Leaf → Prop} : ∀ c : Condition, (∀ x ∈ c.leaves, P x) →
    ∀ d ∈ c.nestedFilters, ∀ x ∈ d.leaves, P x
  | .literal _, _ | .column _ _, _ | .placeholder _, _ => nofun
  | .not e, h | .isNull _ e, h | .call _ e, h => nestedFilters_leaves e h
  | .binary _ l r, h | .like _ l r, h => by
    obtain ⟨hl, hr⟩ := List.forall_mem_append.mp h
    rw [nestedFilters, List.forall_mem_append]
    exact ⟨nestedFilters_leaves l hl, nestedFilters_leaves r hr⟩
  | .between _ e low high, h => by
    obtain ⟨hrange, hhigh⟩ := List.forall_mem_append.mp h
    obtain ⟨he, hlow⟩ := List.forall_mem_append.mp hrange
    rw [nestedFilters, List.forall_mem_append, List.forall_mem_append]
    exact ⟨⟨nestedFilters_leaves e he, nestedFilters_leaves low hlow⟩,
      nestedFilters_leaves high hhigh⟩
  | .inList _ e items, h => by
    obtain ⟨he, hitems⟩ := List.forall_mem_append.mp h
    rw [nestedFilters, List.forall_mem_append]
    exact ⟨nestedFilters_leaves e he, itemNestedFilters_leaves items hitems⟩
  | .existsIn table e, h => by
    obtain ⟨-, he⟩ := List.forall_mem_cons.mp h
    rw [nestedFilters, List.forall_mem_cons]
    exact ⟨he, nestedFilters_leaves e he⟩

/-- The leaves of the filters nested in items are leaves of these. -/
theorem itemNestedFilters_leaves {P : Leaf → Prop} : ∀ es : List Condition,
    (∀ x ∈ itemLeaves es, P x) → ∀ d ∈ itemNestedFilters es, ∀ x ∈ d.leaves, P x
  | [], _ => nofun
  | e :: es, h => by
    obtain ⟨he, hes⟩ := List.forall_mem_append.mp h
    rw [itemNestedFilters, List.forall_mem_append]
    exact ⟨nestedFilters_leaves e he, itemNestedFilters_leaves es hes⟩

end

end Condition

/-! ## Truth values -/

namespace Expr

/-- A truth value: a literal, a column that is named for it, or one of these with qualifications
around it. The builder of literals leaves no node around an expression. -/
inductive IsTruth : Expr → Prop where
  | literal (s : Site) (b : Bool) : IsTruth (.literal s (.bool b))
  | column (s : Site) {name : String} : name = "true" ∨ name = "false" → IsTruth (.column s name)
  | within (s : Site) (u : TableType) {e : Expr} : IsTruth e → IsTruth (.within s u e)

/-- Only `true` and `false` are names of truth values. -/
lemma truthName?_isSome_iff {name : String} :
    (truthName? name).isSome = true ↔ name = "true" ∨ name = "false" := by
  unfold truthName?
  split <;> simp_all

/-- The guard finds the truth values and nothing else. -/
lemma isTruthValue_iff : ∀ {e : Expr}, e.isTruthValue = true ↔ e.IsTruth
  | .literal s v => by
    constructor
    · intro h
      cases v with
      | bool b => exact .literal s b
      | _ => cases h
    · rintro ⟨⟩
      rfl
  | .column s name => by
    rw [isTruthValue, truthName?_isSome_iff]
    exact ⟨.column s, fun | .column _ h => h⟩
  | .within s u e => by
    rw [isTruthValue, isTruthValue_iff]
    exact ⟨.within s u, fun | .within _ _ h => h⟩
  | .param _ _ | .not _ _ | .binary _ _ _ _ | .nullTest _ _ _ | .like _ _ _ _ | .between _ _ _ _ _
  | .inList _ _ _ _ | .call _ _ _ | .existsIn _ _ _ => iff_of_false nofun nofun

/-- Every node of a truth value is one. -/
lemma IsTruth.of_mem_nodes {e : Expr} (h : e.IsTruth) {x : Standing} :
    ∀ p ∈ e.nodes x, p.2.IsTruth := by
  induction h generalizing x with
  | literal s b => simpa [nodes] using IsTruth.literal s b
  | column s hname => simpa [nodes] using IsTruth.column s hname
  | within s u he ih =>
    rw [nodes, List.forall_mem_cons]
    exact ⟨he.within s u, ih⟩

/-! ## What compiles to a literal -/

/-- A boolean that compiles to a literal is a lone truth value. -/
theorem isTruthValue_of_compile : ∀ (e : Expr) {scope : Scope} {current : Table}
    {w w' : Workspace} {t : Typed} {v : Cell}, e.compile scope current w = (.ok t, w') →
    t.kind.scalar = .boolean → t.condition = .literal v → e.isTruthValue = true
  | .literal _ c, _, _, _, _, _, _, h, hkind, _ => by
    obtain ⟨⟨⟨s, hs, rfl⟩, -⟩, -⟩ := compile_literal_ok.mp h
    cases hkind
    cases c <;> cases hs
    rfl
  | .column _ name, _, _, _, _, _, _, h, _, hv => by
    obtain ⟨⟨b, hname, rfl⟩ | ⟨-, c, -, rfl⟩, -⟩ := compile_column_ok.mp h
    · rw [isTruthValue, hname]
      rfl
    · cases hv
  | .within _ _ e, _, _, _, _, _, _, h, hkind, hv => by
    obtain ⟨other, -, he⟩ := compile_within_ok.mp h
    exact isTruthValue_of_compile e he hkind hv
  | .param _ _, _, _, _, _, _, _, h, _, hv => by
    obtain ⟨n, a, -, rfl, -⟩ := compile_param_ok.mp h
    cases hv
  | .not _ _, _, _, _, _, _, _, h, _, hv => by
    obtain ⟨te, -, -, rfl⟩ := compile_not_ok.mp h
    cases hv
  | .binary _ _ _ _, _, _, _, _, _, _, h, _, hv => by
    obtain ⟨tl, w₁, -, tr, -, -, rfl⟩ := compile_binary_ok.mp h
    cases hv
  | .nullTest _ _ _, _, _, _, _, _, _, h, _, hv => by
    obtain ⟨te, -, -, rfl⟩ := compile_nullTest_ok.mp h
    cases hv
  | .like _ _ _ _, _, _, _, _, _, _, h, _, hv => by
    obtain ⟨te, w₁, -, tp, -, -, rfl⟩ := compile_like_ok.mp h
    cases hv
  | .between _ _ _ _ _, _, _, _, _, _, _, h, _, hv => by
    obtain ⟨te, w₁, -, tl, w₂, -, th, -, -, rfl⟩ := compile_between_ok.mp h
    cases hv
  | .inList _ _ _ _, _, _, _, _, _, _, h, _, hv => by
    obtain ⟨-, te, w₁, -, ts, -, rfl⟩ := compile_inList_ok.mp h
    cases hv
  | .call _ _ _, _, _, _, _, _, _, h, _, hv => by
    obtain ⟨te, -, -, rfl⟩ := compile_call_ok.mp h
    cases hv
  | .existsIn _ _ _, _, _, _, _, _, _, h, _, hv => by
    obtain ⟨table, r, -, -, tf, -, -, rfl⟩ := compile_existsIn_ok.mp h
    cases hv

/-- A complete filter compiles to no literal. -/
lemma ne_literal_of_compile {e : Expr} {scope : Scope} {current : Table} {w w' : Workspace}
    {t : Typed} (hguard : e.isTruthValue = false) (h : e.compile scope current w = (.ok t, w'))
    (hkind : t.kind.scalar = .boolean) (v : Cell) : t.condition ≠ .literal v := by
  intro hv
  cases hguard.symm.trans (isTruthValue_of_compile e h hkind hv)

mutual

/-- The filters of the nested queries of what compiles are no literals. -/
theorem compile_nestedFilters : ∀ (e : Expr) {scope : Scope} {current : Table}
    {w w' : Workspace} {t : Typed}, e.compile scope current w = (.ok t, w') →
    ∀ c ∈ t.condition.nestedFilters, ∀ v, c ≠ .literal v
  | .literal _ _, _, _, _, _, _, h => by
    obtain ⟨⟨⟨s, -, rfl⟩, -⟩, -⟩ := compile_literal_ok.mp h
    exact nofun
  | .column _ _, _, _, _, _, _, h => by
    obtain ⟨⟨b, -, rfl⟩ | ⟨-, c, -, rfl⟩, -⟩ := compile_column_ok.mp h
    · exact nofun
    · exact nofun
  | .within _ _ e, _, _, _, _, _, h => by
    obtain ⟨other, -, he⟩ := compile_within_ok.mp h
    exact compile_nestedFilters e he
  | .param _ _, _, _, _, _, _, h => by
    obtain ⟨n, a, -, rfl, -⟩ := compile_param_ok.mp h
    exact nofun
  | .not _ e, _, _, _, _, _, h => by
    obtain ⟨te, he, -, rfl⟩ := compile_not_ok.mp h
    rw [Condition.nestedFilters]
    exact compile_nestedFilters e he
  | .nullTest _ _ e, _, _, _, _, _, h => by
    obtain ⟨te, he, -, rfl⟩ := compile_nullTest_ok.mp h
    rw [Condition.nestedFilters]
    exact compile_nestedFilters e he
  | .call _ _ e, _, _, _, _, _, h => by
    obtain ⟨te, he, -, rfl⟩ := compile_call_ok.mp h
    rw [Condition.nestedFilters]
    exact compile_nestedFilters e he
  | .binary _ _ l r, _, _, _, _, _, h => by
    obtain ⟨tl, w₁, hl, tr, hr, -, rfl⟩ := compile_binary_ok.mp h
    rw [Condition.nestedFilters, List.forall_mem_append]
    exact ⟨compile_nestedFilters l hl, compile_nestedFilters r hr⟩
  | .like _ _ e p, _, _, _, _, _, h => by
    obtain ⟨te, w₁, he, tp, hp, -, rfl⟩ := compile_like_ok.mp h
    rw [Condition.nestedFilters, List.forall_mem_append]
    exact ⟨compile_nestedFilters e he, compile_nestedFilters p hp⟩
  | .between _ _ e low high, _, _, _, _, _, h => by
    obtain ⟨te, w₁, he, tl, w₂, hl, th, hh, -, rfl⟩ := compile_between_ok.mp h
    rw [Condition.nestedFilters, List.forall_mem_append, List.forall_mem_append]
    exact ⟨⟨compile_nestedFilters e he, compile_nestedFilters low hl⟩,
      compile_nestedFilters high hh⟩
  | .inList _ _ e items, _, _, _, _, _, h => by
    obtain ⟨-, te, w₁, he, ts, hs, rfl⟩ := compile_inList_ok.mp h
    rw [Typed.inList, Condition.nestedFilters, List.forall_mem_append]
    exact ⟨compile_nestedFilters e he, compileItems_nestedFilters items hs⟩
  | .existsIn _ _ filter, _, _, _, _, _, h => by
    -- the guard has looked at the filter of the nested query
    obtain ⟨table, r, -, hguard, tf, hf, hkind, rfl⟩ := compile_existsIn_ok.mp h
    rw [Typed.existsIn, Condition.nestedFilters, List.forall_mem_cons]
    exact ⟨ne_literal_of_compile hguard hf hkind, compile_nestedFilters filter hf⟩

/-- No filter nested in the items of a list is compiled to a literal. -/
theorem compileItems_nestedFilters : ∀ (items : List Expr) {scope : Scope} {current : Table}
    {site : Site} {construct : Construct} {operand : Typed} {w w' : Workspace} {ts : List Typed},
    compileItems scope current site construct operand items w = (.ok ts, w') →
    ∀ c ∈ Condition.itemNestedFilters (ts.map (·.condition)), ∀ v, c ≠ .literal v
  | [], _, _, _, _, _, _, _, _, h => by
    obtain ⟨rfl, -⟩ := compileItems_nil_ok.mp h
    exact nofun
  | e :: es, _, _, _, _, _, _, _, _, h => by
    obtain ⟨te, w₁, he, -, tes, hs, rfl⟩ := compileItems_cons_ok.mp h
    rw [List.map_cons, Condition.itemNestedFilters, List.forall_mem_append]
    exact ⟨compile_nestedFilters e he, compileItems_nestedFilters es hs⟩

end

end Expr

/-! ## Queries -/

namespace Query

variable {t : TableType} {filter : Expr} {r r' : Registry}

/-- The condition of a query is no literal, and neither are the filters of its nested queries. -/
lemma ne_literal_of_compile {q : Query} (h : compile t filter r = (.ok q, r')) :
    ∀ c ∈ q.condition :: q.condition.nestedFilters, ∀ v, c ≠ .literal v := by
  obtain ⟨table, r₁, -, hguard, tf, w, hf, hkind, rfl, -⟩ := compile_ok.mp h
  exact List.forall_mem_cons.mpr
    ⟨Expr.ne_literal_of_compile hguard hf hkind, Expr.compile_nestedFilters filter hf⟩

/-- **No filter is constant.** From every reachable registry, neither the condition of a query that
compiles nor the filter of one of its nested queries, at any depth, is a literal or has the text of
one. The guard of complete filters refuses truth values alone: every node of what it refuses is a
truth value or a qualification. Over a valid table type it refuses all of them.

Proof sketch. Literals are compiled from literals and from columns with the names of the truth
values, and qualifications leave no trace in a condition; so a boolean literal comes from an
expression that the guard has refused. The text of any other condition is read as lexemes that have
a word or a placeholder among them or are more than two. -/
theorem guarded_constants (hr : r.IsReachable) (t : TableType) (filter : Expr) :
    (∀ q r', compile t filter r = (.ok q, r') → ∀ c ∈ q.condition :: q.condition.nestedFilters,
      (∀ v, c ≠ .literal v) ∧ ∀ l, Sql.readLiteral c.text.toList ≠ some (l, [])) ∧
    (∀ s r', compile t filter r = (.error (.refused s .constantFilter), r') →
      ∃ x node, (x, node) ∈ filter.nodes (.start t) ∧ x.isFilter = true ∧ node.site = s ∧
        ∀ p ∈ node.nodes x, p.2.IsTruth) ∧
    (t.IsValid → filter.IsTruth →
      ∃ r', compile t filter r = (.error (.refused filter.site .constantFilter), r')) := by
  refine ⟨fun q r' h c hc => ?_, fun s r' h => ?_, fun ht htruth => ?_⟩
  · have hliteral := ne_literal_of_compile h c hc
    have hleaves := compile_leaves hr.isSound h
    have hnested := List.forall_mem_cons.mpr
      ⟨hleaves, Condition.nestedFilters_leaves q.condition hleaves⟩
    exact ⟨hliteral, Condition.readLiteral_ne (hnested c hc) hliteral⟩
  · obtain ⟨x, node, hmem, hsite, hexhibits⟩ := compile_raises hr.isSound t filter _ r' h s rfl
    cases hexhibits with
    | constantFilter hfilter htruth =>
      exact ⟨x, node, hmem, hfilter, hsite, (Expr.isTruthValue_iff.mp htruth).of_mem_nodes⟩
  · obtain ⟨table, r₁, hregister⟩ := Registry.register_of_isValid r ht
    have hrefused : filter.compileFilter [⟨t, table⟩] table ⟨r₁, {}⟩ =
        (.error (.refused filter.site .constantFilter), ⟨r₁, {}⟩) := by
      unfold Expr.compileFilter Compiling.complete
      rw [Expr.isTruthValue_iff.mpr htruth]
      rfl
    have hover : compileOver t table filter r₁ =
        (.error (.refused filter.site .constantFilter), r₁) := by
      unfold compileOver
      rw [hrefused]
      rfl
    refine ⟨r₁, ?_⟩
    unfold compile
    rw [run_bind_of_ok hregister, run_bind_of_error hover]

end Query

namespace Sample

/-- The filter for persons has a nested one, and neither has the text of a literal. A truth value
that is named like a column and qualified is refused. -/
theorem owners_not_constant :
    (∃ q r', Query.compile person owners {} = (.ok q, r') ∧ q.condition.nestedFilters ≠ [] ∧
      ∀ c ∈ q.condition :: q.condition.nestedFilters, ∀ l,
        Sql.readLiteral c.text.toList ≠ some (l, [])) ∧
    person.IsValid ∧ (Builder.qualified person (Builder.col "true")).IsTruth ∧
    ∃ r', Query.compile person (Builder.qualified person (Builder.col "true")) {} =
      (.error (.refused ⟨"qualified"⟩ .constantFilter), r') := by
  have hempty : Registry.IsReachable {} := ⟨[], rfl⟩
  have hvalid : person.IsValid := persons.accepted
  have htruth : (Builder.qualified person (Builder.col "true")).IsTruth :=
    .within _ _ (.column _ (.inl rfl))
  obtain ⟨q, r', hok, hnested⟩ : ∃ q r', Query.compile person owners {} = (.ok q, r') ∧
      q.condition.nestedFilters ≠ [] := ⟨_, _, rfl, List.cons_ne_nil _ _⟩
  obtain ⟨hcompiled, -, -⟩ := Query.guarded_constants hempty person owners
  obtain ⟨-, -, hrefused⟩ := Query.guarded_constants hempty person
    (Builder.qualified person (Builder.col "true"))
  exact ⟨⟨q, r', hok, hnested, fun c hc => (hcompiled q r' hok c hc).2⟩, hvalid, htruth,
    hrefused hvalid htruth⟩

end Sample

end TypedSql
