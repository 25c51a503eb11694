import TypedSql.Proofs.Query.Compile
import TypedSql.Proofs.Schema.Reachable
import TypedSql.Proofs.Sql.Pieces

/-!
# The lexemes of conditions

The text of a condition stands apart from what follows it as soon as its names are identifiers and
its literals have a spelling, and every condition that the compiler gives is like that. So the text
is read back as the lexemes that it was assembled from.

## Main definitions

* `Leaf`, `Condition.leaves` — the names, literals and placeholders of a condition, in the order of
  its text.
* `Condition.positions` — the positions of its placeholders, in the order of its text.
* `Expr.tables` — the table types of the nested queries.

## Main results

* `Condition.standsApart` — a condition with proper leaves stands apart.
* `Condition.placeholdersOf_pieces` — the placeholders among the lexemes of a condition.
* `Expr.compile_leaves` — the leaves of a compiled condition are proper.
-/

set_option autoImplicit false

namespace TypedSql

open Sql (Lexeme Piece StandsApart placeholdersOf)
open Text (IsIdentifier)

/-! ## Leaves -/

/-- What stands at the leaves of a condition. -/
inductive Leaf where
  /-- The name of a table or a column. -/
  | name (w : String)
  | literal (value : Cell)
  | placeholder (position : Nat)

namespace Leaf

/-- The position of a placeholder. -/
def position? : Leaf → Option Nat
  | .placeholder n => some n
  | .name _ | .literal _ => none

/-- Whether a name passes a test, or a literal has a spelling. -/
def IsProper (P : String → Prop) : Leaf → Prop
  | .name w => P w
  | .literal v => v.scalar?.isSome = true ∧ ∀ x, v = .real x → x.isFinite = true
  | .placeholder _ => True

end Leaf

namespace Condition

mutual

/-- The leaves of a condition in the order of its text. -/
def leaves : Condition → List Leaf
  | .literal v => [.literal v]
  | .column table name => [.name table, .name name]
  | .placeholder n => [.placeholder n]
  | .not e | .isNull _ e | .call _ e => e.leaves
  | .binary _ l r | .like _ l r => l.leaves ++ r.leaves
  | .between _ e low high => e.leaves ++ low.leaves ++ high.leaves
  | .inList _ e items => e.leaves ++ itemLeaves items
  | .existsIn table e => .name table :: e.leaves

/-- The leaves of the items of a list. -/
def itemLeaves : List Condition → List Leaf
  | [] => []
  | e :: es => e.leaves ++ itemLeaves es

end

/-- The positions of the placeholders of a condition in the order of its text. -/
def positions (c : Condition) : List Nat := c.leaves.filterMap Leaf.position?

end Condition

/-! ## Pieces of conditions stand apart -/

/-- The literal of a cell stands apart. -/
lemma Cell.standsApart {v : Cell} (h : v.scalar?.isSome = true)
    (hreal : ∀ x, v = .real x → x.isFinite = true) : StandsApart [.lexeme v.lexeme] := by
  cases v with
  | null => cases h
  | bool b =>
    refine StandsApart.lexeme (.inl ⟨List.cons_ne_nil _ _, ?_⟩)
    intro c hc
    cases List.mem_singleton.mp hc
    cases b <;> rfl
  | int n =>
    refine StandsApart.signed ?_ (.inl (Number.isDigits_decimalDigits _))
    split
    · exact .inr rfl
    · exact .inl rfl
  | real x =>
    obtain ⟨sign, body, htext, hsign, hbody⟩ := Number.realText_of_isFinite (hreal x rfl)
    rw [Cell.lexeme, htext]
    exact StandsApart.signed hsign (.inr hbody)
  | text s => exact StandsApart.lexeme trivial
  | blob bytes => exact StandsApart.lexeme trivial

/-- An operator is one lexeme of its own. -/
lemma BinaryOp.standsApart (op : BinaryOp) : StandsApart [.lexeme op.lexeme] := by
  refine StandsApart.lexeme ?_
  cases op <;> trivial

namespace Condition

/-- Parentheses around an operand keep it apart. -/
lemma standsApart_wrap {ps : List Piece} (h : StandsApart ps) (needed level : Nat) :
    StandsApart (wrap needed level ps) := by
  unfold wrap
  split
  · exact h.parenthesized
  · exact h

/-- The words of a test can be told apart. -/
lemma standsApart_testWords (negated : Bool) {ws : List String} (h : ∀ w ∈ ws, IsIdentifier w) :
    StandsApart (testWords negated ws) := by
  refine StandsApart.words fun w hw => ?_
  cases negated with
  | false => exact h w hw
  | true =>
    rcases List.mem_cons.mp hw with rfl | hw
    · decide
    · exact h w hw

mutual

/-- The pieces of a condition whose leaves are proper stand apart. -/
theorem standsApart : ∀ c : Condition, (∀ x ∈ c.leaves, x.IsProper IsIdentifier) →
    StandsApart c.pieces
  | .literal v, h => by
    have hv := h (.literal v) (by simp [leaves])
    exact Cell.standsApart hv.1 hv.2
  | .column table name, h => by
    have htable := h (.name table) (by simp [leaves])
    have hname := h (.name name) (by simp [leaves])
    exact StandsApart.word_dot_word htable hname
  | .placeholder n, _ => StandsApart.placeholder n
  | .not e, h => by
    rw [leaves] at h
    rw [pieces]
    exact (StandsApart.word (by decide)).append_blank (standsApart_wrap (standsApart e h) _ _)
  | .isNull negated e, h => by
    rw [leaves] at h
    rw [pieces]
    exact ((standsApart_wrap (standsApart e h) _ _).append_blank
      (.word (by decide))).append_blank (standsApart_testWords negated (by decide))
  | .call f e, h => by
    rw [leaves] at h
    rw [pieces]
    exact StandsApart.word_parenthesized (by cases f <;> decide) (standsApart e h)
  | .binary op l r, h => by
    rw [leaves, List.forall_mem_append] at h
    rw [pieces]
    exact ((standsApart_wrap (standsApart l h.1) _ _).append_blank op.standsApart).append_blank
      (standsApart_wrap (standsApart r h.2) _ _)
  | .like negated e p, h => by
    rw [leaves, List.forall_mem_append] at h
    rw [pieces]
    exact ((standsApart_wrap (standsApart e h.1) _ _).append_blank
      (standsApart_testWords negated (by decide))).append_blank
      (standsApart_wrap (standsApart p h.2) _ _)
  | .between negated e low high, h => by
    rw [leaves, List.forall_mem_append, List.forall_mem_append] at h
    rw [pieces]
    exact ((((standsApart_wrap (standsApart e h.1.1) _ _).append_blank
      (standsApart_testWords negated (by decide))).append_blank
      (standsApart_wrap (standsApart low h.1.2) _ _)).append_blank
      (.word (by decide))).append_blank (standsApart_wrap (standsApart high h.2) _ _)
  | .inList negated e items, h => by
    rw [leaves, List.forall_mem_append] at h
    rw [pieces]
    exact ((standsApart_wrap (standsApart e h.1) _ _).append_blank
      (standsApart_testWords negated (by decide))).append_blank
      (StandsApart.commaList (standsApart_items items h.2)).parenthesized
  | .existsIn table e, h => by
    rw [leaves, List.forall_mem_cons] at h
    have hfrom : ∀ w ∈ ["FROM", table, "WHERE"], IsIdentifier w := by
      have htable : IsIdentifier table := h.1
      simp only [List.forall_mem_cons, List.not_mem_nil, false_imp_iff, implies_true, and_true]
      exact ⟨by decide, htable, by decide⟩
    rw [pieces]
    exact StandsApart.word_parenthesized (by decide) <|
      (((((StandsApart.words (by decide)).append_blank (.numeral 1)).append_blank
        (.words hfrom)).append_blank (standsApart e h.2)).append_blank
        (.word (by decide))).append_blank (.numeral 1)

/-- The words of each item of a list can be told apart. -/
theorem standsApart_items : ∀ es : List Condition, (∀ x ∈ itemLeaves es, x.IsProper IsIdentifier) →
    ∀ ps ∈ itemPieces es, StandsApart ps
  | [], _ => by simp [itemPieces]
  | e :: es, h => by
    simp only [itemLeaves, List.forall_mem_append] at h
    simp only [itemPieces, List.forall_mem_cons]
    exact ⟨standsApart e h.1, standsApart_items es h.2⟩

end

/-! ## Placeholders -/

/-- Parentheses add no placeholders. -/
@[simp]
lemma placeholdersOf_wrap (needed level : Nat) (ps : List Piece) :
    placeholdersOf (wrap needed level ps) = placeholdersOf ps := by
  unfold wrap
  split
  · exact Sql.placeholdersOf_parenthesized ps
  · rfl

/-- The words of a test are no placeholders. -/
@[simp]
lemma placeholdersOf_testWords (negated : Bool) (ws : List String) :
    placeholdersOf (testWords negated ws) = [] :=
  Sql.placeholdersOf_words _

mutual

/-- The placeholders in the text of a condition are those at its leaves, in the same order. -/
theorem placeholdersOf_pieces : ∀ c : Condition, placeholdersOf c.pieces = c.positions
  | .literal v => by
    rw [pieces, positions, leaves, Sql.placeholdersOf_literal]
    rfl
  | .column _ _ => rfl
  | .placeholder _ => rfl
  | .not e | .isNull _ e | .call _ e => by
    simpa [pieces, positions, leaves] using placeholdersOf_pieces e
  | .binary op l r => by
    have hop : ∀ ps, placeholdersOf (.lexeme op.lexeme :: ps) = placeholdersOf ps := by
      cases op <;> exact fun _ => rfl
    simp [pieces, hop, placeholdersOf_pieces l, placeholdersOf_pieces r, positions, leaves]
  | .like _ l r => by
    simp [pieces, placeholdersOf_pieces l, placeholdersOf_pieces r, positions, leaves]
  | .between _ e low high => by
    simp [pieces, placeholdersOf_pieces e, placeholdersOf_pieces low, placeholdersOf_pieces high,
      positions, leaves]
  | .inList _ e items => by
    simp [pieces, placeholdersOf_pieces e, placeholdersOf_items items, positions, leaves]
  | .existsIn table e => by
    have hname : ∀ xs : List Leaf, (.name table :: xs).filterMap Leaf.position? =
        xs.filterMap Leaf.position? := fun _ => rfl
    simp [pieces, placeholdersOf_pieces e, positions, leaves, hname]

/-- The placeholders of items are those of their leaves. -/
theorem placeholdersOf_items : ∀ es : List Condition,
    (itemPieces es).flatMap placeholdersOf = (itemLeaves es).filterMap Leaf.position?
  | [] => rfl
  | e :: es => by
    simp [itemPieces, itemLeaves, placeholdersOf_pieces e, placeholdersOf_items es, positions]

end

end Condition

/-! ## Compiled conditions -/

/-- All names of a table pass a test. -/
def Table.NamesAre (P : String → Prop) (table : Table) : Prop :=
  P table.name ∧ ∀ c ∈ table.columns, P c.name

/-- The names of a table are identifiers. -/
lemma Table.namesAre_isIdentifier (table : Table) : table.NamesAre IsIdentifier :=
  ⟨table.isIdentifier_name, fun _ => table.isIdentifier_column⟩

namespace Expr

mutual

/-- The table types of the nested queries of an expression. -/
def tables : Expr → List TableType
  | .literal _ _ | .column _ _ | .param _ _ => []
  | .within _ _ e | .not _ e | .nullTest _ _ e | .call _ _ e => e.tables
  | .binary _ _ l r | .like _ _ l r => l.tables ++ r.tables
  | .between _ _ e low high => e.tables ++ low.tables ++ high.tables
  | .inList _ _ e items => e.tables ++ itemTables items
  | .existsIn _ t e => t :: e.tables

/-- The table types of the nested queries of the items of a list. -/
def itemTables : List Expr → List TableType
  | [] => []
  | e :: es => e.tables ++ itemTables es

end

/-- Compilation keeps the registry sound. -/
lemma compile_isSound {e : Expr} {scope : Scope} {current : Table} {w w' : Workspace} {t : Typed}
    (h : e.compile scope current w = (.ok t, w')) (hw : w.registry.IsSound) :
    w'.registry.IsSound := by
  have hmove := compile_moves Registry.isPath_isSound.compiling e scope current w hw
  rwa [h] at hmove

/-- The names in a table that is found in scope have the property that all in scope have. -/
lemma namesAre_of_find? {P : String → Prop} {scope : Scope}
    (hscope : ∀ f ∈ scope, f.table.NamesAre P) {u : TableType} {table : Table}
    (h : scope.find? u = some table) : table.NamesAre P := by
  obtain ⟨f, hf, rfl⟩ := Option.map_eq_some_iff.mp h
  exact hscope f (List.mem_of_find?_eq_some hf)

mutual

/-- The leaves of a compiled condition are proper: its names pass every test that the names of the
tables in scope and of the nested queries pass, and its literals have a spelling. -/
theorem compile_leaves {P : String → Prop} : ∀ (e : Expr) {scope : Scope} {current : Table}
    {w w' : Workspace} {t : Typed}, (∀ u ∈ e.tables, ∀ table, u.table = .ok table →
      table.NamesAre P) → (∀ f ∈ scope, f.table.NamesAre P) → current.NamesAre P →
    w.registry.IsSound → e.compile scope current w = (.ok t, w') →
    ∀ x ∈ t.condition.leaves, x.IsProper P
  | .literal _ v, scope, current, w, w', t, _, _, _, _, h => by
    obtain ⟨⟨⟨s, hs, rfl⟩, hreal⟩, -⟩ := compile_literal_ok.mp h
    simpa [Condition.leaves, Leaf.IsProper, hs] using hreal
  | .column _ name, scope, current, w, w', t, _, _, hcurrent, _, h => by
    obtain ⟨⟨b, -, rfl⟩ | ⟨-, c, hc, rfl⟩, -⟩ := compile_column_ok.mp h
    · simp [Condition.leaves, Leaf.IsProper, Cell.scalar?]
    · obtain ⟨hmem, rfl⟩ := Table.column?_eq_some_iff.mp hc
      simpa [Condition.leaves, Leaf.IsProper] using ⟨hcurrent.1, hcurrent.2 c hmem⟩
  | .within _ u e, scope, current, w, w', t, hnested, hscope, _, hw, h => by
    rw [tables] at hnested
    obtain ⟨table, htable, h⟩ := compile_within_ok.mp h
    exact compile_leaves e hnested hscope (namesAre_of_find? hscope htable) hw h
  | .param _ p, scope, current, w, w', t, _, _, _, _, h => by
    obtain ⟨n, a, -, rfl, -⟩ := compile_param_ok.mp h
    simp [Condition.leaves, Leaf.IsProper]
  | .not _ e, scope, current, w, w', t, hnested, hscope, hcurrent, hw, h => by
    rw [tables] at hnested
    obtain ⟨te, he, -, rfl⟩ := compile_not_ok.mp h
    rw [Condition.leaves]
    exact compile_leaves e hnested hscope hcurrent hw he
  | .nullTest _ _ e, scope, current, w, w', t, hnested, hscope, hcurrent, hw, h => by
    rw [tables] at hnested
    obtain ⟨te, he, -, rfl⟩ := compile_nullTest_ok.mp h
    rw [Condition.leaves]
    exact compile_leaves e hnested hscope hcurrent hw he
  | .call _ _ e, scope, current, w, w', t, hnested, hscope, hcurrent, hw, h => by
    rw [tables] at hnested
    obtain ⟨te, he, -, rfl⟩ := compile_call_ok.mp h
    rw [Condition.leaves]
    exact compile_leaves e hnested hscope hcurrent hw he
  | .binary _ _ l r, scope, current, w, w', t, hnested, hscope, hcurrent, hw, h => by
    rw [tables, List.forall_mem_append] at hnested
    obtain ⟨tl, w₁, hl, tr, hr, -, rfl⟩ := compile_binary_ok.mp h
    rw [Condition.leaves, List.forall_mem_append]
    exact ⟨compile_leaves l hnested.1 hscope hcurrent hw hl,
      compile_leaves r hnested.2 hscope hcurrent (compile_isSound hl hw) hr⟩
  | .like _ _ e p, scope, current, w, w', t, hnested, hscope, hcurrent, hw, h => by
    rw [tables, List.forall_mem_append] at hnested
    obtain ⟨te, w₁, he, tp, hp, -, rfl⟩ := compile_like_ok.mp h
    rw [Condition.leaves, List.forall_mem_append]
    exact ⟨compile_leaves e hnested.1 hscope hcurrent hw he,
      compile_leaves p hnested.2 hscope hcurrent (compile_isSound he hw) hp⟩
  | .between _ _ e low high, scope, current, w, w', t, hnested, hscope, hcurrent, hw, h => by
    rw [tables, List.forall_mem_append, List.forall_mem_append] at hnested
    obtain ⟨te, w₁, he, tl, w₂, hl, th, hh, -, rfl⟩ := compile_between_ok.mp h
    have hw₁ := compile_isSound he hw
    rw [Condition.leaves, List.forall_mem_append, List.forall_mem_append]
    exact ⟨⟨compile_leaves e hnested.1.1 hscope hcurrent hw he,
      compile_leaves low hnested.1.2 hscope hcurrent hw₁ hl⟩,
      compile_leaves high hnested.2 hscope hcurrent (compile_isSound hl hw₁) hh⟩
  | .inList _ _ e items, scope, current, w, w', t, hnested, hscope, hcurrent, hw, h => by
    rw [tables, List.forall_mem_append] at hnested
    obtain ⟨-, te, w₁, he, ts, hs, rfl⟩ := compile_inList_ok.mp h
    rw [Typed.inList, Condition.leaves, List.forall_mem_append]
    exact ⟨compile_leaves e hnested.1 hscope hcurrent hw he,
      compileItems_leaves items hnested.2 hscope hcurrent (compile_isSound he hw) hs⟩
  | .existsIn _ u filter, scope, current, w, w', t, hnested, hscope, _, hw, h => by
    rw [tables, List.forall_mem_cons] at hnested
    obtain ⟨table, r, hregister, -, tf, hf, -, rfl⟩ := compile_existsIn_ok.mp h
    obtain ⟨htable, hr⟩ := Registry.register_ok hw hregister
    have hnames := hnested.1 table htable
    rw [Typed.existsIn, Condition.leaves, List.forall_mem_cons]
    exact ⟨hnames.1, compile_leaves filter hnested.2 (List.forall_mem_cons.mpr ⟨hnames, hscope⟩)
      hnames hr hf⟩

/-- The names in the items of a list that compile have the property that all in the tables have. -/
theorem compileItems_leaves {P : String → Prop} : ∀ (items : List Expr) {scope : Scope}
    {current : Table} {site : Site} {construct : Construct} {operand : Typed} {w w' : Workspace}
    {ts : List Typed}, (∀ u ∈ itemTables items, ∀ table, u.table = .ok table →
      table.NamesAre P) → (∀ f ∈ scope, f.table.NamesAre P) → current.NamesAre P →
    w.registry.IsSound → compileItems scope current site construct operand items w = (.ok ts, w') →
    ∀ x ∈ Condition.itemLeaves (ts.map (·.condition)), x.IsProper P
  | [], _, _, _, _, _, _, _, _, _, _, _, _, h => by
    obtain ⟨rfl, -⟩ := compileItems_nil_ok.mp h
    simp [Condition.itemLeaves]
  | e :: es, scope, current, site, construct, operand, w, w', ts, hnested, hscope, hcurrent, hw,
      h => by
    rw [itemTables, List.forall_mem_append] at hnested
    obtain ⟨te, w₁, he, -, tes, hs, rfl⟩ := compileItems_cons_ok.mp h
    rw [List.map_cons, Condition.itemLeaves, List.forall_mem_append]
    exact ⟨compile_leaves e hnested.1 hscope hcurrent hw he,
      compileItems_leaves es hnested.2 hscope hcurrent (compile_isSound he hw) hs⟩

end

end Expr

end TypedSql
