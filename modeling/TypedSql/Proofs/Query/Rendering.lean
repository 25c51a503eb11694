import TypedSql.Proofs.Query.Spelling
import TypedSql.Proofs.Sql.Parser

/-!
# Rendered conditions read back

A condition is rendered with parentheses where its own binding levels ask for them. The grammar of
SQL expressions has strengths of its own. That the two agree, so that the text of a condition is
written as the tree of the condition, is shown here.

## Main definitions

* `Sql.tokens` — the tokens that a list of pieces is read as.
* `Condition.tree` — the tree of a condition, with parentheses where it is rendered with them.

## Main results

* `Condition.le_strength_wrapTree` — an operand binds in the grammar as its place needs.
* `Condition.tree_isWritten` — the tokens of a condition are written as its tree.
* `Condition.reads_tree` — the text of a condition reads as its tree.
-/

set_option autoImplicit false

namespace TypedSql

open Number (IsDigits IsReal)
open Sql (Keyword Lexeme Piece Token Tree lexemes testTokens commaTokens operatorToken
  operatorStrength comparisonStrength notStrength primaryStrength)
open Text (IsIdentifier)

/-! ## Tokens of pieces -/

namespace Sql

/-- The tokens that a list of pieces is read as. -/
def tokens (ps : List Piece) : List Token := (lexemes ps).map Lexeme.token

/-- Pieces are read one after the other. -/
@[simp]
lemma tokens_append (ps qs : List Piece) : tokens (ps ++ qs) = tokens ps ++ tokens qs := by
  simp [tokens]

/-- A mark is one token. -/
@[simp]
lemma tokens_mark (m : Mark) : tokens (mark m) = [.mark m] := rfl

/-- A placeholder is one token. -/
@[simp]
lemma tokens_placeholder (n : Nat) : tokens (placeholder n) = [.placeholder n] := rfl

/-- A blank is no token. -/
@[simp]
lemma tokens_blank : tokens blank = [] := rfl

/-- A numeral is one token. -/
@[simp]
lemma tokens_numeral (n : Nat) : tokens (numeral n) = [.number (Number.decimalDigits n)] := by
  simp [tokens, Lexeme.token]

/-- A word that spells no keyword is a name. -/
lemma tokens_name {w : String} (h : Keyword.ofWord? w = none) : tokens (word w) = [.name w] := by
  simp [tokens, Lexeme.token, h]

/-- A word that spells a keyword is this keyword. -/
lemma tokens_keyword {w : String} {k : Keyword} (h : Keyword.ofWord? w = some k) :
    tokens (word w) = [.keyword k] := by
  simp [tokens, Lexeme.token, h]

/-- Parentheses are tokens around what they enclose. -/
@[simp]
lemma tokens_parenthesized (ps : List Piece) :
    tokens (parenthesized ps) = .mark .opening :: (tokens ps ++ [.mark .closing]) := by
  simp [parenthesized]

/-- Words are read one by one. -/
lemma tokens_words (ws : List String) :
    tokens (words ws) = ws.flatMap fun w => tokens (word w) := by
  unfold words
  induction ws with
  | nil => rfl
  | cons w ws ih =>
    cases ws with
    | nil => simp
    | cons v ws => simpa [List.intercalate_cons_cons] using ih

/-- Items are read with commas between them. -/
lemma tokens_commaList (items : List (List Piece)) :
    tokens (commaList items) = commaTokens (items.map tokens) := by
  unfold commaList
  induction items with
  | nil => rfl
  | cons ps items ih =>
    cases items with
    | nil => simp [commaTokens]
    | cons qs items => simpa [List.intercalate_cons_cons, commaTokens] using ih

/-- A number is read with its sign apart. -/
lemma tokens_number (negative : Bool) {body : List Char} (h : IsDigits body ∨ IsReal body) :
    tokens [.lexeme (.number ((if negative then ['-'] else []) ++ body))] =
      (if negative then [.mark .minus] else []) ++ [.number body] := by
  cases negative with
  | true => rfl
  | false => simp [tokens, lexemes_number h, Lexeme.token]

end Sql

/-! ## Trees of conditions -/

/-- The tree of a literal. -/
def Cell.tree : Cell → Tree
  | .null => .text []
  | .bool b => .integer (if b then 1 else 0)
  | .int n => .integer n.toInt
  | .real x => .real (Number.realText x)
  | .text s => .text s.toList
  | .blob bytes => .blob bytes

namespace Condition

/-- Parentheses around the tree of an operand that binds more loosely than its place needs. -/
def wrapTree (needed level : Nat) (t : Tree) : Tree := if level < needed then .paren t else t

mutual

/-- The tree of a condition, with parentheses where it is rendered with them. -/
def tree : Condition → Tree
  | .literal v => v.tree
  | .column table name => .column table name
  | .placeholder n => .placeholder n
  | .not e => .not (wrapTree Level.not e.level e.tree)
  | .binary op l r =>
    .binary op (wrapTree op.lhsLevel l.level l.tree) (wrapTree op.rhsLevel r.level r.tree)
  | .isNull negated e => .isNull negated (wrapTree (Level.comparison + 1) e.level e.tree)
  | .like negated e p =>
    .like negated (wrapTree (Level.comparison + 1) e.level e.tree)
      (wrapTree (Level.comparison + 1) p.level p.tree)
  | .between negated e low high =>
    .between negated (wrapTree (Level.comparison + 1) e.level e.tree)
      (wrapTree (Level.comparison + 1) low.level low.tree)
      (wrapTree (Level.comparison + 1) high.level high.tree)
  | .inList negated e items =>
    .inList negated (wrapTree (Level.comparison + 1) e.level e.tree) (itemTrees items)
  | .call f e => .call f.name e.tree
  | .existsIn table e => .existsIn table e.tree

/-- The trees of the items of a list. -/
def itemTrees : List Condition → List Tree
  | [] => []
  | e :: es => e.tree :: itemTrees es

end

/-! ## Strengths -/

/-- The strength in the grammar of what has a binding level. -/
def strengthOf (level : Nat) : Nat := if level ≤ 5 then level else min (level - 1) primaryStrength

/-- The strengths of the grammar are those of the levels at which operators are rendered. -/
lemma operatorStrength_eq (op : BinaryOp) : operatorStrength op = strengthOf op.level := by
  cases op <;> rfl

/-- A condition binds in the grammar as its level says. -/
lemma strength_tree (c : Condition) : c.tree.strength = strengthOf c.level := by
  cases c with
  | literal v => cases v <;> rfl
  | binary op l r => exact operatorStrength_eq op
  | _ => rfl

/-- An operand binds in the grammar as its place needs, if need be by its parentheses. -/
theorem le_strength_wrapTree (needed : Nat) (c : Condition) :
    strengthOf needed ≤ (wrapTree needed c.level c.tree).strength := by
  unfold wrapTree
  by_cases hlevel : c.level < needed
  · rw [if_pos hlevel]
    show strengthOf needed ≤ primaryStrength
    unfold strengthOf primaryStrength
    split <;> omega
  · rw [if_neg hlevel, strength_tree]
    unfold strengthOf primaryStrength
    split <;> split <;> omega

/-- The left operand is rendered so that it binds at least as tightly as the operator. -/
lemma operatorStrength_le_lhsLevel (op : BinaryOp) :
    operatorStrength op ≤ strengthOf op.lhsLevel := by
  cases op <;> decide

/-- The right operand is rendered so that it binds more tightly than the operator. -/
lemma operatorStrength_lt_rhsLevel (op : BinaryOp) :
    operatorStrength op < strengthOf op.rhsLevel := by
  cases op <;> decide

/-! ## Tokens of conditions -/

/-- The tokens of an operand are written as its tree, with parentheses or without. -/
lemma wrapTree_isWritten {ps : List Piece} {t : Tree} (h : t.IsWritten (Sql.tokens ps))
    (needed level : Nat) :
    (wrapTree needed level t).IsWritten (Sql.tokens (wrap needed level ps)) := by
  unfold wrapTree wrap
  by_cases hlevel : level < needed
  · rw [if_pos hlevel, if_pos hlevel, Tree.IsWritten, Sql.tokens_parenthesized]
    exact ⟨_, h, rfl⟩
  · rw [if_neg hlevel, if_neg hlevel]
    exact h

/-- The words of a test are read as its keywords. -/
lemma tokens_testWords (negated : Bool) {w : String} {k : Keyword}
    (h : Keyword.ofWord? w = some k) :
    Sql.tokens (testWords negated [w]) = testTokens negated [.keyword k] := by
  have hnot : Keyword.ofWord? "NOT" = some .not := by decide
  cases negated <;>
    simp [testWords, testTokens, Sql.tokens_words, Sql.tokens_keyword h, Sql.tokens_keyword hnot]

end Condition

/-- The literal of a cell is written as its tree. -/
lemma Cell.tree_isWritten {v : Cell} (h : v.scalar?.isSome = true)
    (hreal : ∀ x, v = .real x → x.isFinite = true) :
    v.tree.IsWritten (Sql.tokens [.lexeme v.lexeme]) := by
  cases v with
  | null => cases h
  | bool b =>
    rw [tree, Tree.IsWritten]
    cases b with
    | false => exact ⟨false, ['0'], rfl, rfl⟩
    | true => exact ⟨false, ['1'], rfl, rfl⟩
  | int n =>
    have hdigits := Number.isDigits_decimalDigits n.toInt.natAbs
    have hall : (Number.decimalDigits n.toInt.natAbs).all Char.isDigit = true :=
      List.all_eq_true.mpr hdigits.2
    have hvalue : Nat.ofDigitChars 10 (Number.decimalDigits n.toInt.natAbs) 0 = n.toInt.natAbs :=
      Nat.ofDigitChars_ten_toDigits
    have htokens := Sql.tokens_number (n.toInt < 0) (.inl hdigits)
    rw [tree, Tree.IsWritten]
    refine ⟨n.toInt < 0, Number.decimalDigits n.toInt.natAbs, ?_, ?_⟩
    · rw [Tree.ofNumber, if_pos hall, hvalue]
      simp only [decide_eq_true_eq, Tree.integer.injEq]
      split <;> omega
    · simpa [Cell.lexeme, intChars] using htokens
  | real x =>
    obtain ⟨sign, body, htext, hsign, hbody⟩ := Number.realText_of_isFinite (hreal x rfl)
    have hall : body.all Char.isDigit = false := hbody.all_isDigit
    have htokens := fun negative => Sql.tokens_number negative (.inr hbody)
    rw [tree, Cell.lexeme, htext, Tree.IsWritten]
    rcases hsign with rfl | rfl
    · exact ⟨false, body, by simp [Tree.ofNumber, hall], htokens false⟩
    · exact ⟨true, body, by simp [Tree.ofNumber, hall], htokens true⟩
  | text s =>
    rw [tree, Tree.IsWritten]
    rfl
  | blob bytes =>
    rw [tree, Tree.IsWritten]
    rfl

namespace Condition

/-- The sign of an operator is read as its token. -/
lemma tokens_operator (op : BinaryOp) (ps : List Piece) :
    Sql.tokens (.lexeme op.lexeme :: ps) = operatorToken op :: Sql.tokens ps := by
  cases op <;> rfl

mutual

/-- The tokens of a condition are written as its tree, if no name in it is a keyword. -/
theorem tree_isWritten : ∀ c : Condition,
    (∀ x ∈ c.leaves, x.IsProper fun w => Keyword.ofWord? w = none) →
    c.tree.IsWritten (Sql.tokens c.pieces)
  | .literal v, h => by
    have hv := h (.literal v) (by simp [leaves])
    exact Cell.tree_isWritten hv.1 hv.2
  | .column table name, h => by
    have htable := h (.name table) (by simp [leaves])
    have hname := h (.name name) (by simp [leaves])
    rw [tree, pieces, Tree.IsWritten]
    simp [Sql.tokens_name htable, Sql.tokens_name hname]
  | .placeholder n, _ => by
    rw [tree, Tree.IsWritten]
    rfl
  | .not e, h => by
    rw [leaves] at h
    rw [tree, pieces, Tree.IsWritten]
    refine ⟨_, wrapTree_isWritten (tree_isWritten e h) Level.not e.level,
      le_strength_wrapTree Level.not e, ?_⟩
    have hnot : Keyword.ofWord? "NOT" = some .not := by decide
    simp [Sql.tokens_keyword hnot]
  | .binary op l r, h => by
    -- the right operand has to bind tighter than the operator, as chains go to the left
    rw [leaves, List.forall_mem_append] at h
    rw [tree, pieces, Tree.IsWritten]
    refine ⟨_, _, wrapTree_isWritten (tree_isWritten l h.1) op.lhsLevel l.level,
      wrapTree_isWritten (tree_isWritten r h.2) op.rhsLevel r.level,
      (operatorStrength_le_lhsLevel op).trans (le_strength_wrapTree _ l),
      (operatorStrength_lt_rhsLevel op).trans_le (le_strength_wrapTree _ r), ?_⟩
    simp [tokens_operator]
  | .isNull negated e, h => by
    rw [leaves] at h
    rw [tree, pieces, Tree.IsWritten]
    refine ⟨_, wrapTree_isWritten (tree_isWritten e h) (Level.comparison + 1) e.level,
      (by decide : comparisonStrength ≤ _).trans (le_strength_wrapTree _ e), ?_⟩
    have his : Keyword.ofWord? "IS" = some .is := by decide
    have hnull : Keyword.ofWord? "NULL" = some .null := by decide
    simp [Sql.tokens_keyword his, tokens_testWords negated hnull]
  | .like negated e p, h => by
    rw [leaves, List.forall_mem_append] at h
    rw [tree, pieces, Tree.IsWritten]
    have hlike : Keyword.ofWord? "LIKE" = some .like := by decide
    refine ⟨_, _, wrapTree_isWritten (tree_isWritten e h.1) (Level.comparison + 1) e.level,
      wrapTree_isWritten (tree_isWritten p h.2) (Level.comparison + 1) p.level,
      (by decide : comparisonStrength ≤ _).trans (le_strength_wrapTree _ e),
      (by decide : comparisonStrength < _).trans_le (le_strength_wrapTree _ p), ?_⟩
    simp [tokens_testWords negated hlike, Sql.testTokens_append]
  | .between negated e low high, h => by
    rw [leaves, List.forall_mem_append, List.forall_mem_append] at h
    rw [tree, pieces, Tree.IsWritten]
    have hbetween : Keyword.ofWord? "BETWEEN" = some .between := by decide
    have hand : Keyword.ofWord? "AND" = some .and := by decide
    refine ⟨_, _, _, wrapTree_isWritten (tree_isWritten e h.1.1) (Level.comparison + 1) e.level,
      wrapTree_isWritten (tree_isWritten low h.1.2) (Level.comparison + 1) low.level,
      wrapTree_isWritten (tree_isWritten high h.2) (Level.comparison + 1) high.level,
      (by decide : comparisonStrength ≤ _).trans (le_strength_wrapTree _ e),
      (by decide : comparisonStrength < _).trans_le (le_strength_wrapTree _ low),
      (by decide : comparisonStrength < _).trans_le (le_strength_wrapTree _ high), ?_⟩
    simp [tokens_testWords negated hbetween, Sql.tokens_keyword hand, Sql.testTokens_append]
  | .inList negated e items, h => by
    rw [leaves, List.forall_mem_append] at h
    rw [tree, pieces, Tree.IsWritten]
    have hin : Keyword.ofWord? "IN" = some .in := by decide
    refine ⟨_, _, wrapTree_isWritten (tree_isWritten e h.1) (Level.comparison + 1) e.level,
      itemTrees_areWritten items h.2,
      (by decide : comparisonStrength ≤ _).trans (le_strength_wrapTree _ e), ?_⟩
    simp [tokens_testWords negated hin, Sql.tokens_commaList, Sql.testTokens_append]
  | .call f e, h => by
    rw [leaves] at h
    rw [tree, pieces, Tree.IsWritten]
    have hname : Keyword.ofWord? f.name = none := by cases f <;> decide
    exact ⟨_, tree_isWritten e h, by simp [Sql.tokens_name hname]⟩
  | .existsIn table e, h => by
    rw [leaves, List.forall_mem_cons] at h
    rw [tree, pieces, Tree.IsWritten]
    refine ⟨_, tree_isWritten e h.2, ?_⟩
    have htable : Keyword.ofWord? table = none := h.1
    have hexists : Keyword.ofWord? "EXISTS" = some .exists := by decide
    have hselect : Keyword.ofWord? "SELECT" = some .select := by decide
    have hfrom : Keyword.ofWord? "FROM" = some .from := by decide
    have hwhere : Keyword.ofWord? "WHERE" = some .where := by decide
    have hlimit : Keyword.ofWord? "LIMIT" = some .limit := by decide
    have hone : Number.decimalDigits 1 = ['1'] := by decide
    simp [Sql.tokens_words, Sql.tokens_keyword hexists, Sql.tokens_keyword hselect,
      Sql.tokens_keyword hfrom, Sql.tokens_keyword hwhere, Sql.tokens_keyword hlimit,
      Sql.tokens_name htable, hone, Sql.existsTokens]

/-- The items of a list are written as their trees. -/
theorem itemTrees_areWritten : ∀ es : List Condition,
    (∀ x ∈ itemLeaves es, x.IsProper fun w => Keyword.ofWord? w = none) →
    Tree.AreWritten (itemTrees es) ((itemPieces es).map Sql.tokens)
  | [], _ => by
    rw [itemTrees, Tree.AreWritten]
    rfl
  | e :: es, h => by
    rw [itemLeaves, List.forall_mem_append] at h
    rw [itemTrees, Tree.AreWritten]
    exact ⟨_, _, tree_isWritten e h.1, itemTrees_areWritten es h.2, rfl⟩

end

/-- The text of a condition reads as its tree, if its names are identifiers and no keywords. -/
theorem reads_tree {c : Condition} (hleaves : ∀ x ∈ c.leaves, x.IsProper IsIdentifier)
    (hkeywords : ∀ x ∈ c.leaves, x.IsProper fun w => Keyword.ofWord? w = none) :
    Sql.Reads c.text c.tree := by
  exact ⟨lexemes c.pieces, (standsApart c hleaves).lex_spell, tree_isWritten c hkeywords⟩

end Condition

end TypedSql
