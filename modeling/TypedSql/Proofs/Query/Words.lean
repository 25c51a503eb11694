import TypedSql.Proofs.Query.Ordering
import TypedSql.Proofs.Statement.Clauses

/-!
# The words of the uses of a query

The text of a use of a query is made of words, marks, literals and placeholders. Each of its words
is a keyword of the language or one of the names that the query was compiled with: the name of its
table, a name at a leaf of its condition, or the column of a sort key. A test that the names of all
tables pass is passed by each of these names.

## Main definitions

* `Sql.WordsAre` — pieces all of whose words pass a test.
* `Query.names` — the names that a query was compiled with.
* `Command.filterKeywords` — the keywords of the uses of a query.

## Main results

* `Condition.wordsAre_pieces` — the words of a condition are keywords and the names at its leaves.
* `Command.wordsAre_filter` — so are those of a use of the condition, but for its clauses.
* `Query.IsBuiltOver.pass` — the names of a query pass every test that those of its tables pass.
* `Query.IsBuiltOver.words` — the words in the text of a use of a query.
-/

set_option autoImplicit false

namespace TypedSql

open Sql (Lexeme Piece)

/-! ## Words of pieces -/

namespace Sql

/-- Whether all words of a list of pieces pass a test. -/
def WordsAre (P : String → Prop) (ps : List Piece) : Prop :=
  ∀ w, Lexeme.word w ∈ lexemes ps → P w

section WordsAre

variable {P : String → Prop} {ps qs : List Piece}

/-- A property holds of the words of two texts if it holds of those of each. -/
@[simp]
lemma wordsAre_append : WordsAre P (ps ++ qs) ↔ WordsAre P ps ∧ WordsAre P qs := by
  simp only [WordsAre, lexemes_append, List.mem_append, or_imp, forall_and]

/-- There are no words in the empty text. -/
@[simp]
lemma wordsAre_nil : WordsAre P [] := by
  simp [WordsAre]

/-- A blank is no word. -/
@[simp]
lemma wordsAre_blank : WordsAre P blank := by
  simp [WordsAre]

/-- A word is the only word in itself. -/
@[simp]
lemma wordsAre_word {w : String} : WordsAre P (word w) ↔ P w := by
  simp [WordsAre]

/-- A mark is no word. -/
@[simp]
lemma wordsAre_mark (m : Mark) : WordsAre P (mark m) := by
  simp [WordsAre]

/-- A placeholder is no word. -/
@[simp]
lemma wordsAre_placeholder (n : Nat) : WordsAre P (placeholder n) := by
  simp [WordsAre]

/-- A numeral is no word. -/
@[simp]
lemma wordsAre_numeral (n : Nat) : WordsAre P (numeral n) := by
  simp [WordsAre]

/-- A lexeme that is no word has no words in it. -/
lemma wordsAre_lexeme {l : Lexeme} : WordsAre P [.lexeme l] ↔ ∀ w, l = .word w → P w := by
  have hword : ∀ w, Lexeme.word w ∈ lexemes [.lexeme l] ↔ l = .word w := by
    intro w
    rw [lexemes, List.flatMap_singleton]
    unfold Piece.lexemes
    split
    · simp_all
    · simp_all
    · simp_all [eq_comm]
  simp only [WordsAre, hword]

/-- A literal has no words in it. -/
lemma wordsAre_literal {v : Cell} (h : v.scalar?.isSome = true) :
    WordsAre P [.lexeme v.lexeme] := by
  refine wordsAre_lexeme.mpr fun w hw => ?_
  cases v with
  | null => cases h
  | _ => cases hw

/-- Parentheses add no words. -/
@[simp]
lemma wordsAre_parenthesized : WordsAre P (parenthesized ps) ↔ WordsAre P ps := by
  simp [parenthesized]

/-- A separator of good words adds none that are not. -/
lemma wordsAre_intercalate {separator : List Piece} (h : WordsAre P separator)
    {items : List (List Piece)} :
    WordsAre P (separator.intercalate items) ↔ ∀ ps ∈ items, WordsAre P ps := by
  induction items with
  | nil => simp
  | cons ps items ih =>
    cases items with
    | nil => simp
    | cons qs items => simp [List.intercalate_cons_cons, h, ih]

/-- Commas add no words. -/
@[simp]
lemma wordsAre_commaList {items : List (List Piece)} :
    WordsAre P (commaList items) ↔ ∀ ps ∈ items, WordsAre P ps :=
  wordsAre_intercalate (by simp)

/-- The words of a list are its members. -/
@[simp]
lemma wordsAre_words {ws : List String} : WordsAre P (words ws) ↔ ∀ w ∈ ws, P w := by
  simp [words, wordsAre_intercalate]

end WordsAre

end Sql

open Sql (WordsAre)

/-! ## Words of conditions -/

namespace Condition

/-- The keywords of conditions, and the names of the functions. -/
def keywords : List String :=
  ["AND", "OR", "NOT", "IS", "NULL", "LIKE", "BETWEEN", "IN", "EXISTS", "SELECT", "FROM", "WHERE",
    "LIMIT", "lower", "upper", "length", "abs"]

section Words

variable {P : String → Prop}

/-- Parentheses around an operand add no words. -/
@[simp]
lemma wordsAre_wrap {needed level : Nat} {ps : List Piece} :
    WordsAre P (wrap needed level ps) ↔ WordsAre P ps := by
  unfold wrap
  split
  · exact Sql.wordsAre_parenthesized
  · exact Iff.rfl

/-- The words of a test are keywords. -/
lemma wordsAre_testWords (hkeywords : ∀ k ∈ keywords, P k) (negated : Bool) {w : String}
    (hw : w ∈ keywords) : WordsAre P (testWords negated [w]) := by
  refine Sql.wordsAre_words.mpr fun v hv => hkeywords v ?_
  cases negated with
  | false => exact List.mem_singleton.mp hv ▸ hw
  | true =>
    rcases List.mem_cons.mp hv with rfl | hv
    · decide
    · exact List.mem_singleton.mp hv ▸ hw

/-- The sign of an operator is a keyword or no word. -/
lemma wordsAre_operator (hkeywords : ∀ k ∈ keywords, P k) (op : BinaryOp) :
    WordsAre P [.lexeme op.lexeme] := by
  refine Sql.wordsAre_lexeme.mpr fun w hw => ?_
  cases op with
  | and | or =>
    cases hw
    exact hkeywords _ (by decide)
  | _ => cases hw

mutual

/-- The words of a condition pass every test that the keywords and the names at its leaves pass. -/
theorem wordsAre_pieces (hkeywords : ∀ k ∈ keywords, P k) : ∀ c : Condition,
    (∀ x ∈ c.leaves, x.IsProper P) → WordsAre P c.pieces
  | .literal v, h => by
    have hv := h (.literal v) (by simp [leaves])
    exact Sql.wordsAre_literal hv.1
  | .column table name, h => by
    have htable := h (.name table) (by simp [leaves])
    have hname := h (.name name) (by simp [leaves])
    simp only [pieces, Sql.wordsAre_append, Sql.wordsAre_word, Sql.wordsAre_mark, and_true]
    exact ⟨htable, hname⟩
  | .placeholder n, _ => Sql.wordsAre_placeholder n
  | .not e, h => by
    rw [leaves] at h
    simp only [pieces, Sql.wordsAre_append, Sql.wordsAre_word, Sql.wordsAre_blank, and_true,
      wordsAre_wrap]
    exact ⟨hkeywords _ (by decide), wordsAre_pieces hkeywords e h⟩
  | .isNull negated e, h => by
    rw [leaves] at h
    simp only [pieces, Sql.wordsAre_append, Sql.wordsAre_word, Sql.wordsAre_blank, and_true,
      wordsAre_wrap]
    exact ⟨⟨wordsAre_pieces hkeywords e h, hkeywords _ (by decide)⟩,
      wordsAre_testWords hkeywords negated (by decide)⟩
  | .call f e, h => by
    rw [leaves] at h
    simp only [pieces, Sql.wordsAre_append, Sql.wordsAre_word, Sql.wordsAre_parenthesized]
    exact ⟨hkeywords _ (by cases f <;> decide), wordsAre_pieces hkeywords e h⟩
  | .binary op l r, h => by
    rw [leaves, List.forall_mem_append] at h
    simp only [pieces, Sql.wordsAre_append, Sql.wordsAre_blank, and_true, wordsAre_wrap]
    exact ⟨⟨wordsAre_pieces hkeywords l h.1, wordsAre_operator hkeywords op⟩,
      wordsAre_pieces hkeywords r h.2⟩
  | .like negated e p, h => by
    rw [leaves, List.forall_mem_append] at h
    simp only [pieces, Sql.wordsAre_append, Sql.wordsAre_blank, and_true, wordsAre_wrap]
    exact ⟨⟨wordsAre_pieces hkeywords e h.1, wordsAre_testWords hkeywords negated (by decide)⟩,
      wordsAre_pieces hkeywords p h.2⟩
  | .between negated e low high, h => by
    rw [leaves, List.forall_mem_append, List.forall_mem_append] at h
    simp only [pieces, Sql.wordsAre_append, Sql.wordsAre_word, Sql.wordsAre_blank, and_true,
      wordsAre_wrap]
    exact ⟨⟨⟨⟨wordsAre_pieces hkeywords e h.1.1,
      wordsAre_testWords hkeywords negated (by decide)⟩, wordsAre_pieces hkeywords low h.1.2⟩,
      hkeywords _ (by decide)⟩, wordsAre_pieces hkeywords high h.2⟩
  | .inList negated e items, h => by
    rw [leaves, List.forall_mem_append] at h
    simp only [pieces, Sql.wordsAre_append, Sql.wordsAre_blank, and_true, wordsAre_wrap,
      Sql.wordsAre_parenthesized, Sql.wordsAre_commaList]
    exact ⟨⟨wordsAre_pieces hkeywords e h.1, wordsAre_testWords hkeywords negated (by decide)⟩,
      wordsAre_items hkeywords items h.2⟩
  | .existsIn table e, h => by
    rw [leaves, List.forall_mem_cons] at h
    have htable : P table := h.1
    have hselect : ∀ w ∈ ["SELECT"], P w := fun w hw =>
      hkeywords w (List.mem_singleton.mp hw ▸ by decide)
    have hfrom : ∀ w ∈ ["FROM", table, "WHERE"], P w := by
      simp only [List.forall_mem_cons, List.not_mem_nil, false_imp_iff, implies_true, and_true]
      exact ⟨hkeywords _ (by decide), htable, hkeywords _ (by decide)⟩
    simp only [pieces, Sql.wordsAre_append, Sql.wordsAre_word, Sql.wordsAre_words,
      Sql.wordsAre_blank, Sql.wordsAre_numeral, Sql.wordsAre_parenthesized, and_true]
    exact ⟨hkeywords _ (by decide), ⟨⟨hselect, hfrom⟩, wordsAre_pieces hkeywords e h.2⟩,
      hkeywords _ (by decide)⟩

/-- The words of items are keywords and the names in their leaves. -/
theorem wordsAre_items (hkeywords : ∀ k ∈ keywords, P k) : ∀ es : List Condition,
    (∀ x ∈ itemLeaves es, x.IsProper P) → ∀ ps ∈ itemPieces es, WordsAre P ps
  | [], _ => by simp [itemPieces]
  | e :: es, h => by
    simp only [itemLeaves, List.forall_mem_append] at h
    simp only [itemPieces, List.forall_mem_cons]
    exact ⟨wordsAre_pieces hkeywords e h.1, wordsAre_items hkeywords es h.2⟩

end

end Words

end Condition

/-! ## Words of uses -/

namespace Command

/-- The keywords of the uses of a query. -/
def filterKeywords : List String :=
  Condition.keywords ++ ["DELETE", "ORDER", "BY", "ASC", "DESC", "NULLS", "FIRST", "LAST"]

variable {P : String → Prop} {table : String} {c : Condition} {order : List OrderTerm}

/-- The words of a sort clause are keywords and the names of columns. -/
lemma wordsAre_clause (hkeywords : ∀ k ∈ filterKeywords, P k)
    (horder : ∀ o ∈ order, P o.column) : WordsAre P (OrderTerm.clause order) := by
  have hby : ∀ w ∈ ["ORDER", "BY"], P w := fun w hw =>
    hkeywords w ((by decide : ["ORDER", "BY"] ⊆ filterKeywords) hw)
  have hdirection : ∀ d : Direction, d.keywords ⊆ filterKeywords := by
    intro d
    cases d <;> decide
  unfold OrderTerm.clause
  split
  · exact Sql.wordsAre_nil
  · simp only [Sql.wordsAre_append, Sql.wordsAre_words, Sql.wordsAre_blank, Sql.wordsAre_commaList,
      and_true, true_and, List.forall_mem_map]
    refine ⟨hby, fun o ho => ?_⟩
    simp only [OrderTerm.pieces, Sql.wordsAre_append, Sql.wordsAre_word, Sql.wordsAre_words,
      Sql.wordsAre_blank, and_true]
    exact ⟨horder o ho, fun w hw => hkeywords w (hdirection o.direction hw)⟩

/-- The words of a use of a condition pass every test that the keywords, the name of the table, the
names at the leaves of the condition and the columns of the sort keys pass. -/
theorem wordsAre_filter (operation : Operation) (hkeywords : ∀ k ∈ filterKeywords, P k)
    (htable : P table) (hc : ∀ x ∈ c.leaves, x.IsProper P) (horder : ∀ o ∈ order, P o.column) :
    WordsAre P (Command.filter operation table c order).pieces := by
  have hcondition : WordsAre P c.pieces :=
    Condition.wordsAre_pieces (fun k hk => hkeywords k (List.mem_append_left _ hk)) c hc
  have hfrom : WordsAre P (fromWhere table c) := by
    simp only [fromWhere, Sql.wordsAre_append, Sql.wordsAre_words, Sql.wordsAre_blank, and_true,
      true_and, List.forall_mem_cons, List.not_mem_nil, false_imp_iff, implies_true]
    exact ⟨⟨hkeywords _ (by decide), htable, hkeywords _ (by decide)⟩, hcondition⟩
  have hselect : WordsAre P selectAll := by
    simpa [selectAll] using hkeywords "SELECT" (by decide)
  have hlimit : WordsAre P limitOne := by
    simpa [limitOne] using hkeywords "LIMIT" (by decide)
  have hclause := wordsAre_clause hkeywords horder
  cases operation with
  | find => simp [pieces, filterPieces, hselect, hfrom, hclause]
  | findOne => simp [pieces, filterPieces, hselect, hfrom, hclause, hlimit]
  | existence =>
    have hwords : P "SELECT" ∧ P "EXISTS" :=
      ⟨hkeywords _ (by decide), hkeywords _ (by decide)⟩
    simp [pieces, filterPieces, hfrom, hlimit, hwords]
  | delete => simpa [pieces, filterPieces, hfrom] using hkeywords "DELETE" (by decide)

end Command

/-! ## Words of queries -/

namespace Leaf

/-- The name at a leaf. -/
def name? : Leaf → Option String
  | .name w => some w
  | .literal _ | .placeholder _ => none

/-- A leaf is proper if its name passes the test and its literal has a spelling. -/
lemma IsProper.of_name? {P Q : String → Prop} {x : Leaf} (h : x.IsProper Q)
    (hname : ∀ w, x.name? = some w → P w) : x.IsProper P := by
  cases x with
  | name w => exact hname w rfl
  | literal v => exact h
  | placeholder n => exact h

end Leaf

namespace Query

variable {P : String → Prop} {q : Query}

/-- The names that a query was compiled with: those of its table, at the leaves of its condition and
of the columns of its sort keys. -/
def names (q : Query) : List String :=
  q.table.name :: (q.condition.leaves.filterMap Leaf.name? ++ q.order.map (·.column))

/-- The columns of the sort keys of a built query are columns of its table and pass the test. -/
lemma IsBuiltOver.order_pass (h : q.IsBuiltOver P) : ∀ o ∈ q.order, P o.column := by
  obtain ⟨t, filter, r, r', compiled, requests, hr, hnames, hcompile, hrequests⟩ := h
  rw [orderBy_flatten] at hrequests
  obtain ⟨hfits, rfl⟩ := orderBy_ok.mp hrequests
  obtain ⟨table, r₁, hregister, -, tf, w, -, -, rfl, -⟩ := compile_ok.mp hcompile
  have htable := hnames t List.mem_cons_self table (Registry.register_ok hr.isSound hregister).1
  intro o ho
  obtain ⟨k, hk, rfl⟩ := List.mem_map.mp ho
  obtain ⟨c, hc, hname, -⟩ := hfits k hk
  show P k.column
  exact hname ▸ htable.2 c hc

/-- The names of a built query pass every test that the names of its tables pass. -/
theorem IsBuiltOver.pass (h : q.IsBuiltOver P) : ∀ n ∈ q.names, P n := by
  obtain ⟨htable, hleaves, -, -⟩ := h.names
  simp only [Query.names, List.forall_mem_cons, List.forall_mem_append, List.forall_mem_map]
  refine ⟨htable, fun n hn => ?_, h.order_pass⟩
  obtain ⟨x, hx, hname⟩ := List.mem_filterMap.mp hn
  cases x <;> cases hname
  exact hleaves _ hx

/-- The text of a use of a built query is read as lexemes, and its words are keywords and names of
the query. -/
theorem IsBuiltOver.words (h : q.IsBuiltOver P) (operation : Operation) :
    ∃ ls, Sql.lex (q.command operation).text.toList = some ls ∧
      ∀ w, Lexeme.word w ∈ ls → w ∈ Command.filterKeywords ∨ w ∈ q.names := by
  obtain ⟨-, -, hidentifiers, horder⟩ := h.names
  have happart := Command.standsApart_filter operation q.table.isIdentifier_name hidentifiers horder
  refine ⟨Sql.lexemes (q.command operation).pieces, happart.lex_spell, ?_⟩
  refine Command.wordsAre_filter operation (fun k hk => .inl hk) (.inr List.mem_cons_self) ?_ ?_
  · intro x hx
    refine (hidentifiers x hx).of_name? fun w hw => .inr ?_
    simp only [Query.names, List.mem_cons, List.mem_append, List.mem_filterMap]
    exact .inr (.inl ⟨x, hx, hw⟩)
  · intro o ho
    simp only [Query.names, List.mem_cons, List.mem_append, List.mem_map]
    exact .inr (.inr (.inr ⟨o, ho, rfl⟩))

end Query

end TypedSql
