import TypedSql.Proofs.Query.Numbering
import TypedSql.Proofs.Sql.Spans
import TypedSql.Proofs.Sql.WriteText
import TypedSql.Statement.Basic

/-!
# The clauses of the uses of a query

A condition is pasted into the statements that use it without parentheses, between two keywords. A
reader who knows tokens, parentheses and the keywords that open clauses, and nothing of how a
condition is written, gets back what the statement was made of: the operation, the table, the text
of the condition to the character, and the sort keys. So no literal of a condition, whatever it
holds, ends the condition or adds a clause.

## Main definitions

* `FilterText`, `FilterText.ofText?` — what a statement about matching rows says, and its reader.
* `Query.IsBuiltOver` — the queries that programs build over tables whose names pass a test.
* `Query.filterText` — what a use of a query has to say.

## Main results

* `Condition.keepsDepth` — outside its parentheses a condition has no keyword that opens a clause.
* `FilterText.ofText?_spell` — a statement is read back as its parts.
* `Query.uses_areRead` — every use of a query is read back, and uses with one text agree.
-/

set_option autoImplicit false

namespace TypedSql

open Sql (Lexeme Span Piece KeepsDepth IsBounded StandsApart isClauseWord spansOf lexemesOf cut)
open Text (IsIdentifier)

/-! ## Conditions -/

/-- The literal of a cell is passed at every depth. -/
lemma Cell.keepsDepth {v : Cell} (h : v.scalar?.isSome = true) :
    KeepsDepth 0 [.lexeme v.lexeme] := by
  cases v with
  | null => cases h
  | bool _ | int _ | real _ => exact .number _
  | text s => exact .text _
  | blob bytes => exact .blob bytes

/-- An operator is passed at every depth. -/
lemma BinaryOp.keepsDepth (op : BinaryOp) : KeepsDepth 0 [.lexeme op.lexeme] := by
  cases op with
  | and | or => exact KeepsDepth.word (by decide)
  | _ => exact KeepsDepth.mark (by decide) (by decide)

namespace Condition

/-- Parentheses around an operand lead back to the depth before them. -/
lemma keepsDepth_wrap {ps : List Piece} (h : KeepsDepth 0 ps) (needed level : Nat) :
    KeepsDepth 0 (wrap needed level ps) := by
  unfold wrap
  split
  · exact h.mono.parenthesized
  · exact h

/-- The words of a test are passed without a cut if they open no clause. -/
lemma keepsDepth_testWords (negated : Bool) {ws : List String}
    (h : ∀ w ∈ ws, isClauseWord w = false) : KeepsDepth 0 (testWords negated ws) := by
  refine KeepsDepth.words fun w hw => .word ?_
  cases negated with
  | false => exact h w hw
  | true =>
    rcases List.mem_cons.mp hw with rfl | hw
    · decide
    · exact h w hw

mutual

/-- A condition whose names open no clause is passed at every depth. -/
theorem keepsDepth : ∀ c : Condition,
    (∀ x ∈ c.leaves, x.IsProper (isClauseWord · = false)) → KeepsDepth 0 c.pieces
  | .literal v, h => by
    have hv := h (.literal v) (by simp [leaves])
    exact Cell.keepsDepth hv.1
  | .column table name, h => by
    have htable := h (.name table) (by simp [leaves])
    have hname := h (.name name) (by simp [leaves])
    exact ((KeepsDepth.word htable).append (.mark (by decide) (by decide))).append (.word hname)
  | .placeholder n, _ => .placeholder n
  | .not e, h => by
    rw [leaves] at h
    rw [pieces]
    exact (KeepsDepth.word (by decide)).append_blank (keepsDepth_wrap (keepsDepth e h) _ _)
  | .isNull negated e, h => by
    rw [leaves] at h
    rw [pieces]
    exact ((keepsDepth_wrap (keepsDepth e h) _ _).append_blank
      (.word (by decide))).append_blank (keepsDepth_testWords negated (by decide))
  | .call f e, h => by
    rw [leaves] at h
    rw [pieces]
    exact (KeepsDepth.word (by cases f <;> decide)).append (keepsDepth e h).mono.parenthesized
  | .binary op l r, h => by
    rw [leaves, List.forall_mem_append] at h
    rw [pieces]
    exact ((keepsDepth_wrap (keepsDepth l h.1) _ _).append_blank op.keepsDepth).append_blank
      (keepsDepth_wrap (keepsDepth r h.2) _ _)
  | .like negated e p, h => by
    rw [leaves, List.forall_mem_append] at h
    rw [pieces]
    exact ((keepsDepth_wrap (keepsDepth e h.1) _ _).append_blank
      (keepsDepth_testWords negated (by decide))).append_blank
      (keepsDepth_wrap (keepsDepth p h.2) _ _)
  | .between negated e low high, h => by
    rw [leaves, List.forall_mem_append, List.forall_mem_append] at h
    rw [pieces]
    exact ((((keepsDepth_wrap (keepsDepth e h.1.1) _ _).append_blank
      (keepsDepth_testWords negated (by decide))).append_blank
      (keepsDepth_wrap (keepsDepth low h.1.2) _ _)).append_blank
      (.word (by decide))).append_blank (keepsDepth_wrap (keepsDepth high h.2) _ _)
  | .inList negated e items, h => by
    rw [leaves, List.forall_mem_append] at h
    rw [pieces]
    exact ((keepsDepth_wrap (keepsDepth e h.1) _ _).append_blank
      (keepsDepth_testWords negated (by decide))).append_blank
      (KeepsDepth.commaList fun ps hps => (keepsDepth_items items h.2 ps hps).mono).parenthesized
  | .existsIn table e, h => by
    rw [leaves, List.forall_mem_cons] at h
    rw [pieces]
    have hwords : ∀ ws, KeepsDepth 1 (Sql.words ws) := fun ws =>
      KeepsDepth.words fun w _ => .word_inside w
    -- between the parentheses, the clauses of the nested statement cut nothing
    have hinside : KeepsDepth 1 (Sql.words ["SELECT"] ++ Sql.blank ++ Sql.numeral 1 ++ Sql.blank ++
        Sql.words ["FROM", table, "WHERE"] ++ Sql.blank ++ e.pieces ++ Sql.blank ++
        Sql.word "LIMIT" ++ Sql.blank ++ Sql.numeral 1) :=
      (((((hwords _).append_blank (.number _)).append_blank (hwords _)).append_blank
        (keepsDepth e h.2).mono).append_blank (.word_inside _)).append_blank (.number _)
    exact (KeepsDepth.word (by decide)).append hinside.parenthesized

/-- The items of a list are passed without a cut if the names in them open no clause. -/
theorem keepsDepth_items : ∀ es : List Condition,
    (∀ x ∈ itemLeaves es, x.IsProper (isClauseWord · = false)) →
      ∀ ps ∈ itemPieces es, KeepsDepth 0 ps
  | [], _ => by simp [itemPieces]
  | e :: es, h => by
    simp only [itemLeaves, List.forall_mem_append] at h
    simp only [itemPieces, List.forall_mem_cons]
    exact ⟨keepsDepth e h.1, keepsDepth_items es h.2⟩

end

/-- Parentheses are lexemes too. -/
lemma isBounded_wrap {ps : List Piece} (h : IsBounded ps) (needed level : Nat) :
    IsBounded (wrap needed level ps) := by
  unfold wrap
  split
  · exact .parenthesized ps
  · exact h

/-- The words of a test start and end with a lexeme. -/
lemma isBounded_testWords (negated : Bool) (w : String) :
    IsBounded (testWords negated [w]) := by
  cases negated <;> exact .words

/-- A condition starts and ends with a lexeme. -/
lemma isBounded : ∀ c : Condition, IsBounded c.pieces
  | .literal v => .lexeme v.lexeme
  | .column table name => (IsBounded.lexeme (.word table)).around _ (.lexeme (.word name))
  | .placeholder n => .lexeme (.placeholder n)
  | .call f e => by
    rw [pieces]
    exact (IsBounded.lexeme (.word f.name)).append (.parenthesized _)
  | .existsIn table e => by
    rw [pieces]
    exact (IsBounded.lexeme (.word "EXISTS")).append (.parenthesized _)
  | .not e => by
    rw [pieces]
    exact (IsBounded.lexeme (.word "NOT")).append_blank (isBounded_wrap (isBounded e) _ _)
  | .isNull negated e => by
    rw [pieces]
    exact ((isBounded_wrap (isBounded e) _ _).append_blank (.lexeme (.word "IS"))).append_blank
      (isBounded_testWords negated "NULL")
  | .binary op l r => by
    rw [pieces]
    exact ((isBounded_wrap (isBounded l) _ _).append_blank (.lexeme op.lexeme)).append_blank
      (isBounded_wrap (isBounded r) _ _)
  | .like negated e p => by
    rw [pieces]
    exact ((isBounded_wrap (isBounded e) _ _).append_blank
      (isBounded_testWords negated "LIKE")).append_blank (isBounded_wrap (isBounded p) _ _)
  | .between negated e low high => by
    rw [pieces]
    exact ((((isBounded_wrap (isBounded e) _ _).append_blank
      (isBounded_testWords negated "BETWEEN")).append_blank
      (isBounded_wrap (isBounded low) _ _)).append_blank (.lexeme (.word "AND"))).append_blank
      (isBounded_wrap (isBounded high) _ _)
  | .inList negated e items => by
    rw [pieces]
    exact ((isBounded_wrap (isBounded e) _ _).append_blank
      (isBounded_testWords negated "IN")).append_blank (.parenthesized _)

end Condition

/-! ## Reading a statement -/

/-- What a statement about the rows that match a condition says. -/
structure FilterText where
  operation : Operation
  table : String
  condition : String
  order : List OrderTerm
  deriving DecidableEq, Repr

namespace Sql

/-- A direction, and what follows. -/
def readDirection : List Lexeme → Option (Direction × List Lexeme)
  | .word "ASC" :: rest => some (.ascending, rest)
  | .word "DESC" :: rest => some (.descending, rest)
  | .word "NULLS" :: .word "FIRST" :: rest => some (.nullsFirst, rest)
  | .word "NULLS" :: .word "LAST" :: rest => some (.nullsLast, rest)
  | _ => none

/-- A sort key, and what follows. -/
def readKey : List Lexeme → Option (OrderTerm × List Lexeme)
  | .word column :: rest => (readDirection rest).map fun (d, rest) => (⟨column, d⟩, rest)
  | _ => none

/-- The sort keys, if there are any, and what follows. -/
def readOrder : List Lexeme → Option (List OrderTerm × List Lexeme)
  | .word "ORDER" :: .word "BY" :: rest => readSeparated (.mark .comma) readKey rest
  | rest => some ([], rest)

/-- Whether a span is the keyword before a condition. -/
def Span.isWhere (s : Span) : Bool := s.lexeme? == some (.word "WHERE")

end Sql

namespace FilterText

/-- What a statement says with a condition between the lexemes of a front and of a back. -/
def ofParts (front : List Lexeme) (condition : String) (back : List Lexeme) :
    Option FilterText :=
  match front with
  | [.word "SELECT", .mark .star, .word "FROM", .word table] =>
    match Sql.readOrder back with
    | some (order, []) => some ⟨.find, table, condition, order⟩
    | some (order, [.word "LIMIT", .number ['1']]) => some ⟨.findOne, table, condition, order⟩
    | _ => none
  | [.word "SELECT", .word "EXISTS", .mark .opening, .word "SELECT", .number ['1'], .word "FROM",
      .word table] =>
    if back = [.word "LIMIT", .number ['1'], .mark .closing] then
      some ⟨.existence, table, condition, []⟩
    else none
  | [.word "DELETE", .word "FROM", .word table] =>
    if back = [] then some ⟨.delete, table, condition, []⟩ else none
  | _ => none

/-- Reads a statement: its condition goes from the first `WHERE` to the first clause word or closing
parenthesis outside the parentheses opened in between. -/
def ofText? (text : String) : Option FilterText := do
  let ss ← Sql.spans text.toList
  match ss.dropWhile fun s => !s.isWhere with
  | [] => none
  | _ :: rest =>
    let (condition, back) := cut 0 rest
    ofParts (lexemesOf (ss.takeWhile fun s => !s.isWhere)) (Sql.textOf (Sql.trim condition))
      (lexemesOf back)

/-! ## The parts of a statement -/

/-- The pieces before the keyword `WHERE`. -/
def front (table : String) : Operation → List Piece
  | .find | .findOne => Command.selectAll ++ Sql.blank ++ Sql.words ["FROM", table] ++ Sql.blank
  | .existence =>
    Sql.words ["SELECT", "EXISTS"] ++ Sql.blank ++ Sql.mark .opening ++ Sql.word "SELECT" ++
      Sql.blank ++ Sql.numeral 1 ++ Sql.blank ++ Sql.words ["FROM", table] ++ Sql.blank
  | .delete => Sql.word "DELETE" ++ Sql.blank ++ Sql.words ["FROM", table] ++ Sql.blank

/-- The pieces behind the condition. -/
def back (order : List OrderTerm) : Operation → List Piece
  | .find => OrderTerm.clause order
  | .findOne => OrderTerm.clause order ++ Command.limitOne
  | .existence => Command.limitOne ++ Sql.mark .closing
  | .delete => []

variable {table : String} {c : Condition} {order : List OrderTerm}

/-- A filter command is written as what stands before `WHERE`, the condition, and what stands behind
it. -/
lemma pieces_filter (operation : Operation) :
    (Command.filter operation table c order).pieces =
      front table operation ++ (Sql.word "WHERE" ++ (Sql.blank ++ c.pieces ++
        back order operation)) := by
  cases operation <;>
    simp [Command.pieces, Command.filterPieces, Command.fromWhere, front, back, Sql.words,
      List.intercalate, Sql.parenthesized]

/-- The pieces before `WHERE` say which operation it is, and on which table. -/
lemma lexemes_front (operation : Operation) : Sql.lexemes (front table operation) =
    match operation with
    | .find | .findOne => [.word "SELECT", .mark .star, .word "FROM", .word table]
    | .existence => [.word "SELECT", .word "EXISTS", .mark .opening, .word "SELECT",
        .number ['1'], .word "FROM", .word table]
    | .delete => [.word "DELETE", .word "FROM", .word table] := by
  have hone : Number.decimalDigits 1 = ['1'] := rfl
  cases operation <;> simp [front, Command.selectAll, Sql.words, List.intercalate, hone]

/-- The keyword is found behind a front that does not hold it. -/
lemma split_where {ps : List Piece} (h : Lexeme.word "WHERE" ∉ Sql.lexemes ps)
    (qs : List Piece) :
    (spansOf (ps ++ (Sql.word "WHERE" ++ qs))).takeWhile (fun s => !s.isWhere) = spansOf ps ∧
      ∃ s, (spansOf (ps ++ (Sql.word "WHERE" ++ qs))).dropWhile (fun s => !s.isWhere) =
        s :: spansOf qs := by
  have hfront : ∀ s ∈ spansOf ps, (!s.isWhere) = true := by
    intro s hs
    by_contra hwhere
    refine h (Sql.lexemesOf_spansOf ps ▸ List.mem_filterMap.mpr ⟨s, hs, ?_⟩)
    simpa [Span.isWhere] using hwhere
  have hword : spansOf (Sql.word "WHERE") = [(Lexeme.word "WHERE").span] := rfl
  have hwhere : (Lexeme.word "WHERE").span.isWhere = true := by decide
  rw [Sql.spansOf_append, Sql.spansOf_append, hword, List.takeWhile_append_of_pos hfront,
    List.dropWhile_append_of_pos hfront]
  simp [hwhere]

/-- Whether nothing stands there, or a clause after a blank. -/
def StartsClause (ps : List Piece) : Prop :=
  ps = [] ∨ ∃ w qs, isClauseWord w = true ∧ ps = Sql.blank ++ (Sql.word w ++ qs)

/-- A clause after a blank ends what is read, and is left. -/
lemma StartsClause.cut_spansOf {ps : List Piece} (h : StartsClause ps) :
    (∀ s ∈ (cut 0 (spansOf ps)).1, s.isWhite = true) ∧
      lexemesOf (cut 0 (spansOf ps)).2 = Sql.lexemes ps := by
  rcases h with rfl | ⟨w, qs, hw, rfl⟩
  · exact ⟨by simp [cut], rfl⟩
  · have hword : spansOf (Sql.word w ++ qs) = (Lexeme.word w).span :: spansOf qs := rfl
    have hcut : cut 0 (spansOf (Sql.word w ++ qs)) = ([], spansOf (Sql.word w ++ qs)) := by
      rw [hword, cut]
      simp [Lexeme.span, Sql.depthAfter?, hw]
    rw [Sql.spansOf_append, KeepsDepth.blank 0 le_rfl, hcut]
    refine ⟨by simp [Sql.blank, spansOf, Piece.spans, Sql.Gap.chars, Span.isWhite], ?_⟩
    rw [Sql.lexemesOf_spansOf]
    rfl

/-- The sort keys stand after two keywords. -/
lemma clause_eq (h : order ≠ []) : OrderTerm.clause order = Sql.blank ++ (Sql.word "ORDER" ++
    (Sql.blank ++ Sql.word "BY" ++ Sql.blank ++ Sql.commaList (order.map OrderTerm.pieces))) := by
  simp [OrderTerm.clause, h, Sql.words, List.intercalate]

/-- Behind a condition stands nothing, or a clause. -/
lemma startsClause_back (order : List OrderTerm) (operation : Operation) :
    StartsClause (back order operation) := by
  have hlimit : ∀ ps, StartsClause (Command.limitOne ++ ps) := fun ps =>
    .inr ⟨"LIMIT", Sql.blank ++ Sql.numeral 1 ++ ps, by decide, by simp [Command.limitOne]⟩
  have horder : ∀ ps, order ≠ [] → StartsClause (OrderTerm.clause order ++ ps) := fun ps hkeys =>
    .inr ⟨"ORDER", _, by decide, by rw [clause_eq hkeys, List.append_assoc, List.append_assoc]⟩
  by_cases hkeys : order = []
  · have hclause : OrderTerm.clause order = [] := by simp [OrderTerm.clause, hkeys]
    cases operation with
    | find => exact .inl hclause
    | findOne => simpa [back, hclause] using hlimit []
    | existence => exact hlimit _
    | delete => exact .inl rfl
  · cases operation with
    | find => simpa [back] using horder [] hkeys
    | findOne => exact horder _ hkeys
    | existence => exact hlimit _
    | delete => exact .inl rfl

/-- A sort key is read back. -/
lemma readKey_pieces (o : OrderTerm) (rest : List Lexeme) :
    Sql.readKey (Sql.lexemes o.pieces ++ rest) = some (o, rest) := by
  obtain ⟨column, direction⟩ := o
  cases direction <;> rfl

/-- The sort keys are read back in front of what starts with no comma. -/
lemma readOrder_clause (order : List OrderTerm) {rest : List Lexeme}
    (hrest : rest = [] ∨ rest = [.word "LIMIT", .number ['1']]) :
    Sql.readOrder (Sql.lexemes (OrderTerm.clause order) ++ rest) = some (order, rest) := by
  by_cases hkeys : order = []
  · rw [hkeys]
    rcases hrest with rfl | rfl <;> rfl
  · have hcomma : ∀ l ∈ rest.head?, l ≠ .mark .comma := by
      rcases hrest with rfl | rfl <;> simp
    have hbetween : Sql.lexemes (Sql.mark .comma ++ Sql.blank) = [.mark .comma] := rfl
    have hread := Sql.readSeparated_append hbetween readKey_pieces hcomma hkeys
    rw [clause_eq hkeys]
    exact hread

/-- The parts of a statement are what it says. -/
lemma ofParts_eq (condition : String) (operation : Operation) :
    ofParts (Sql.lexemes (front table operation)) condition
      (Sql.lexemes (back order operation)) =
      some ⟨operation, table, condition,
        if operation = .find ∨ operation = .findOne then order else []⟩ := by
  have hlimit : Sql.lexemes Command.limitOne = [.word "LIMIT", .number ['1']] := rfl
  rw [lexemes_front]
  cases operation with
  | find =>
    have hread := readOrder_clause order (.inl rfl)
    rw [List.append_nil] at hread
    simp only [ofParts, back, hread]
    rfl
  | findOne =>
    have hread := readOrder_clause order (.inr rfl)
    simp only [ofParts, back, Sql.lexemes_append, hlimit, hread]
    rfl
  | existence => rfl
  | delete => rfl

/-- A statement is read back as its parts, if its condition stands apart and neither its table nor a
name in the condition opens a clause. -/
theorem ofText?_spell (operation : Operation) (htable : isClauseWord table = false)
    (hc : ∀ x ∈ c.leaves, x.IsProper (isClauseWord · = false))
    (hstands : StandsApart c.pieces)
    (hapart : StandsApart (Command.filter operation table c order).pieces) :
    ofText? (Command.filter operation table c order).text =
      some ⟨operation, table, c.text,
        if operation = .find ∨ operation = .findOne then order else []⟩ := by
  have hfront : Lexeme.word "WHERE" ∉ Sql.lexemes (front table operation) := by
    have hne : table ≠ "WHERE" := by
      rintro rfl
      revert htable
      decide
    rw [lexemes_front]
    cases operation <;> simp [hne.symm]
  obtain ⟨htake, s, hdrop⟩ := split_where hfront (Sql.blank ++ c.pieces ++ back order operation)
  have hspans : Sql.spans (Command.filter operation table c order).text.toList =
      some (spansOf (front table operation ++
        (Sql.word "WHERE" ++ (Sql.blank ++ c.pieces ++ back order operation)))) := by
    rw [Command.text, Sql.spell, String.toList_ofList, hapart.spans_chars.1, pieces_filter]
  obtain ⟨hwhite, hback⟩ := (startsClause_back order operation).cut_spansOf
  have hkeeps : KeepsDepth 0 (Sql.blank ++ c.pieces) :=
    KeepsDepth.blank.append (Condition.keepsDepth c hc)
  have hblank : ∀ s ∈ spansOf Sql.blank, s.isWhite = true := by
    simp [Sql.blank, spansOf, Piece.spans, Sql.Gap.chars, Span.isWhite]
  simp only [ofText?, hspans, Option.bind_eq_bind, Option.bind_some, htake, hdrop]
  rw [Sql.spansOf_append, hkeeps 0 le_rfl]
  simp only [Sql.lexemesOf_spansOf, hback, Sql.spansOf_append, List.append_assoc]
  rw [Sql.trim_spansOf (Condition.isBounded c) hblank hwhite, hstands.spans_chars.2, ofParts_eq]
  rfl

end FilterText

/-! ## Queries -/

namespace Query

/-- The queries that programs build over tables all of whose names pass a test: a filter that is
compiled from a reachable registry, with sort keys added any number of times. -/
def IsBuiltOver (P : String → Prop) (q : Query) : Prop :=
  ∃ (t : TableType) (filter : Expr) (r r' : Registry) (compiled : Query)
    (requests : List (List OrderRequest)), r.IsReachable ∧
      (∀ u ∈ t :: filter.tables, ∀ table, u.table = .ok table → table.NamesAre P) ∧
      compile t filter r = (.ok compiled, r') ∧ requests.foldlM orderBy compiled = .ok q

/-- What a use of the query has to say. -/
def filterText (q : Query) (operation : Operation) : FilterText :=
  ⟨operation, q.table.name, q.conditionText,
    if operation = .find ∨ operation = .findOne then q.order else []⟩

/-- The names of a built query pass the test of its tables, and all its names are identifiers. -/
lemma IsBuiltOver.names {P : String → Prop} {q : Query} (h : q.IsBuiltOver P) :
    P q.table.name ∧ (∀ x ∈ q.condition.leaves, x.IsProper P) ∧
      (∀ x ∈ q.condition.leaves, x.IsProper IsIdentifier) ∧
      ∀ o ∈ q.order, IsIdentifier o.column := by
  obtain ⟨t, filter, r, r', compiled, requests, hr, hnames, hcompile, hrequests⟩ := h
  obtain ⟨os, hos, rfl⟩ := orderBy_all hrequests
  have hidentifiers := compile_leaves hr.isSound hcompile
  obtain ⟨table, r₁, hregister, -, tf, w, hf, -, rfl, -⟩ := compile_ok.mp hcompile
  obtain ⟨htable, hr₁⟩ := Registry.register_ok hr.isSound hregister
  rw [List.forall_mem_cons] at hnames
  have ht := hnames.1 table htable
  exact ⟨ht.1, Expr.compile_leaves filter hnames.2 (by simpa using ht) ht hr₁ hf, hidentifiers,
    by simpa using hos⟩

/-- Every use of a query is read back as what it has to say: the operation, the table, the text of
the condition, and for the uses that return rows in order the sort keys. So uses of two queries with
the same text say the same. No name of a table may be a keyword that opens a clause.

*Proof sketch.* The text stands apart, so that it is read as the tokens of its pieces, each with its
characters. By induction on the condition, its parentheses are balanced and no clause word stands
outside of them; so the cut comes at the clause behind it, or where the text or the parentheses
around it end. What is cut out is the text of the condition, because the condition starts and ends
with a token. The tokens in front and behind are read one after another. -/
theorem uses_areRead {q : Query} (h : q.IsBuiltOver (isClauseWord · = false)) :
    (∀ operation, FilterText.ofText? (q.command operation).text = some (q.filterText operation)) ∧
    ∀ q' : Query, q'.IsBuiltOver (isClauseWord · = false) → ∀ operation operation',
      (q.command operation).text = (q'.command operation').text →
        operation = operation' ∧ q.table.name = q'.table.name ∧
          q.conditionText = q'.conditionText ∧
          (operation = .find ∨ operation = .findOne → q.order = q'.order) := by
  have hread : ∀ {q : Query}, q.IsBuiltOver (isClauseWord · = false) → ∀ operation,
      FilterText.ofText? (q.command operation).text = some (q.filterText operation) := by
    intro q h operation
    obtain ⟨htable, hclauses, hidentifiers, horder⟩ := h.names
    exact FilterText.ofText?_spell operation htable hclauses
      (Condition.standsApart q.condition hidentifiers)
      (Command.standsApart_filter operation q.table.isIdentifier_name hidentifiers horder)
  refine ⟨hread h, fun q' h' operation operation' htext => ?_⟩
  have heq : q.filterText operation = q'.filterText operation' :=
    Option.some.inj ((hread h operation).symm.trans (htext ▸ hread h' operation'))
  simp only [filterText, FilterText.mk.injEq] at heq
  obtain ⟨rfl, htable, hcondition, horder⟩ := heq
  refine ⟨rfl, htable, hcondition, fun hreturns => ?_⟩
  simpa [hreturns] using horder

end Query

namespace Sample

/-- The persons with a name that reads like the end of the statement and another one. -/
def sly : Expr :=
  .binary ⟨"eq"⟩ .equal (Builder.col "name")
    (.literal ⟨"eq"⟩ (.text "') LIMIT 1; DROP TABLE person"))

/-- Sorted by age, those of unknown age last. -/
def byAge : List (List OrderRequest) := [[⟨"age", .nullsLast, ⟨"nulls_last"⟩⟩]]

/-- The filter compiles, and the query can be sorted by age. -/
lemma exists_compile_sly : ∃ compiled r' q, Query.compile person sly {} = (.ok compiled, r') ∧
    byAge.foldlM Query.orderBy compiled = .ok q ∧ q.table.name = "person" ∧
      q.order = [⟨"age", .nullsLast⟩] :=
  ⟨_, _, _, rfl, rfl, rfl, rfl⟩

/-- Deletion and search by a sly name are read back as what they are. -/
theorem sly_isRead : ∃ q : Query, q.IsBuiltOver (isClauseWord · = false) ∧
    FilterText.ofText? (q.command .delete).text = some ⟨.delete, "person", q.conditionText, []⟩ ∧
    FilterText.ofText? (q.command .findOne).text =
      some ⟨.findOne, "person", q.conditionText, [⟨"age", .nullsLast⟩]⟩ := by
  obtain ⟨compiled, r', q, hcompile, hrequests, htable, horder⟩ := exists_compile_sly
  have hnames : ∀ u ∈ person :: sly.tables, ∀ table, u.table = .ok table →
      table.NamesAre (isClauseWord · = false) := by
    intro u hu table htable
    obtain rfl : u = person := by simpa [sly, Builder.col, Expr.tables] using hu
    obtain ⟨hname, hcolumns⟩ := TableType.table_ok_iff.mp htable
    rw [Table.NamesAre, hname, hcolumns]
    decide
  have hbuilt : q.IsBuiltOver (isClauseWord · = false) :=
    ⟨person, sly, {}, r', compiled, byAge, ⟨[], rfl⟩, hnames, hcompile, hrequests⟩
  have hread := (Query.uses_areRead hbuilt).1
  exact ⟨q, hbuilt, by simpa [Query.filterText, htable] using hread .delete,
    by simpa [Query.filterText, htable, horder] using hread .findOne⟩

end Sample

end TypedSql
