import Mathlib.Data.List.DropRight
import TypedSql.Proofs.Sql.Pieces

/-!
# Cutting SQL text at its clauses

A condition stands in a statement between two keywords, without parentheses of its own. A reader who
knows nothing of how conditions are written finds its end by the tokens alone: it is the first
keyword that opens a clause, or closing parenthesis, that stands outside all parentheses opened
since its start. Each token keeps the characters it was read from, so that what is cut out is a part
of the text itself.

## Main definitions

* `Sql.Span`, `Sql.spans` — tokens and white space with their characters; those of a text.
* `Sql.cut` — cuts at the first clause word or closing parenthesis outside all parentheses.
* `Sql.trim` — drops white space at both ends.
* `Sql.KeepsDepth` — pieces that are passed without a cut, at every depth from some on.
* `Sql.IsBounded` — pieces that start and end with a lexeme.

## Main results

* `Sql.spans_chars` — readable pieces are read back as their tokens.
* `Sql.KeepsDepth.parenthesized` — between parentheses, every keyword may stand.
* `Sql.trim_spansOf` — pieces that start and end with a lexeme are left by a trim.
-/

set_option autoImplicit false

namespace TypedSql.Sql

/-! ## Tokens with their characters -/

/-- A lexeme, or a white space character, with the characters it was read from. -/
structure Span where
  chars : List Char
  lexeme? : Option Lexeme
  deriving DecidableEq, Repr

/-- Whether a span is white space. -/
def Span.isWhite (s : Span) : Bool := s.lexeme?.isNone

/-- The lexemes of spans. -/
def lexemesOf (ss : List Span) : List Lexeme := ss.filterMap Span.lexeme?

/-- The text of spans. -/
def textOf (ss : List Span) : String := String.ofList (ss.flatMap Span.chars)

/-- The spans of a text. The test for progress always holds; it lets the recursion be seen to
end. -/
def spans : List Char → Option (List Span)
  | [] => some []
  | c :: rest =>
    if c.isWhitespace then (spans rest).map (⟨[c], none⟩ :: ·)
    else
      match scan c rest with
      | none => none
      | some (l, after) =>
        if after.length ≤ rest.length then
          (spans after).map (⟨(c :: rest).take (rest.length + 1 - after.length), some l⟩ :: ·)
        else none
termination_by cs => cs.length

/-- The span of a lexeme. -/
def Lexeme.span (l : Lexeme) : Span := ⟨l.chars, some l⟩

/-- The spans that a piece is read as; a sign is read apart from its number. -/
def Piece.spans : Piece → List Span
  | .gap g => g.chars.map fun c => ⟨[c], none⟩
  | .lexeme l => (Piece.lexeme l).lexemes.map Lexeme.span

/-- The spans that a list of pieces is read as. -/
def spansOf (ps : List Piece) : List Span := ps.flatMap Piece.spans

/-- No pieces have no spans. -/
@[simp]
lemma spansOf_nil : spansOf [] = [] := rfl

/-- The spans of the first piece come first. -/
lemma spansOf_cons (p : Piece) (ps : List Piece) : spansOf (p :: ps) = p.spans ++ spansOf ps :=
  rfl

/-- Spans come in the order of the pieces. -/
@[simp]
lemma spansOf_append (ps qs : List Piece) : spansOf (ps ++ qs) = spansOf ps ++ spansOf qs := by
  simp [spansOf]

/-- Lexemes come in the order of the spans. -/
@[simp]
lemma lexemesOf_append (ss ts : List Span) :
    lexemesOf (ss ++ ts) = lexemesOf ss ++ lexemesOf ts := by
  simp [lexemesOf]

/-- The lexemes of the spans of pieces are those of the pieces. -/
@[simp]
lemma lexemesOf_spansOf (ps : List Piece) : lexemesOf (spansOf ps) = lexemes ps := by
  induction ps with
  | nil => rfl
  | cons p ps ih =>
    have hp : lexemesOf p.spans = p.lexemes := by
      cases p with
      | gap g => cases g <;> rfl
      | lexeme l => simp [Piece.spans, lexemesOf, Lexeme.span, Function.comp_def]
    rw [spansOf_cons, lexemesOf_append, hp, ih]
    rfl

/-- A lexeme in front of a text comes first among the spans. -/
lemma spans_chars_append {l : Lexeme} {rest : List Char} (hl : l.IsPlain) (h : l.Ends rest) :
    spans (l.chars ++ rest) = (spans rest).map (l.span :: ·) := by
  obtain ⟨c, cs, hchars, hwhite, hscan⟩ := scan_chars hl h
  rw [Lexeme.span, hchars, List.cons_append, spans, hwhite, hscan]
  have hprogress : rest.length ≤ (cs ++ rest).length := by simp
  have hlength : (cs ++ rest).length + 1 - rest.length = (c :: cs).length := by
    rw [List.length_append, List.length_cons]
    omega
  have htake : (c :: (cs ++ rest)).take (c :: cs).length = c :: cs := by
    rw [← List.cons_append, List.take_left]
  simp only [Bool.false_eq_true, if_false, if_pos hprogress, hlength, htake]

/-- Lexemes in front of a text come first among the spans. -/
lemma LexemesRead.spans_append {ls : List Lexeme} {rest : List Char} (h : LexemesRead ls rest) :
    spans (ls.flatMap Lexeme.chars ++ rest) = (spans rest).map (ls.map Lexeme.span ++ ·) := by
  induction ls with
  | nil => simp
  | cons l ls ih =>
    rw [List.flatMap_cons, List.append_assoc, spans_chars_append h.1.1 h.1.2, ih h.2,
      Option.map_map]
    rfl

/-- A readable list of pieces is read back as its spans, which have its characters. -/
theorem spans_chars {ps : List Piece} {rest : List Char} (h : Readable ps rest) :
    spans (chars ps ++ rest) = (spans rest).map (spansOf ps ++ ·) ∧
      (spansOf ps).flatMap Span.chars = chars ps := by
  induction ps with
  | nil => simp
  | cons p ps ih =>
    obtain ⟨hrest, hchars⟩ := ih h.2
    have hp : spans (p.chars ++ (chars ps ++ rest)) =
        (spans (chars ps ++ rest)).map (p.spans ++ ·) ∧ p.spans.flatMap Span.chars = p.chars := by
      cases p with
      | gap g =>
        have hblank : ∀ cs, spans (' ' :: cs) = (spans cs).map (⟨[' '], none⟩ :: ·) :=
          fun cs => by rw [spans]; rfl
        have hline : ∀ cs, spans ('\n' :: cs) = (spans cs).map (⟨['\n'], none⟩ :: ·) :=
          fun cs => by rw [spans]; rfl
        cases g <;> simp [Piece.chars, Gap.chars, Piece.spans, hblank, hline, Function.comp_def]
      | lexeme l =>
        obtain ⟨hchars, hread⟩ := h.1.lexemesRead
        rw [Piece.chars, ← hchars, hread.spans_append]
        simp [Piece.spans, List.flatMap_map, Lexeme.span]
    rw [chars_cons, List.append_assoc, hp.1, hrest, Option.map_map, spansOf_cons,
      List.flatMap_append, hp.2, hchars]
    simp [Function.comp_def]

/-- Pieces that stand apart are read back as their spans, which have their characters. -/
lemma StandsApart.spans_chars {ps : List Piece} (h : StandsApart ps) :
    spans (chars ps) = some (spansOf ps) ∧ textOf (spansOf ps) = spell ps := by
  obtain ⟨hspans, hchars⟩ := Sql.spans_chars (h [] (by simp [Delimited]))
  exact ⟨by simpa [spans] using hspans, by rw [textOf, hchars, spell]⟩

/-! ## Cutting at a depth of parentheses -/

/-- The keywords that open a clause after the table of a statement. -/
def clauseWords : List String :=
  ["WHERE", "GROUP", "HAVING", "WINDOW", "UNION", "INTERSECT", "EXCEPT", "ORDER", "LIMIT",
    "RETURNING"]

/-- Whether a word opens a clause, in small letters or capitals. -/
def isClauseWord (w : String) : Bool :=
  clauseWords.any fun k => k.toList == w.toList.map Char.toUpper

/-- The depth of parentheses after a token; outside of all, a clause word and a closing parenthesis
end what is read. -/
def depthAfter? (depth : Nat) : Option Lexeme → Option Nat
  | some (.mark .opening) => some (depth + 1)
  | some (.mark .closing) => if depth = 0 then none else some (depth - 1)
  | some (.word w) => if depth = 0 ∧ isClauseWord w then none else some depth
  | _ => some depth

/-- The spans before the first clause word or closing parenthesis outside all parentheses, and those
from there on. -/
def cut (depth : Nat) : List Span → List Span × List Span
  | [] => ([], [])
  | s :: rest =>
    match depthAfter? depth s.lexeme? with
    | none => ([], s :: rest)
    | some d => (s :: (cut d rest).1, (cut d rest).2)

/-- Drops white space at both ends. -/
def trim (ss : List Span) : List Span := (ss.dropWhile Span.isWhite).rdropWhile Span.isWhite

/-- Spans that leave the depth as it is are passed. -/
lemma cut_append {depth : Nat} {ss : List Span}
    (h : ∀ s ∈ ss, depthAfter? depth s.lexeme? = some depth) (rest : List Span) :
    cut depth (ss ++ rest) = (ss ++ (cut depth rest).1, (cut depth rest).2) := by
  induction ss with
  | nil => rfl
  | cons s ss ih =>
    rw [List.forall_mem_cons] at h
    rw [List.cons_append, cut, h.1]
    simp only [ih h.2, List.cons_append]

/-- Whether pieces are passed without a cut from depth `least` on, and lead back to their depth. -/
def KeepsDepth (least : Nat) (ps : List Piece) : Prop :=
  ∀ depth, least ≤ depth → ∀ rest,
    cut depth (spansOf ps ++ rest) = (spansOf ps ++ (cut depth rest).1, (cut depth rest).2)

namespace KeepsDepth

variable {least : Nat} {ps qs : List Piece}

/-- What is passed at every depth is passed from any depth on. -/
lemma mono (h : KeepsDepth 0 ps) : KeepsDepth least ps :=
  fun depth _ => h depth (Nat.zero_le depth)

/-- No pieces are passed without a cut. -/
lemma nil : KeepsDepth least [] := fun _ _ _ => rfl

/-- Pieces one after the other are passed if each part is. -/
lemma append (hp : KeepsDepth least ps) (hq : KeepsDepth least qs) :
    KeepsDepth least (ps ++ qs) := by
  intro depth hdepth rest
  rw [spansOf_append, List.append_assoc, hp depth hdepth, hq depth hdepth, List.append_assoc]

/-- A blank is passed at every depth. -/
lemma blank : KeepsDepth least blank :=
  fun _ _ => cut_append (by simp [Sql.blank, spansOf, Piece.spans, Gap.chars, depthAfter?])

/-- Pieces with a blank between them are passed if both parts are. -/
lemma append_blank (hp : KeepsDepth least ps) (hq : KeepsDepth least qs) :
    KeepsDepth least (ps ++ Sql.blank ++ qs) :=
  (hp.append blank).append hq

/-- A lexeme is passed if its tokens leave the depth as it is. -/
lemma lexeme {l : Lexeme} (h : ∀ depth, least ≤ depth → ∀ k ∈ (Piece.lexeme l).lexemes,
    depthAfter? depth (some k) = some depth) : KeepsDepth least [.lexeme l] := by
  refine fun depth hdepth => cut_append fun s hs => ?_
  rw [spansOf_cons, spansOf_nil, List.append_nil, Piece.spans] at hs
  obtain ⟨k, hk, rfl⟩ := List.mem_map.mp hs
  exact h depth hdepth k hk

/-- A word that opens no clause is passed at every depth. -/
lemma word {w : String} (h : isClauseWord w = false) : KeepsDepth least (Sql.word w) :=
  mono (lexeme (by simp [Piece.lexemes, depthAfter?, h]))

/-- Inside parentheses, every word is passed. -/
lemma word_inside (w : String) : KeepsDepth 1 (Sql.word w) := by
  refine lexeme fun depth hdepth => ?_
  simp [Piece.lexemes, depthAfter?, show depth ≠ 0 by omega]

/-- A mark that is no parenthesis is passed. -/
lemma mark {m : Mark} (hopening : m ≠ .opening) (hclosing : m ≠ .closing) :
    KeepsDepth least (Sql.mark m) := by
  refine lexeme fun depth _ => ?_
  cases m <;> simp_all [Piece.lexemes, depthAfter?]

/-- A number is passed, with or without a sign. -/
lemma number (digits : List Char) : KeepsDepth least [.lexeme (.number digits)] := by
  refine lexeme fun depth _ => ?_
  unfold Piece.lexemes
  split
  · simp
  · simp [depthAfter?]
  · rename_i heq
    cases heq
    simp [depthAfter?]

/-- A text literal is passed at every depth. -/
lemma text (s : List Char) : KeepsDepth least [.lexeme (.text s)] :=
  lexeme (by simp [Piece.lexemes, depthAfter?])

/-- A placeholder is passed at every depth. -/
lemma placeholder (n : Nat) : KeepsDepth least (Sql.placeholder n) :=
  lexeme (by simp [Piece.lexemes, depthAfter?])

/-- A blob literal is passed at every depth. -/
lemma blob (bytes : List UInt8) : KeepsDepth least [.lexeme (.blob bytes)] :=
  lexeme (by simp [Piece.lexemes, depthAfter?])

/-- Separated items are passed if the separator and each item are. -/
lemma intercalate {separator : List Piece} (hseparator : KeepsDepth least separator)
    {items : List (List Piece)} (h : ∀ ps ∈ items, KeepsDepth least ps) :
    KeepsDepth least (separator.intercalate items) := by
  induction items with
  | nil => exact nil
  | cons ps items ih =>
    rw [List.forall_mem_cons] at h
    cases items with
    | nil =>
      rw [List.intercalate_singleton]
      exact h.1
    | cons qs items =>
      rw [List.intercalate_cons_cons]
      exact (h.1.append hseparator).append (ih h.2)

/-- The items of a list are passed if each is. -/
lemma commaList {items : List (List Piece)} (h : ∀ ps ∈ items, KeepsDepth least ps) :
    KeepsDepth least (Sql.commaList items) :=
  intercalate ((mark (by decide) (by decide)).append blank) h

/-- Words are passed if each of them is. -/
lemma words {ws : List String} (h : ∀ w ∈ ws, KeepsDepth least (Sql.word w)) :
    KeepsDepth least (Sql.words ws) := by
  refine intercalate blank fun ps hps => ?_
  obtain ⟨w, hw, rfl⟩ := List.mem_map.mp hps
  exact h w hw

/-- What may stand inside parentheses may stand anywhere between two of its own. -/
theorem parenthesized (h : KeepsDepth 1 ps) : KeepsDepth least (Sql.parenthesized ps) := by
  intro depth _ rest
  have hopening : spansOf (Sql.mark .opening) = [(Lexeme.mark .opening).span] := rfl
  have hclosing : spansOf (Sql.mark .closing) = [(Lexeme.mark .closing).span] := rfl
  rw [Sql.parenthesized, spansOf_append, spansOf_append, hopening, hclosing]
  simp only [List.append_assoc, List.cons_append, List.nil_append, cut, Lexeme.span,
    depthAfter?, h (depth + 1) (Nat.succ_pos depth), Nat.succ_ne_zero, if_false,
    Nat.add_sub_cancel]

end KeepsDepth

/-! ## Trimming -/

/-- Pieces that start and end with a lexeme. -/
structure IsBounded (ps : List Piece) : Prop where
  first : ∃ l qs, ps = .lexeme l :: qs
  last : ∃ qs l, ps = qs ++ [.lexeme l]

namespace IsBounded

variable {ps qs : List Piece}

/-- A lexeme starts and ends with itself. -/
lemma lexeme (l : Lexeme) : IsBounded [.lexeme l] := ⟨⟨l, [], rfl⟩, ⟨[], l, rfl⟩⟩

/-- Anything may stand between two bounded lists of pieces. -/
lemma around (hp : IsBounded ps) (between : List Piece) (hq : IsBounded qs) :
    IsBounded (ps ++ between ++ qs) := by
  obtain ⟨l, ps, rfl⟩ := hp.first
  obtain ⟨qs, k, rfl⟩ := hq.last
  exact ⟨⟨l, ps ++ between ++ (qs ++ [.lexeme k]), by simp⟩,
    ⟨.lexeme l :: ps ++ between ++ qs, k, by simp⟩⟩

/-- Pieces one after the other start with the first and end with the last lexeme. -/
lemma append (hp : IsBounded ps) (hq : IsBounded qs) : IsBounded (ps ++ qs) := by
  simpa using hp.around [] hq

/-- Pieces with a blank between them start and end with a lexeme if both parts do. -/
lemma append_blank (hp : IsBounded ps) (hq : IsBounded qs) : IsBounded (ps ++ blank ++ qs) :=
  hp.around blank hq

/-- Parentheses start and end with a lexeme. -/
lemma parenthesized (ps : List Piece) : IsBounded (Sql.parenthesized ps) :=
  (lexeme (.mark .opening)).around ps (lexeme (.mark .closing))

/-- Words start and end with a lexeme, if there is one. -/
lemma words {w : String} {ws : List String} : IsBounded (Sql.words (w :: ws)) := by
  induction ws generalizing w with
  | nil => exact lexeme (.word w)
  | cons v ws ih => exact (lexeme (.word w)).append_blank ih

end IsBounded

/-- What starts with no white space is left by a drop of it. -/
lemma dropWhile_white {ss before : List Span} (hbefore : ∀ s ∈ before, s.isWhite = true)
    (h : ∀ s ∈ ss.head?, s.isWhite = false) : (before ++ ss).dropWhile Span.isWhite = ss := by
  rw [List.dropWhile_append_of_pos hbefore]
  cases ss with
  | nil => rfl
  | cons s ss => simp [h s rfl]

/-- A lexeme is read as spans that are no white space. -/
lemma spans_lexeme (l : Lexeme) : (Piece.lexeme l).spans ≠ [] ∧
    ∀ s ∈ (Piece.lexeme l).spans, s.isWhite = false := by
  constructor
  · unfold Piece.spans
    rw [ne_eq, List.map_eq_nil_iff]
    unfold Piece.lexemes
    split
    · rename_i heq
      cases heq
    · simp
    · simp
  · intro s hs
    obtain ⟨k, -, rfl⟩ := List.mem_map.mp hs
    rfl

/-- Between white space, pieces that start and end with a lexeme are left by a trim. -/
theorem trim_spansOf {ps : List Piece} (h : IsBounded ps) {before after : List Span}
    (hbefore : ∀ s ∈ before, s.isWhite = true) (hafter : ∀ s ∈ after, s.isWhite = true) :
    trim (before ++ (spansOf ps ++ after)) = spansOf ps := by
  have hfirst : ∀ s ∈ (spansOf ps ++ after).head?, s.isWhite = false := by
    obtain ⟨l, qs, rfl⟩ := h.first
    obtain ⟨hne, hwhite⟩ := spans_lexeme l
    obtain ⟨s, ss, hs⟩ := List.exists_cons_of_ne_nil hne
    rintro t ht
    rw [spansOf_cons, hs] at ht
    cases ht
    exact hwhite s (hs ▸ List.mem_cons_self)
  have hlast : ∀ s ∈ (spansOf ps).reverse.head?, s.isWhite = false := by
    obtain ⟨qs, l, rfl⟩ := h.last
    obtain ⟨hne, hwhite⟩ := spans_lexeme l
    rintro t ht
    rw [spansOf_append, List.head?_reverse, spansOf_cons, spansOf_nil, List.append_nil,
      List.getLast?_append_of_ne_nil _ hne] at ht
    exact hwhite t (List.mem_of_getLast? ht)
  rw [trim, dropWhile_white hbefore hfirst, List.rdropWhile, List.reverse_append,
    dropWhile_white (by simpa using hafter) hlast, List.reverse_reverse]

end TypedSql.Sql
