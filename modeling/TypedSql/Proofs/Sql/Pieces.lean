import TypedSql.Proofs.Sql.Lexer

/-!
# Reading assembled SQL text

SQL text is assembled from pieces. Pieces that stand apart are read back as their lexemes, whatever
is put after them as long as it starts with a blank, a line break, a comma or a closing parenthesis.

## Main definitions

* `Sql.lexemes` — the lexemes of a list of pieces, a sign apart from its number.
* `Sql.placeholdersOf` — the positions of the placeholders among them.
* `Sql.Readable` — no piece runs into what follows it.
* `Sql.StandsApart` — a list of pieces that is readable in front of every delimiter.

## Main results

* `Sql.lex_chars` — a readable list of pieces is read back as its lexemes.
* `Sql.StandsApart.lex_chars`, `Sql.StandsApart.lex_spell` — so is one that stands apart.
-/

set_option autoImplicit false

namespace TypedSql.Sql

open Number (IsDigits IsReal IsSign)
open Text (isNameChar IsIdentifier)

/-! ## Lexemes of pieces -/

/-- The lexemes that a piece is read as; a sign is read apart from its number. -/
def Piece.lexemes : Piece → List Lexeme
  | .gap _ => []
  | .lexeme (.number ('-' :: body)) => [.mark .minus, .number body]
  | .lexeme l => [l]

/-- The lexemes that a list of pieces is read as. -/
def lexemes (ps : List Piece) : List Lexeme := ps.flatMap Piece.lexemes

/-- No pieces have no lexemes. -/
@[simp]
lemma lexemes_nil : lexemes [] = [] := rfl

/-- Lexemes come in the order of the pieces. -/
@[simp]
lemma lexemes_append (ps qs : List Piece) : lexemes (ps ++ qs) = lexemes ps ++ lexemes qs := by
  simp [lexemes]

/-- A word is one lexeme. -/
@[simp]
lemma lexemes_word (w : String) : lexemes (word w) = [.word w] := rfl

/-- A mark is one lexeme. -/
@[simp]
lemma lexemes_mark (m : Mark) : lexemes (mark m) = [.mark m] := rfl

/-- A placeholder is one lexeme. -/
@[simp]
lemma lexemes_placeholder (n : Nat) : lexemes (placeholder n) = [.placeholder n] := rfl

/-- A blank is no lexeme. -/
@[simp]
lemma lexemes_blank : lexemes blank = [] := rfl

/-- A gap is no lexeme. -/
@[simp]
lemma lexemes_gap_cons (g : Gap) (ps : List Piece) : lexemes (.gap g :: ps) = lexemes ps := rfl

/-- A number without a sign is one lexeme. -/
lemma lexemes_number {body : List Char} (h : IsDigits body ∨ IsReal body) :
    lexemes [.lexeme (.number body)] = [.number body] := by
  obtain ⟨d, ds, rfl, hd⟩ := exists_digit_cons h
  have hminus : d ≠ '-' := by rintro rfl; cases hd
  simp [lexemes, Piece.lexemes, hminus]

/-- A numeral is one lexeme. -/
@[simp]
lemma lexemes_numeral (n : Nat) :
    lexemes (numeral n) = [.number (Number.decimalDigits n)] :=
  lexemes_number (.inl (Number.isDigits_decimalDigits n))

/-! ## Placeholders of pieces -/

/-- The position of a placeholder. -/
def Lexeme.position? : Lexeme → Option Nat
  | .placeholder n => some n
  | _ => none

/-- The positions of the placeholders among the lexemes of a list of pieces. -/
def placeholdersOf (ps : List Piece) : List Nat := (lexemes ps).filterMap Lexeme.position?

/-- The positions of the placeholders in a text, if it can be read. -/
def placeholders? (text : String) : Option (List Nat) :=
  (lex text.toList).map (·.filterMap Lexeme.position?)

section PlaceholdersOf

variable (ps qs : List Piece)

/-- Placeholders come in the order of the pieces. -/
@[simp]
lemma placeholdersOf_append :
    placeholdersOf (ps ++ qs) = placeholdersOf ps ++ placeholdersOf qs := by
  simp [placeholdersOf]

/-- No pieces have no placeholders. -/
@[simp]
lemma placeholdersOf_nil : placeholdersOf [] = [] := rfl

/-- A word is no placeholder. -/
@[simp]
lemma placeholdersOf_word (w : String) : placeholdersOf (word w) = [] := rfl

/-- A mark is no placeholder. -/
@[simp]
lemma placeholdersOf_mark (m : Mark) : placeholdersOf (mark m) = [] := rfl

/-- A blank is no placeholder. -/
@[simp]
lemma placeholdersOf_blank : placeholdersOf blank = [] := rfl

/-- A numeral is no placeholder. -/
@[simp]
lemma placeholdersOf_numeral (n : Nat) : placeholdersOf (numeral n) = [] := by
  simp [placeholdersOf, Lexeme.position?]

/-- A placeholder is one, of its position. -/
@[simp]
lemma placeholdersOf_placeholder (n : Nat) : placeholdersOf (placeholder n) = [n] := rfl

/-- A literal is no placeholder. -/
lemma placeholdersOf_literal (v : Cell) : placeholdersOf [.lexeme v.lexeme] = [] := by
  have hnumber : ∀ digits, placeholdersOf [.lexeme (.number digits)] = [] := by
    intro digits
    unfold placeholdersOf lexemes
    rw [List.flatMap_singleton]
    unfold Piece.lexemes
    split
    · rfl
    · rfl
    · rename_i heq
      cases heq
      rfl
  cases v with
  | null | text _ | blob _ => rfl
  | bool _ | int _ | real _ => exact hnumber _

/-- Parentheses add no placeholders. -/
@[simp]
lemma placeholdersOf_parenthesized :
    placeholdersOf (parenthesized ps) = placeholdersOf ps := by
  simp [parenthesized]

/-- A separator without placeholders adds none. -/
lemma placeholdersOf_intercalate {separator : List Piece} (h : placeholdersOf separator = [])
    (items : List (List Piece)) :
    placeholdersOf (separator.intercalate items) = items.flatMap placeholdersOf := by
  induction items with
  | nil => rfl
  | cons ps items ih =>
    cases items with
    | nil => simp
    | cons qs items => simp [List.intercalate_cons_cons, h, ih]

/-- Commas add no placeholders. -/
@[simp]
lemma placeholdersOf_commaList (items : List (List Piece)) :
    placeholdersOf (commaList items) = items.flatMap placeholdersOf :=
  placeholdersOf_intercalate (by simp) items

/-- Words are no placeholders. -/
@[simp]
lemma placeholdersOf_words (ws : List String) : placeholdersOf (words ws) = [] := by
  rw [words, placeholdersOf_intercalate rfl]
  simp

end PlaceholdersOf

/-! ## Readable pieces -/

/-- Whether a piece is read back in front of a text. -/
def Piece.IsReadable (rest : List Char) : Piece → Prop
  | .gap _ => True
  | .lexeme (.number ('-' :: body)) => (IsDigits body ∨ IsReal body) ∧ EndsNumber rest
  | .lexeme l => l.IsPlain ∧ l.Ends rest

/-- No piece runs into what follows it. -/
def Readable : List Piece → List Char → Prop
  | [], _ => True
  | p :: ps, rest => p.IsReadable (chars ps ++ rest) ∧ Readable ps rest

/-- Two texts are readable if the first is in front of the second, and the second in front of the
rest. -/
lemma readable_append {ps qs : List Piece} {rest : List Char} :
    Readable (ps ++ qs) rest ↔ Readable ps (chars qs ++ rest) ∧ Readable qs rest := by
  induction ps with
  | nil => simp [Readable]
  | cons p ps ih => simp [Readable, ih, and_assoc]

/-- Whether lexemes are read back one after another in front of a text. -/
def LexemesRead : List Lexeme → List Char → Prop
  | [], _ => True
  | l :: ls, rest => (l.IsPlain ∧ l.Ends (ls.flatMap Lexeme.chars ++ rest)) ∧ LexemesRead ls rest

/-- A readable lexeme with its sign is read back as lexemes one after another. -/
lemma Piece.IsReadable.lexemesRead {l : Lexeme} {rest : List Char}
    (h : (Piece.lexeme l).IsReadable rest) :
    (Piece.lexeme l).lexemes.flatMap Lexeme.chars = l.chars ∧
      LexemesRead (Piece.lexeme l).lexemes rest := by
  unfold Piece.IsReadable at h
  unfold Piece.lexemes
  split at h
  · rename_i heq
    cases heq
  · rename_i body heq
    cases heq
    obtain ⟨hbody, hends⟩ := h
    -- the sign is no start of a comment, because a digit follows it
    have hminus : (Lexeme.mark .minus).Ends (body ++ rest) := by
      obtain ⟨d, ds, rfl, hd⟩ := exists_digit_cons hbody
      rintro c ⟨⟩ rfl
      cases hd
    refine ⟨by simp [Lexeme.chars, Mark.chars], ⟨trivial, ?_⟩, ⟨hbody, ?_⟩, trivial⟩
    · simpa [Lexeme.chars] using hminus
    · simpa [Lexeme.Ends] using hends
  · rename_i heq
    cases heq
    exact ⟨by simp, by simpa using h, trivial⟩

/-- Lexemes in front of a text come first among the lexemes. -/
lemma LexemesRead.lex_append {ls : List Lexeme} {rest : List Char} (h : LexemesRead ls rest) :
    lex (ls.flatMap Lexeme.chars ++ rest) = (lex rest).map (ls ++ ·) := by
  induction ls with
  | nil => simp
  | cons l ls ih =>
    rw [List.flatMap_cons, List.append_assoc, Sql.lex_chars_append h.1.1 h.1.2, ih h.2,
      Option.map_map]
    rfl

/-- A readable piece in front of a text comes first among the lexemes. -/
lemma Piece.IsReadable.lex_chars_append {p : Piece} {rest : List Char} (h : p.IsReadable rest) :
    lex (p.chars ++ rest) = (lex rest).map (p.lexemes ++ ·) := by
  cases p with
  | gap g =>
    have hblank : ∀ cs, lex (' ' :: cs) = lex cs := fun cs => by rw [lex]; rfl
    have hline : ∀ cs, lex ('\n' :: cs) = lex cs := fun cs => by rw [lex]; rfl
    cases g <;> simp [Piece.chars, Gap.chars, Piece.lexemes, hblank, hline]
  | lexeme l =>
    obtain ⟨hchars, hread⟩ := h.lexemesRead
    rw [Piece.chars, ← hchars, hread.lex_append]

/-- A readable list of pieces is read back as its lexemes. -/
theorem lex_chars {ps : List Piece} {rest : List Char} (h : Readable ps rest) :
    lex (chars ps ++ rest) = (lex rest).map (lexemes ps ++ ·) := by
  induction ps with
  | nil => simp
  | cons p ps ih =>
    rw [chars_cons, List.append_assoc, h.1.lex_chars_append, ih h.2, Option.map_map]
    simp [lexemes, Function.comp_def]

/-! ## Pieces that stand apart -/

/-- A text that is empty or starts with a delimiter: a blank, a line break, a comma or a closing
parenthesis. -/
def Delimited (rest : List Char) : Prop :=
  ∀ c ∈ rest.head?, c = ' ' ∨ c = '\n' ∨ c = ',' ∨ c = ')'

/-- A delimiter ends every lexeme. -/
lemma Delimited.ends {rest : List Char} (h : Delimited rest) (l : Lexeme) : l.Ends rest := by
  have hends : ∀ c ∈ rest.head?, isNameChar c = false ∧ c.isDigit = false ∧ c ∉ ['\'', '.', '=',
      '>', '-', '*'] := by
    intro c hc
    rcases h c hc with rfl | rfl | rfl | rfl <;> decide
  unfold Lexeme.Ends EndsNumber
  split <;> first | trivial | (intro c hc; have := hends c hc; simp_all)

/-- What starts with a gap starts with a delimiter. -/
lemma delimited_gap (g : Gap) (rest : List Char) : Delimited (g.chars ++ rest) := by
  cases g <;> simp [Delimited, Gap.chars]

/-- What starts with a blank starts with a delimiter. -/
lemma delimited_blank (ps : List Piece) : Delimited (chars (blank ++ ps)) := by
  rw [chars_append]
  exact delimited_gap .blank _

/-- A list of pieces that is readable in front of every delimiter. -/
def StandsApart (ps : List Piece) : Prop := ∀ rest, Delimited rest → Readable ps rest

namespace StandsApart

variable {ps qs : List Piece}

/-- Pieces that stand apart are read back as their lexemes. -/
theorem lex_chars (h : StandsApart ps) : lex (chars ps) = some (lexemes ps) := by
  have hread := Sql.lex_chars (h [] (by simp [Delimited]))
  simpa [lex] using hread

/-- The text of pieces that stand apart is read back as their lexemes. -/
theorem lex_spell (h : StandsApart ps) : lex (spell ps).toList = some (lexemes ps) := by
  rw [spell, String.toList_ofList, h.lex_chars]

/-- The placeholders in the text of pieces that stand apart are those of the pieces. -/
lemma placeholders?_spell (h : StandsApart ps) :
    placeholders? (spell ps) = some (placeholdersOf ps) := by
  rw [placeholders?, h.lex_spell, Option.map_some, placeholdersOf]

/-- A plain lexeme stands apart. -/
lemma lexeme {l : Lexeme} (h : l.IsPlain) : StandsApart [.lexeme l] := by
  intro rest hrest
  refine ⟨?_, trivial⟩
  unfold Piece.IsReadable
  split
  · trivial
  · rename_i heq
    cases heq
    obtain ⟨d, ds, heq, hd⟩ := exists_digit_cons h
    cases heq
    cases hd
  · rename_i heq
    cases heq
    exact ⟨h, hrest.ends l⟩

/-- A signed number stands apart. -/
lemma signed {sign body : List Char} (hs : IsSign sign) (hb : IsDigits body ∨ IsReal body) :
    StandsApart [.lexeme (.number (sign ++ body))] := by
  rcases hs with rfl | rfl
  · exact lexeme hb
  · exact fun rest hrest => ⟨⟨hb, hrest.ends (.number body)⟩, trivial⟩

/-- An identifier stands apart. -/
lemma word {w : String} (h : IsIdentifier w) : StandsApart (Sql.word w) := lexeme h

/-- A mark stands apart. -/
lemma mark (m : Mark) : StandsApart (Sql.mark m) := lexeme trivial

/-- A placeholder stands apart. -/
lemma placeholder (n : Nat) : StandsApart (Sql.placeholder n) := lexeme trivial

/-- A numeral stands apart. -/
lemma numeral (n : Nat) : StandsApart (Sql.numeral n) :=
  lexeme (.inl (Number.isDigits_decimalDigits n))

/-- What starts with a delimiter does not run into what is before it. -/
lemma append (hp : StandsApart ps) (hq : StandsApart qs) (h : Delimited (chars qs)) :
    StandsApart (ps ++ qs) := by
  intro rest hrest
  refine readable_append.mpr ⟨hp _ ?_, hq rest hrest⟩
  cases hchars : chars qs with
  | nil => exact hrest
  | cons c cs => exact fun d hd => h d (hchars ▸ hd)

/-- Pieces may be put together with a gap. -/
lemma append_gap (g : Gap) (hp : StandsApart ps) (hq : StandsApart qs) :
    StandsApart (ps ++ [.gap g] ++ qs) := by
  intro rest hrest
  rw [readable_append, readable_append]
  refine ⟨⟨hp _ ?_, trivial, trivial⟩, hq rest hrest⟩
  rw [chars_cons, List.append_assoc]
  exact delimited_gap g _

/-- Pieces may be put together with a blank. -/
lemma append_blank (hp : StandsApart ps) (hq : StandsApart qs) :
    StandsApart (ps ++ blank ++ qs) :=
  append_gap .blank hp hq

/-- A gap may be put before pieces. -/
lemma gap_append (g : Gap) (hp : StandsApart ps) : StandsApart ([.gap g] ++ ps) :=
  fun rest hrest => ⟨trivial, hp rest hrest⟩

/-- A blank may be put before pieces. -/
lemma blank_append (hp : StandsApart ps) : StandsApart (blank ++ ps) := gap_append .blank hp

/-- Pieces may be put together with a comma and a gap. -/
lemma append_comma_gap (g : Gap) (hp : StandsApart ps) (hq : StandsApart qs) :
    StandsApart (ps ++ (Sql.mark .comma ++ [.gap g]) ++ qs) := by
  intro rest hrest
  rw [readable_append, readable_append]
  refine ⟨⟨hp _ ?_, ⟨trivial, trivial⟩, trivial, trivial⟩, hq rest hrest⟩
  simp [Delimited, Sql.mark, Piece.chars, Lexeme.chars, Mark.chars]

/-- Pieces may be put together with a comma and a blank. -/
lemma append_comma (hp : StandsApart ps) (hq : StandsApart qs) :
    StandsApart (ps ++ (Sql.mark .comma ++ blank) ++ qs) :=
  append_comma_gap .blank hp hq

/-- Items may be put together with a separator that keeps two lists of pieces apart. -/
lemma intercalate {separator : List Piece}
    (hsep : ∀ {ps qs}, StandsApart ps → StandsApart qs → StandsApart (ps ++ separator ++ qs))
    {items : List (List Piece)} (h : ∀ ps ∈ items, StandsApart ps) :
    StandsApart (separator.intercalate items) := by
  induction items with
  | nil => exact fun _ _ => trivial
  | cons ps items ih =>
    have hps := h ps (by simp)
    have hrest := ih fun qs hqs => h qs (by simp [hqs])
    cases items with
    | nil => rwa [List.intercalate_singleton]
    | cons qs items =>
      rw [List.intercalate_cons_cons]
      exact hsep hps hrest

/-- Items may be put together with commas. -/
lemma commaList {items : List (List Piece)} (h : ∀ ps ∈ items, StandsApart ps) :
    StandsApart (Sql.commaList items) :=
  intercalate append_comma h

/-- Words may be put together with blanks. -/
lemma words {ws : List String} (h : ∀ w ∈ ws, IsIdentifier w) : StandsApart (Sql.words ws) := by
  refine intercalate append_blank fun ps hps => ?_
  obtain ⟨w, hw, rfl⟩ := List.mem_map.mp hps
  exact word (h w hw)

/-- Pieces may be put between parentheses. -/
lemma parenthesized (hp : StandsApart ps) : StandsApart (Sql.parenthesized ps) := by
  intro rest hrest
  unfold Sql.parenthesized
  rw [readable_append, readable_append]
  refine ⟨⟨⟨⟨trivial, trivial⟩, trivial⟩, hp _ ?_⟩, ⟨trivial, trivial⟩, trivial⟩
  simp [Delimited, Sql.mark, Piece.chars, Lexeme.chars, Mark.chars]

/-- A word may be put before an opening parenthesis. -/
lemma word_parenthesized {w : String} (hw : IsIdentifier w) (hp : StandsApart ps) :
    StandsApart (Sql.word w ++ Sql.parenthesized ps) := by
  intro rest hrest
  refine readable_append.mpr ⟨⟨⟨hw, ?_⟩, trivial⟩, parenthesized hp rest hrest⟩
  simp [Lexeme.Ends, Sql.parenthesized, Sql.mark, Piece.chars, Lexeme.chars, Mark.chars, isNameChar]

/-- Words may be put before an opening parenthesis. -/
lemma words_parenthesized {ws : List String} (h : ∀ w ∈ ws, IsIdentifier w)
    (hp : StandsApart ps) : StandsApart (Sql.words ws ++ Sql.parenthesized ps) := by
  induction ws with
  | nil => exact parenthesized hp
  | cons w ws ih =>
    obtain ⟨hw, hws⟩ := List.forall_mem_cons.mp h
    cases ws with
    | nil => exact word_parenthesized hw hp
    | cons v ws =>
      have hrest := append_blank (word hw) (ih hws)
      rwa [← List.append_assoc] at hrest

/-- Two words may be put together with a point. -/
lemma word_dot_word {v w : String} (hv : IsIdentifier v) (hw : IsIdentifier w) :
    StandsApart (Sql.word v ++ Sql.mark .dot ++ Sql.word w) := by
  intro rest hrest
  rw [readable_append, readable_append]
  refine ⟨⟨⟨⟨hv, ?_⟩, trivial⟩, ⟨trivial, trivial⟩, trivial⟩, word hw rest hrest⟩
  simp [Lexeme.Ends, Sql.mark, Piece.chars, Lexeme.chars, Mark.chars, isNameChar]

end StandsApart

end TypedSql.Sql
