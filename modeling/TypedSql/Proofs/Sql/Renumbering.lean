import TypedSql.Proofs.Sql.Pieces

/-!
# Placeholders with other positions

In a text, what looks like a placeholder is one unless it stands between single quotes. So the
placeholders of a text can be given other positions character by character, without reading the
lexemes of the text. On assembled text this is the same as giving other positions to the
placeholders among its pieces.

## Main definitions

* `Sql.renumber` — a text whose placeholders have other positions.
* `Sql.Piece.renumber`, `Sql.renumberPieces` — pieces with other positions.

## Main results

* `Sql.renumber_spell` — the text of renumbered pieces.
-/

set_option autoImplicit false

namespace TypedSql.Sql

open Number (IsDigits IsReal IsSign decimalDigits)
open Text (isNameChar IsIdentifier)

variable (s : Nat → Nat)

/-! ## Texts -/

/-- A text, inside of single quotes or not, in which every placeholder outside of them has another
position. A quote that is written twice ends the text in quotes and starts it again. -/
def renumberChars (quoted : Bool) : List Char → List Char
  | [] => []
  | c :: rest =>
    if c = '\'' then c :: renumberChars (!quoted) rest
    else if c = '?' ∧ quoted = false ∧ rest.takeWhile Char.isDigit ≠ [] then
      '?' :: (decimalDigits (s (Nat.ofDigitChars 10 (rest.takeWhile Char.isDigit) 0)) ++
        renumberChars quoted (rest.dropWhile Char.isDigit))
    else c :: renumberChars quoted rest
termination_by cs => cs.length
decreasing_by
  · simp
  · exact Nat.lt_succ_of_le (List.length_dropWhile_le _ _)
  · simp

/-- A text in which every placeholder has another position. -/
def renumber (text : String) : String := String.ofList (renumberChars s false text.toList)

/-! ## Parts of a text -/

/-- A quote starts or ends a text in quotes. -/
lemma renumberChars_quote (quoted : Bool) (rest : List Char) :
    renumberChars s quoted ('\'' :: rest) = '\'' :: renumberChars s (!quoted) rest := by
  rw [renumberChars, if_pos rfl]

/-- What has no quote is kept between quotes. -/
lemma renumberChars_quoted {front : List Char} (h : ∀ c ∈ front, c ≠ '\'') (rest : List Char) :
    renumberChars s true (front ++ rest) = front ++ renumberChars s true rest := by
  induction front with
  | nil => rfl
  | cons c front ih =>
    obtain ⟨hc, hfront⟩ := List.forall_mem_cons.mp h
    rw [List.cons_append, renumberChars, if_neg hc, if_neg (by simp), ih hfront, List.cons_append]

/-- What has neither a quote nor a question mark is kept. -/
lemma renumberChars_plain {front : List Char} (h : ∀ c ∈ front, c ≠ '\'' ∧ c ≠ '?')
    (rest : List Char) :
    renumberChars s false (front ++ rest) = front ++ renumberChars s false rest := by
  induction front with
  | nil => rfl
  | cons c front ih =>
    obtain ⟨⟨hquote, hmark⟩, hfront⟩ := List.forall_mem_cons.mp h
    rw [List.cons_append, renumberChars, if_neg hquote, if_neg (fun h => hmark h.1), ih hfront,
      List.cons_append]

/-- A text with its quotes written twice is kept between quotes. -/
lemma renumberChars_doubleQuotes (text rest : List Char) :
    renumberChars s true (doubleQuotes text ++ rest) =
      doubleQuotes text ++ renumberChars s true rest := by
  induction text with
  | nil => rfl
  | cons c text ih =>
    by_cases hc : c = '\''
    · simp [doubleQuotes, renumberChars, hc, ih]
    · simp [doubleQuotes, renumberChars, hc, ih]

/-- A placeholder gets its new position, if no digit follows it. -/
lemma renumberChars_placeholder (n : Nat) {rest : List Char}
    (h : ∀ c ∈ rest.head?, c.isDigit = false) :
    renumberChars s false ('?' :: decimalDigits n ++ rest) =
      '?' :: decimalDigits (s n) ++ renumberChars s false rest := by
  have hdigits := Number.isDigits_decimalDigits n
  obtain ⟨htake, hdrop⟩ := takeWhile_append_stop rest hdigits.2 h
  have hvalue : Nat.ofDigitChars 10 (decimalDigits n) 0 = n := Nat.ofDigitChars_ten_toDigits
  rw [List.cons_append, renumberChars, if_neg (by decide), htake, hdrop, hvalue,
    if_pos ⟨rfl, rfl, hdigits.1⟩, List.cons_append]

/-! ## Pieces -/

/-- A lexeme in which a placeholder has another position. -/
def Lexeme.renumber : Lexeme → Lexeme
  | .placeholder n => .placeholder (s n)
  | l => l

/-- A piece in which a placeholder has another position. -/
def Piece.renumber : Piece → Piece
  | .lexeme l => .lexeme (l.renumber s)
  | .gap g => .gap g

/-- A list of pieces in which the placeholders have other positions. -/
def renumberPieces (ps : List Piece) : List Piece := ps.map (Piece.renumber s)

/-- The characters of an identifier are neither quotes nor question marks. -/
lemma plain_of_isIdentifier {w : String} (h : IsIdentifier w) :
    ∀ c ∈ w.toList, c ≠ '\'' ∧ c ≠ '?' := by
  have hname : ∀ c ∈ w.toList, isNameChar c = true := by
    unfold IsIdentifier at h
    cases hchars : w.toList with
    | nil => simp
    | cons c cs =>
      rw [hchars, Text.isName, Bool.and_eq_true, List.all_eq_true] at h
      exact List.forall_mem_cons.mpr ⟨Text.isNameChar_of_isNameStart h.1, h.2⟩
  intro c hc
  refine ⟨?_, ?_⟩ <;> rintro rfl <;> exact absurd (hname _ hc) (by decide)

/-- A digit opens neither a text nor a placeholder. -/
lemma plain_of_isDigit {c : Char} (h : c.isDigit = true) : c ≠ '\'' ∧ c ≠ '?' := by
  refine ⟨?_, ?_⟩ <;> rintro rfl <;> exact absurd h (by decide)

/-- The characters of a number are neither quotes nor question marks. -/
lemma plain_of_number {body : List Char} (h : IsDigits body ∨ IsReal body) :
    ∀ c ∈ body, c ≠ '\'' ∧ c ≠ '?' := by
  have digits {ds : List Char} (hds : IsDigits ds) : ∀ c ∈ ds, c ≠ '\'' ∧ c ≠ '?' :=
    fun c hc => plain_of_isDigit (hds.2 c hc)
  have sign {ds : List Char} (hds : IsSign ds) : ∀ c ∈ ds, c ≠ '\'' ∧ c ≠ '?' := by
    rcases hds with rfl | rfl <;> simp
  rcases h with hd | hr
  · exact digits hd
  · cases hr with
    | point hw hp =>
      simp only [List.forall_mem_append, List.forall_mem_cons]
      exact ⟨digits hw, by decide, digits hp⟩
    | power hw hs hd =>
      simp only [List.forall_mem_append, List.forall_mem_cons]
      exact ⟨digits hw, by decide, sign hs, digits hd⟩
    | pointPower hw hp hs hd =>
      simp only [List.forall_mem_append, List.forall_mem_cons]
      exact ⟨digits hw, by decide, digits hp, by decide, sign hs, digits hd⟩

/-- A plain lexeme in front of what cannot continue it is renumbered by itself. -/
lemma renumberChars_lexeme {l : Lexeme} {rest : List Char} (hl : l.IsPlain) (h : l.Ends rest) :
    renumberChars s false (l.chars ++ rest) =
      (l.renumber s).chars ++ renumberChars s false rest := by
  cases l with
  | word w =>
    exact renumberChars_plain s (plain_of_isIdentifier hl) rest
  | number body => exact renumberChars_plain s (plain_of_number hl) rest
  | text text =>
    simp only [Lexeme.chars, Lexeme.renumber, List.cons_append, List.append_assoc,
      List.nil_append]
    rw [renumberChars_quote, Bool.not_false, renumberChars_doubleQuotes, renumberChars_quote,
      Bool.not_true]
  | blob bytes =>
    simp only [Lexeme.chars, Lexeme.renumber, List.cons_append, List.append_assoc,
      List.nil_append]
    rw [renumberChars, if_neg (by decide), if_neg (by simp), renumberChars_quote, Bool.not_false,
      renumberChars_quoted s fun c => ne_quote_of_mem_upperHex, renumberChars_quote, Bool.not_true]
  | placeholder n => exact renumberChars_placeholder s n h
  | mark m =>
    refine renumberChars_plain s ?_ rest
    cases m <;> simp [Lexeme.chars, Mark.chars]

/-- A readable piece is renumbered by itself. -/
lemma Piece.IsReadable.renumberChars_append {p : Piece} {rest : List Char}
    (h : p.IsReadable rest) :
    renumberChars s false (p.chars ++ rest) =
      (p.renumber s).chars ++ renumberChars s false rest := by
  unfold Piece.IsReadable at h
  split at h
  · rename_i g
    refine renumberChars_plain s ?_ rest
    cases g <;> simp [Piece.chars, Gap.chars]
  · rename_i body
    refine renumberChars_plain s (List.forall_mem_cons.mpr ⟨by decide, ?_⟩) rest
    exact plain_of_number h.1
  · exact renumberChars_lexeme s h.1 h.2

/-- The text of readable pieces is renumbered piece by piece. -/
lemma renumberChars_chars {ps : List Piece} {rest : List Char} (h : Readable ps rest) :
    renumberChars s false (chars ps ++ rest) =
      chars (renumberPieces s ps) ++ renumberChars s false rest := by
  induction ps with
  | nil => rfl
  | cons p ps ih =>
    rw [chars_cons, List.append_assoc, h.1.renumberChars_append, ih h.2, ← List.append_assoc]
    rfl

/-- The text of pieces that stand apart, with other positions, is that of the pieces with other
positions. -/
theorem renumber_spell {ps : List Piece} (h : StandsApart ps) :
    renumber s (spell ps) = spell (renumberPieces s ps) := by
  have hchars := renumberChars_chars s (h [] (by simp [Delimited]))
  simp only [List.append_nil] at hchars
  rw [renumber, spell, String.toList_ofList, hchars, spell]
  simp [renumberChars]

/-! ## Assembled pieces -/

section Assembled

variable (ps qs : List Piece)

/-- Pieces are renumbered one after the other. -/
@[simp]
lemma renumberPieces_append :
    renumberPieces s (ps ++ qs) = renumberPieces s ps ++ renumberPieces s qs :=
  List.map_append

/-- A word stays as it is. -/
@[simp]
lemma renumberPieces_word (w : String) : renumberPieces s (word w) = word w := rfl

/-- A mark stays as it is. -/
@[simp]
lemma renumberPieces_mark (m : Mark) : renumberPieces s (mark m) = mark m := rfl

/-- A blank stays as it is. -/
@[simp]
lemma renumberPieces_blank : renumberPieces s blank = blank := rfl

/-- A numeral stays as it is. -/
@[simp]
lemma renumberPieces_numeral (n : Nat) : renumberPieces s (numeral n) = numeral n := rfl

/-- A placeholder gets its new position. -/
@[simp]
lemma renumberPieces_placeholder (n : Nat) :
    renumberPieces s (placeholder n) = placeholder (s n) := rfl

/-- What stands between parentheses is renumbered there. -/
@[simp]
lemma renumberPieces_parenthesized :
    renumberPieces s (parenthesized ps) = parenthesized (renumberPieces s ps) := by
  simp [parenthesized]

/-- Separated items are renumbered one by one, and so is the separator. -/
lemma renumberPieces_intercalate (separator : List Piece) (items : List (List Piece)) :
    renumberPieces s (separator.intercalate items) =
      (renumberPieces s separator).intercalate (items.map (renumberPieces s)) := by
  induction items with
  | nil => rfl
  | cons ps items ih =>
    cases items with
    | nil => simp only [List.map_cons, List.map_nil, List.intercalate_singleton]
    | cons qs items =>
      rw [List.intercalate_cons_cons, renumberPieces_append, renumberPieces_append, ih]
      simp only [List.map_cons, List.intercalate_cons_cons]

/-- Words stay as they are. -/
@[simp]
lemma renumberPieces_words (ws : List String) : renumberPieces s (words ws) = words ws := by
  rw [words, renumberPieces_intercalate, List.map_map]
  rfl

/-- The items of a list are renumbered one by one. -/
@[simp]
lemma renumberPieces_commaList (items : List (List Piece)) :
    renumberPieces s (commaList items) = commaList (items.map (renumberPieces s)) :=
  renumberPieces_intercalate s _ items

end Assembled

end TypedSql.Sql
