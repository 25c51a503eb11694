import TypedSql.Proofs.Sql.Lexer

/-!
# Reading literals back

A literal of SQL text is a text between quotes, where a quote inside is written twice, the
hexadecimal digits of a blob between quotes after an `X`, or a number with a minus before it or
without one. A number is a real if it has a fraction or an exponent, and an integer if it has digits
alone. In front of whatever cannot continue it, the literal of a cell is read back as the cell.

## Main definitions

* `Sql.Literal` — the literals; `Sql.readLiteral` — the literal at the front of a text.
* `Sql.EndsLiteral` — what cannot continue a literal.
* `Sql.AreLiteral` — the lexemes of a literal.

## Main results

* `Sql.readLiteral_number` — a number with its sign is read back.
* `Sql.exists_lex_of_readLiteral` — a text that is one literal has the lexemes of one.
* `Cell.inline_isRead` — the literal of a cell is read back as one literal of its value and type.
-/

set_option autoImplicit false

namespace TypedSql.Sql

open Number (IsDigits IsReal IsSign Binary64)
open Text (isNameChar)

/-! ## The reader -/

/-- The literals of SQL text. -/
inductive Literal where
  | integer (n : Int)
  /-- A number with a fraction or an exponent, as it is written. -/
  | real (chars : List Char)
  | text (s : List Char)
  | blob (bytes : List UInt8)
  deriving DecidableEq, Repr

namespace Literal

/-- A number without a sign: an integer if it has digits alone. -/
def ofNumber (body : List Char) : Literal :=
  if body.all Char.isDigit then .integer (Nat.ofDigitChars 10 body 0) else .real body

/-- A number with a minus before it. -/
def negated : Literal → Literal
  | .integer n => .integer (-n)
  | .real chars => .real ('-' :: chars)
  | .text s => .text s
  | .blob bytes => .blob bytes

/-- The integer, the text or the blob that a literal stands for. -/
def cell? : Literal → Option Cell
  | .integer n => some (.int (Int64.ofInt n))
  | .text s => some (.text (String.ofList s))
  | .blob bytes => some (.blob bytes)
  | .real _ => none

end Literal

/-- The number without a sign at the front of a text, and what follows it. -/
def readUnsigned : List Char → Option (Literal × List Char)
  | [] => none
  | c :: rest =>
    if c.isDigit then
      let (body, after) := readNumber (c :: rest)
      some (.ofNumber body, after)
    else none

/-- The literal at the front of a text, and what follows it. -/
def readLiteral : List Char → Option (Literal × List Char)
  | '\'' :: rest => (readText rest).map fun (s, after) => (.text s, after)
  | 'X' :: '\'' :: rest => (readBlob rest).map fun (bytes, after) => (.blob bytes, after)
  | '-' :: rest => (readUnsigned rest).map fun (l, after) => (l.negated, after)
  | cs => readUnsigned cs

/-- What cannot continue a literal: neither a character of names, nor a point, nor a quote comes
first in it. -/
def EndsLiteral (rest : List Char) : Prop :=
  ∀ c ∈ rest.head?, isNameChar c = false ∧ c ≠ '.' ∧ c ≠ '\''

/-- What ends a literal ends a number. -/
lemma EndsLiteral.endsNumber {rest : List Char} (h : EndsLiteral rest) : EndsNumber rest :=
  fun c hc => ⟨(h c hc).1, (h c hc).2.1⟩

/-! ## Numbers -/

/-- Digits alone are an integer. -/
lemma Literal.ofNumber_of_isDigits {body : List Char} (h : IsDigits body) :
    ofNumber body = .integer (Nat.ofDigitChars 10 body 0) := by
  rw [ofNumber, if_pos (List.all_eq_true.mpr h.2)]

/-- Digits with a fraction or an exponent are a real. -/
lemma Literal.ofNumber_of_isReal {body : List Char} (h : IsReal body) :
    ofNumber body = .real body := by
  rw [ofNumber, h.all_isDigit]
  rfl

/-- A number without a sign is read up to what ends it. -/
lemma readUnsigned_append {body rest : List Char} (hbody : IsDigits body ∨ IsReal body)
    (h : EndsNumber rest) : readUnsigned (body ++ rest) = some (.ofNumber body, rest) := by
  obtain ⟨d, ds, rfl, hd⟩ := exists_digit_cons hbody
  have hread := readNumber_append hbody h
  rw [List.cons_append] at hread ⊢
  rw [readUnsigned, if_pos hd, hread]

/-- A number with its sign is read back. -/
theorem readLiteral_number {sign body rest : List Char} (hs : IsSign sign)
    (hbody : IsDigits body ∨ IsReal body) (h : EndsNumber rest) :
    readLiteral (sign ++ body ++ rest) =
      some (if sign = [] then .ofNumber body else (Literal.ofNumber body).negated, rest) := by
  have hunsigned := readUnsigned_append hbody h
  rcases hs with rfl | rfl
  · -- the first digit starts no other literal
    obtain ⟨d, ds, rfl, hd⟩ := exists_digit_cons hbody
    have hother : d ≠ '\'' ∧ d ≠ 'X' ∧ d ≠ '-' := by
      refine ⟨?_, ?_, ?_⟩ <;> rintro rfl <;> cases hd
    rw [List.nil_append, if_pos rfl, ← hunsigned, List.cons_append]
    unfold readLiteral
    split <;> simp_all
  · rw [List.cons_append, List.nil_append, List.cons_append, readLiteral, hunsigned]
    rfl

/-- An integer is read back from its digits and its sign. -/
lemma readLiteral_intChars (n : Int) {rest : List Char} (h : EndsNumber rest) :
    readLiteral (Cell.intChars n ++ rest) = some (.integer n, rest) := by
  have hdigits := Number.isDigits_decimalDigits n.natAbs
  have hbody : Literal.ofNumber (Number.decimalDigits n.natAbs) = .integer n.natAbs := by
    rw [Literal.ofNumber_of_isDigits hdigits, Number.decimalDigits, Nat.ofDigitChars_ten_toDigits]
  by_cases hn : n < 0
  · have hread := readLiteral_number (.inr rfl) (.inl hdigits) h
    have hvalue : -(n.natAbs : Int) = n := by omega
    rw [Cell.intChars, if_pos hn, hread, if_neg (by simp), hbody, Literal.negated, hvalue]
  · have hread := readLiteral_number (.inl rfl) (.inl hdigits) h
    have hvalue : (n.natAbs : Int) = n := by omega
    rw [Cell.intChars, if_neg hn, hread, if_pos rfl, hbody, hvalue]

/-! ## Texts that are one literal -/

/-- The lexemes of a literal; a minus is apart from its number. -/
inductive AreLiteral : List Lexeme → Prop where
  | number (body : List Char) : AreLiteral [.number body]
  | negated (body : List Char) : AreLiteral [.mark .minus, .number body]
  | text (s : List Char) : AreLiteral [.text s]
  | blob (bytes : List UInt8) : AreLiteral [.blob bytes]

namespace AreLiteral

variable {ls : List Lexeme}

/-- No word is part of a literal. -/
lemma word_notMem (h : AreLiteral ls) (w : String) : .word w ∉ ls := by
  cases h <;> simp

/-- There are no placeholders in a literal. -/
lemma placeholder_notMem (h : AreLiteral ls) (n : Nat) : .placeholder n ∉ ls := by
  cases h <;> simp

/-- A literal has at most two lexemes, a sign and a number. -/
lemma length_le (h : AreLiteral ls) : ls.length ≤ 2 := by
  cases h <;> simp

end AreLiteral

/-- A text that is scanned as one lexeme has it as its only lexeme. -/
lemma lex_of_scan {c : Char} {rest : List Char} {l : Lexeme} (hwhite : c.isWhitespace = false)
    (h : scan c rest = some (l, [])) : lex (c :: rest) = some [l] := by
  rw [lex, hwhite, h]
  simp [lex]

/-- A number without a sign that takes up a text is its only lexeme, and no sign. -/
lemma lex_of_readUnsigned {cs : List Char} {l : Literal} (h : readUnsigned cs = some (l, [])) :
    ∃ body, lex cs = some [.number body] ∧ cs.head? ≠ some '-' := by
  cases cs with
  | nil => cases h
  | cons c rest =>
    rw [readUnsigned] at h
    split at h
    · rename_i hdigit
      obtain ⟨hstart, hwhite, hquote⟩ := not_isNameStart_of_isDigit hdigit
      have hother : c ≠ 'X' ∧ c ≠ 'x' ∧ c ≠ '-' := by
        refine ⟨?_, ?_, ?_⟩ <;> rintro rfl <;> cases hdigit
      have hscan : scan c rest = some (.number (readNumber (c :: rest)).1, []) := by
        simp_all [scan]
      exact ⟨_, lex_of_scan hwhite hscan, by simpa using hother.2.2⟩
    · cases h

/-- A text that is one literal has the lexemes of a literal. -/
theorem exists_lex_of_readLiteral {cs : List Char} {l : Literal}
    (h : readLiteral cs = some (l, [])) : ∃ ls, lex cs = some ls ∧ AreLiteral ls := by
  unfold readLiteral at h
  split at h
  · rename_i rest
    obtain ⟨⟨s, after⟩, hread, heq⟩ := Option.map_eq_some_iff.mp h
    cases heq
    exact ⟨_, lex_of_scan (by decide) (by rw [scan, if_pos rfl, hread]; rfl), .text s⟩
  · rename_i rest
    obtain ⟨⟨bytes, after⟩, hread, heq⟩ := Option.map_eq_some_iff.mp h
    cases heq
    exact ⟨_, lex_of_scan (by decide) (by simp [scan, hread]), .blob bytes⟩
  · rename_i rest
    obtain ⟨⟨number, after⟩, hread, heq⟩ := Option.map_eq_some_iff.mp h
    cases heq
    obtain ⟨body, hlex, hsign⟩ := lex_of_readUnsigned hread
    have hends : (Lexeme.mark .minus).Ends rest := fun c hc heq => hsign (heq ▸ hc)
    have hminus := lex_chars_append (l := .mark .minus) trivial hends
    exact ⟨_, by simpa [Lexeme.chars, Mark.chars, hlex] using hminus, .negated body⟩
  · obtain ⟨body, hlex, -⟩ := lex_of_readUnsigned h
    exact ⟨_, hlex, .number body⟩

end TypedSql.Sql

/-! ## The literals of cells -/

namespace TypedSql.Cell

open Number (IsReal IsSign Binary64)
open Sql (Literal readLiteral EndsLiteral)

/-- The literal of a blob is read back. -/
lemma readLiteral_blob (bytes : List UInt8) (rest : List Char) :
    readLiteral ((Cell.blob bytes).inline.toList ++ rest) = some (.blob bytes, rest) := by
  simp [inline, lexeme, Sql.Lexeme.chars, readLiteral, Sql.readBlob_upperHex]

section Read

variable {rest : List Char} (h : EndsLiteral rest)

include h

/-- The literal of an integer is read back. -/
lemma readLiteral_int (n : Int64) :
    readLiteral ((Cell.int n).inline.toList ++ rest) = some (.integer n.toInt, rest) := by
  rw [inline, String.toList_ofList]
  exact Sql.readLiteral_intChars n.toInt h.endsNumber

/-- The literal of a truth value is read as one or zero. -/
lemma readLiteral_bool (b : Bool) :
    readLiteral ((Cell.bool b).inline.toList ++ rest) =
      some (.integer (if b then 1 else 0), rest) := by
  -- a truth value is written as the integer that it stands for
  have hinteger := Sql.readLiteral_intChars (if b then 1 else 0) h.endsNumber
  rw [inline, String.toList_ofList]
  cases b <;> exact hinteger

/-- The literal of a text is read back. -/
lemma readLiteral_text (s : String) :
    readLiteral ((Cell.text s).inline.toList ++ rest) = some (.text s.toList, rest) := by
  have hread := Sql.readText_doubleQuotes s.toList fun c hc => (h c hc).2.2
  simp [inline, lexeme, Sql.Lexeme.chars, readLiteral, hread]

/-- A finite real is read as a real: a minus or nothing, and digits with a fraction or an
exponent. -/
lemma readLiteral_real {x : Binary64} (hx : x.isFinite = true) :
    ∃ sign body, IsSign sign ∧ IsReal body ∧ (Cell.real x).inline.toList = sign ++ body ∧
      readLiteral ((Cell.real x).inline.toList ++ rest) = some (.real (sign ++ body), rest) := by
  obtain ⟨sign, body, htext, hsign, hbody⟩ := Number.realText_of_isFinite hx
  have hinline : (Cell.real x).inline.toList = sign ++ body := by
    rw [inline, lexeme, Sql.Lexeme.chars, String.toList_ofList, htext]
  refine ⟨sign, body, hsign, hbody, hinline, ?_⟩
  rw [hinline, Sql.readLiteral_number hsign (.inr hbody) h.endsNumber,
    Literal.ofNumber_of_isReal hbody]
  rcases hsign with rfl | rfl <;> rfl

/-- The literal of an integer, a text or a blob stands for that cell. -/
lemma exists_readLiteral {v : Cell} (hv : v.type ∈ [.integer, .text, .blob]) :
    ∃ l, readLiteral (v.inline.toList ++ rest) = some (l, rest) ∧ l.cell? = some v := by
  cases v with
  | int n => exact ⟨_, readLiteral_int h n, by rw [Literal.cell?, Int64.ofInt_toInt]⟩
  | text s => exact ⟨_, readLiteral_text h s, by rw [Literal.cell?, String.ofList_toList]⟩
  | blob bytes => exact ⟨_, readLiteral_blob bytes rest, rfl⟩
  | null | bool _ | real _ => simp [type] at hv

end Read

/-- The literals of integers, texts and blobs tell their cells apart. -/
lemma eq_of_inline_eq {v v' : Cell} (hv : v.type ∈ [.integer, .text, .blob])
    (hv' : v'.type ∈ [.integer, .text, .blob]) (heq : v.inline = v'.inline) : v = v' := by
  have hend : EndsLiteral [] := nofun
  obtain ⟨l, hread, hcell⟩ := exists_readLiteral hend hv
  obtain ⟨l', hread', hcell'⟩ := exists_readLiteral hend hv'
  rw [heq, hread'] at hread
  cases hread
  exact Option.some.inj (hcell.symm.trans hcell')

/-- **The literal of a cell is read back as one literal of its value and type.** In front of a text
that cannot continue it, the literal of an integer, of a text or of a blob is read as that integer,
text or blob, that of a truth value as one or zero, and that of a finite real as a number with a
fraction or an exponent. Equal literals of integers, texts and blobs are those of equal cells.

Proof sketch. The quotes inside a text are doubled, and the digits of a blob are no quotes, so that
the closing quote is the first one to end the literal. A number ends where no digit, point or
exponent follows; it is a real if one of its characters is no digit. -/
theorem inline_isRead :
    (∀ rest, EndsLiteral rest →
      (∀ n, readLiteral ((Cell.int n).inline.toList ++ rest) = some (.integer n.toInt, rest)) ∧
      (∀ s, readLiteral ((Cell.text s).inline.toList ++ rest) = some (.text s.toList, rest)) ∧
      (∀ bytes,
        readLiteral ((Cell.blob bytes).inline.toList ++ rest) = some (.blob bytes, rest)) ∧
      (∀ b, readLiteral ((Cell.bool b).inline.toList ++ rest) =
        some (.integer (if b then 1 else 0), rest)) ∧
      ∀ x : Binary64, x.isFinite = true → ∃ sign body, IsSign sign ∧ IsReal body ∧
        (Cell.real x).inline.toList = sign ++ body ∧
        readLiteral ((Cell.real x).inline.toList ++ rest) = some (.real (sign ++ body), rest)) ∧
    ∀ v v' : Cell, v.type ∈ [.integer, .text, .blob] → v'.type ∈ [.integer, .text, .blob] →
      v.inline = v'.inline → v = v' := by
  refine ⟨fun rest h => ⟨readLiteral_int h, readLiteral_text h, fun bytes => ?_,
    readLiteral_bool h, fun x hx => readLiteral_real h hx⟩, fun v v' hv hv' => ?_⟩
  · exact readLiteral_blob bytes rest
  · exact eq_of_inline_eq hv hv'

end TypedSql.Cell

namespace TypedSql.Sample

open Sql (EndsLiteral Literal readLiteral)

/-- In front of a further condition, the lowest integer and a text with quotes in it are read back,
and the largest real is read as a real. -/
theorem literals_areRead :
    EndsLiteral " AND".toList ∧
    readLiteral ((Cell.int Int64.minValue).inline.toList ++ " AND".toList) =
      some (.integer (-9223372036854775808), " AND".toList) ∧
    readLiteral ((Cell.text "'it''s'").inline.toList ++ " AND".toList) =
      some (.text "'it''s'".toList, " AND".toList) ∧
    (∃ chars, readLiteral ((Cell.real ⟨0x7FEFFFFFFFFFFFFF⟩).inline.toList ++ " AND".toList) =
      some (.real chars, " AND".toList)) ∧
    (Cell.text "1").inline ≠ (Cell.int 1).inline := by
  have hend : EndsLiteral " AND".toList := by
    rintro c ⟨⟩
    decide
  obtain ⟨hint, htext, -, -, hreal⟩ := Cell.inline_isRead.1 " AND".toList hend
  obtain ⟨sign, body, -, -, -, hread⟩ := hreal ⟨0x7FEFFFFFFFFFFFFF⟩ (by decide +kernel)
  refine ⟨hend, hint Int64.minValue, htext "'it''s'", ⟨_, hread⟩, fun heq => ?_⟩
  have hcell := Cell.inline_isRead.2 (.text "1") (.int 1) (by decide) (by decide) heq
  cases hcell

end TypedSql.Sample
