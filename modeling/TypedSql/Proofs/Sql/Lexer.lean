import Mathlib.Tactic.IntervalCases
import TypedSql.Sql.Lexeme
import TypedSql.Text.Identifier
import TypedSql.Proofs.Number.RealForm

/-!
# Reading SQL text as lexemes

A reader of SQL text takes the longest lexeme from its front, skips white space, and goes on. A text
literal runs from an opening quote to the first quote that is not followed by another one; two
quotes inside stand for one. A sign is a lexeme of its own, and the marks that open a comment are
refused. The reader knows nothing of how SQL text is assembled.

## Main definitions

* `Sql.scan` — the lexeme at the front of a text; `Sql.lex` — the lexemes of a text.
* `Sql.Lexeme.Ends` — what cannot continue a lexeme.

## Main results

* `Sql.scan_chars` — a lexeme is read back in front of what cannot continue it.
* `Sql.lex_chars_append` — a lexeme in front of a text comes first among the lexemes.
-/

set_option autoImplicit false

namespace TypedSql.Sql

open Number (IsDigits IsReal IsSign decimalDigits)
open Text (isNameStart isNameChar IsIdentifier)

/-! ## The reader -/

/-- The text after an opening quote up to the closing one, and what follows it. -/
def readText : List Char → Option (List Char × List Char)
  | [] => none
  | '\'' :: '\'' :: rest => (readText rest).map fun (s, after) => ('\'' :: s, after)
  | '\'' :: rest => some ([], rest)
  | c :: rest => (readText rest).map fun (s, after) => (c :: s, after)

/-- The bytes after the opening quote of a blob up to the closing one, and what follows it. -/
def readBlob (cs : List Char) : Option (List UInt8 × List Char) :=
  match cs.dropWhile (· != '\'') with
  | [] => none
  | _ :: after => (Text.bytesOfHex? (cs.takeWhile (· != '\''))).map (·, after)

/-- The fraction at the front of a text, if there is one, and what follows it. -/
def readFraction : List Char → List Char × List Char
  | '.' :: rest => ('.' :: rest.takeWhile Char.isDigit, rest.dropWhile Char.isDigit)
  | cs => ([], cs)

/-- The sign at the front of a text, if there is one, and what follows it. -/
def readSign : List Char → List Char × List Char
  | '-' :: rest => (['-'], rest)
  | '+' :: rest => (['+'], rest)
  | cs => ([], cs)

/-- The exponent at the front of a text, if there is one, and what follows it. -/
def readExponent : List Char → List Char × List Char
  | [] => ([], [])
  | c :: rest =>
    if c = 'e' ∨ c = 'E' then
      let (sign, digits) := readSign rest
      (c :: (sign ++ digits.takeWhile Char.isDigit), digits.dropWhile Char.isDigit)
    else ([], c :: rest)

/-- The number without a sign at the front of a text, and what follows it. -/
def readNumber (cs : List Char) : List Char × List Char :=
  let (fraction, afterFraction) := readFraction (cs.dropWhile Char.isDigit)
  let (exponent, afterExponent) := readExponent afterFraction
  (cs.takeWhile Char.isDigit ++ (fraction ++ exponent), afterExponent)

/-- The mark that starts with `c`, and what follows it. Two minuses open a comment, and so do a
slash and a star. -/
def readMark (c : Char) (rest : List Char) : Option (Mark × List Char) :=
  match c, rest with
  | '!', '=' :: after => some (.notEqual, after)
  | '<', '=' :: after => some (.lessEqual, after)
  | '<', '>' :: after => some (.notEqual, after)
  | '<', after => some (.less, after)
  | '>', '=' :: after => some (.greaterEqual, after)
  | '>', after => some (.greater, after)
  | '|', '|' :: after => some (.bars, after)
  | '-', '-' :: _ => none
  | '-', after => some (.minus, after)
  | '/', '*' :: _ => none
  | '/', after => some (.slash, after)
  | '=', after => some (.equal, after)
  | '+', after => some (.plus, after)
  | '*', after => some (.star, after)
  | '%', after => some (.percent, after)
  | '(', after => some (.opening, after)
  | ')', after => some (.closing, after)
  | ',', after => some (.comma, after)
  | '.', after => some (.dot, after)
  | _, _ => none

/-- The lexeme at the front of the text `c :: rest`, and what follows it. -/
def scan (c : Char) (rest : List Char) : Option (Lexeme × List Char) :=
  if c = '\'' then (readText rest).map fun (s, after) => (.text s, after)
  else if (c = 'X' ∨ c = 'x') ∧ rest.head? = some '\'' then
    (readBlob rest.tail).map fun (bytes, after) => (.blob bytes, after)
  else if isNameStart c then
    some (.word (String.ofList (c :: rest.takeWhile isNameChar)), rest.dropWhile isNameChar)
  else if c.isDigit then
    let (digits, after) := readNumber (c :: rest)
    some (.number digits, after)
  else if c = '?' then
    if rest.takeWhile Char.isDigit = [] then none
    else some (.placeholder (Nat.ofDigitChars 10 (rest.takeWhile Char.isDigit) 0),
      rest.dropWhile Char.isDigit)
  else (readMark c rest).map fun (m, after) => (.mark m, after)

/-- The lexemes of a text. The test for progress always holds; it lets the recursion be seen to
end. -/
def lex : List Char → Option (List Lexeme)
  | [] => some []
  | c :: rest =>
    if c.isWhitespace then lex rest
    else
      match scan c rest with
      | none => none
      | some (l, after) =>
        if after.length ≤ rest.length then (lex after).map (l :: ·) else none
termination_by cs => cs.length

/-! ## Parts of lexemes -/

/-- A front whose characters pass a test ends where the test fails. -/
lemma takeWhile_append_stop {p : Char → Bool} {front : List Char} (rest : List Char)
    (hfront : ∀ c ∈ front, p c = true) (hrest : ∀ c ∈ rest.head?, p c = false) :
    (front ++ rest).takeWhile p = front ∧ (front ++ rest).dropWhile p = rest := by
  rw [List.takeWhile_append_of_pos hfront, List.dropWhile_append_of_pos hfront]
  cases rest with
  | nil => simp
  | cons c rest => simp [hrest c (by simp)]

/-- A text is read back between its quotes. -/
lemma readText_doubleQuotes (s : List Char) {rest : List Char}
    (h : ∀ c ∈ rest.head?, c ≠ '\'') :
    readText (doubleQuotes s ++ '\'' :: rest) = some (s, rest) := by
  induction s with
  | nil =>
    cases rest with
    | nil => rfl
    | cons c rest =>
      have hc : c ≠ '\'' := h c (by simp)
      simp [doubleQuotes, readText, hc]
  | cons c s ih =>
    by_cases hc : c = '\''
    · simp [doubleQuotes, readText, hc, ih]
    · simp [doubleQuotes, readText, hc, ih]

/-- A hexadecimal digit is read back. -/
lemma hexValue?_upperHexDigit : ∀ n < 16, Text.hexValue? (Text.upperHexDigit n) = some n := by
  decide

/-- No hexadecimal digit is a quote. -/
lemma upperHexDigit_ne_quote : ∀ n < 16, Text.upperHexDigit n ≠ '\'' := by
  decide

/-- Bytes are read back from their digits. -/
lemma bytesOfHex?_upperHex (bytes : List UInt8) :
    Text.bytesOfHex? (bytes.flatMap Text.upperHexByte) = some bytes := by
  induction bytes with
  | nil => rfl
  | cons b bytes ih =>
    have hlt : b.toNat < 256 := b.toNat_lt
    have hhigh := hexValue?_upperHexDigit (b.toNat / 16) (by omega)
    have hlow := hexValue?_upperHexDigit (b.toNat % 16) (by omega)
    have hvalue : 16 * (b.toNat / 16) + b.toNat % 16 = b.toNat := Nat.div_add_mod _ _
    rw [List.flatMap_cons, Text.upperHexByte, List.cons_append, List.cons_append, List.nil_append,
      Text.bytesOfHex?, hhigh, hlow, ih]
    simp only [Option.pure_def, Option.bind_eq_bind, Option.bind_some, hvalue, UInt8.ofNat_toNat]

/-- The digits of bytes are no quotes. -/
lemma ne_quote_of_mem_upperHex {bytes : List UInt8} {c : Char}
    (hc : c ∈ bytes.flatMap Text.upperHexByte) : c ≠ '\'' := by
  obtain ⟨b, -, hb⟩ := List.mem_flatMap.mp hc
  have hlt : b.toNat < 256 := b.toNat_lt
  simp only [Text.upperHexByte, List.mem_cons, List.not_mem_nil, or_false] at hb
  rcases hb with rfl | rfl
  · exact upperHexDigit_ne_quote (b.toNat / 16) (by omega)
  · exact upperHexDigit_ne_quote (b.toNat % 16) (by omega)

/-- A blob is read back between its quotes. -/
lemma readBlob_upperHex (bytes : List UInt8) (rest : List Char) :
    readBlob (bytes.flatMap Text.upperHexByte ++ '\'' :: rest) = some (bytes, rest) := by
  have hfront : ∀ c ∈ bytes.flatMap Text.upperHexByte, (c != '\'') = true := fun c hc => by
    simpa using ne_quote_of_mem_upperHex hc
  obtain ⟨htake, hdrop⟩ := takeWhile_append_stop ('\'' :: rest) hfront (by simp)
  simp [readBlob, htake, hdrop, bytesOfHex?_upperHex]

/-- What cannot continue a number. -/
def EndsNumber (rest : List Char) : Prop := ∀ c ∈ rest.head?, isNameChar c = false ∧ c ≠ '.'

/-- What ends a number does not start with a digit. -/
lemma EndsNumber.not_digit {rest : List Char} (h : EndsNumber rest) :
    ∀ c ∈ rest.head?, c.isDigit = false := by
  intro c hc
  have := (h c hc).1
  simp only [isNameChar, Char.isAlphanum, Bool.or_eq_false_iff] at this
  exact this.1.2

/-- No exponent starts in what cannot continue a number. -/
lemma EndsNumber.readExponent {rest : List Char} (h : EndsNumber rest) :
    Sql.readExponent rest = ([], rest) := by
  cases rest with
  | nil => rfl
  | cons c rest =>
    have hc : ¬ (c = 'e' ∨ c = 'E') := by
      rintro (rfl | rfl) <;> exact absurd (h _ rfl).1 (by decide)
    simp [Sql.readExponent, hc]

/-- No fraction starts in what cannot continue a number. -/
lemma EndsNumber.readFraction {rest : List Char} (h : EndsNumber rest) :
    Sql.readFraction rest = ([], rest) := by
  cases rest with
  | nil => rfl
  | cons c rest => simp [Sql.readFraction, (h c rfl).2]

/-- An exponent is read back. -/
lemma readExponent_append {sign digits rest : List Char} (hs : IsSign sign)
    (hd : IsDigits digits) (h : EndsNumber rest) :
    readExponent ('e' :: (sign ++ digits) ++ rest) = ('e' :: (sign ++ digits), rest) := by
  obtain ⟨htake, hdrop⟩ := takeWhile_append_stop rest hd.2 h.not_digit
  rcases hs with rfl | rfl
  · -- the first digit is no sign
    obtain ⟨d, ds, rfl⟩ := List.exists_cons_of_ne_nil hd.1
    have hdigit : d.isDigit = true := hd.2 d (by simp)
    have hsign : readSign (d :: ds ++ rest) = ([], d :: ds ++ rest) := by
      unfold readSign
      split
      · simp_all
      · simp_all
      · rfl
    simp only [List.nil_append, List.cons_append, readExponent, true_or, if_true] at *
    simp only [hsign, htake, hdrop, List.nil_append]
  · simp [readExponent, readSign, htake, hdrop]

/-- A number without a sign is read back. -/
lemma readNumber_append {body rest : List Char} (hbody : IsDigits body ∨ IsReal body)
    (h : EndsNumber rest) : readNumber (body ++ rest) = (body, rest) := by
  rcases hbody with hd | hr
  · obtain ⟨htake, hdrop⟩ := takeWhile_append_stop rest hd.2 h.not_digit
    simp [readNumber, htake, hdrop, h.readFraction, h.readExponent]
  · cases hr with
    | @point whole part hw hp =>
      obtain ⟨htake, hdrop⟩ := takeWhile_append_stop ('.' :: (part ++ rest)) hw.2 (by simp)
      obtain ⟨hpart, hafter⟩ := takeWhile_append_stop rest hp.2 h.not_digit
      simp [readNumber, htake, hdrop, readFraction, hpart, hafter, h.readExponent]
    | @power whole sign digits hw hs hd =>
      have hexp := readExponent_append hs hd h
      obtain ⟨htake, hdrop⟩ :=
        takeWhile_append_stop ('e' :: (sign ++ digits) ++ rest) hw.2 (by simp)
      simp only [List.append_assoc, List.cons_append] at htake hdrop hexp ⊢
      simp [readNumber, htake, hdrop, readFraction, hexp]
    | @pointPower whole part sign digits hw hp hs hd =>
      have hexp := readExponent_append hs hd h
      obtain ⟨htake, hdrop⟩ := takeWhile_append_stop
        ('.' :: (part ++ ('e' :: (sign ++ digits) ++ rest))) hw.2 (by simp)
      obtain ⟨hpart, hafter⟩ :=
        takeWhile_append_stop ('e' :: (sign ++ digits) ++ rest) hp.2 (by simp)
      simp only [List.append_assoc, List.cons_append] at htake hdrop hpart hafter hexp ⊢
      simp [readNumber, htake, hdrop, readFraction, hpart, hafter, hexp]

/-! ## Lexemes in front of a text -/

/-- What cannot continue a lexeme. -/
def Lexeme.Ends (rest : List Char) : Lexeme → Prop
  | .word _ => ∀ c ∈ rest.head?, isNameChar c = false ∧ c ≠ '\''
  | .number _ => EndsNumber rest
  | .text _ => ∀ c ∈ rest.head?, c ≠ '\''
  | .placeholder _ => ∀ c ∈ rest.head?, c.isDigit = false
  | .mark .less => ∀ c ∈ rest.head?, c ≠ '=' ∧ c ≠ '>'
  | .mark .greater => ∀ c ∈ rest.head?, c ≠ '='
  | .mark .minus => ∀ c ∈ rest.head?, c ≠ '-'
  | .mark .slash => ∀ c ∈ rest.head?, c ≠ '*'
  | .blob _ | .mark _ => True

/-- The lexemes that a reader gives: words are identifiers, and numbers have no sign. -/
def Lexeme.IsPlain : Lexeme → Prop
  | .word w => IsIdentifier w
  | .number body => IsDigits body ∨ IsReal body
  | .text _ | .blob _ | .placeholder _ | .mark _ => True

/-- A number without a sign starts with a digit. -/
lemma exists_digit_cons {body : List Char} (h : IsDigits body ∨ IsReal body) :
    ∃ d ds, body = d :: ds ∧ d.isDigit = true := by
  have front : ∀ {ds : List Char}, IsDigits ds → ∀ rest, ∃ d rest',
      ds ++ rest = d :: rest' ∧ d.isDigit = true := by
    intro ds hds rest
    obtain ⟨d, ds, rfl⟩ := List.exists_cons_of_ne_nil hds.1
    exact ⟨d, ds ++ rest, rfl, hds.2 d (by simp)⟩
  rcases h with hd | hr
  · simpa using front hd []
  · cases hr with
    | point hw _ => exact front hw _
    | power hw _ _ => exact front hw _
    | pointPower hw _ _ _ => exact front hw _

/-- A digit starts no name, no white space and no text. -/
lemma not_isNameStart_of_isDigit {c : Char} (h : c.isDigit = true) :
    isNameStart c = false ∧ c.isWhitespace = false ∧ c ≠ '\'' := by
  obtain ⟨h₁, h₂⟩ : 48 ≤ c.toNat ∧ c.toNat ≤ 57 := Char.isDigit_iff_toNat.mp h
  have hc : c = Char.ofNat c.toNat := (Char.ofNat_toNat c).symm
  generalize c.toNat = n at h₁ h₂ hc
  subst hc
  interval_cases n <;> decide

/-- A word is read back. -/
lemma scan_word {w : String} {rest : List Char} (hw : IsIdentifier w)
    (h : (Lexeme.word w).Ends rest) :
    ∃ c cs, w.toList = c :: cs ∧ c.isWhitespace = false ∧
      scan c (cs ++ rest) = some (.word w, rest) := by
  unfold IsIdentifier at hw
  cases hchars : w.toList with
  | nil => rw [hchars] at hw; cases hw
  | cons c cs =>
    rw [hchars, Text.isName, Bool.and_eq_true, List.all_eq_true] at hw
    obtain ⟨hstart, hcs⟩ := hw
    obtain ⟨htake, hdrop⟩ := takeWhile_append_stop rest hcs fun d hd => (h d hd).1
    have hquote : c ≠ '\'' := by rintro rfl; cases hstart
    have hwhite : c.isWhitespace = false := by
      by_contra hwhite
      simp only [Char.isWhitespace, Bool.not_eq_false, Bool.or_eq_true, decide_eq_true_eq] at hwhite
      rcases hwhite with ((rfl | rfl) | rfl) | rfl <;> cases hstart
    -- the character after the first one is no quote, so that no blob starts here
    have hblob : ¬ ((c = 'X' ∨ c = 'x') ∧ (cs ++ rest).head? = some '\'') := by
      rintro ⟨-, hhead⟩
      cases cs with
      | nil => exact (h '\'' hhead).2 rfl
      | cons d ds =>
        cases hhead
        exact absurd (hcs '\'' (by simp)) (by decide)
    have hspell : String.ofList (c :: cs) = w := by rw [← hchars, String.ofList_toList]
    refine ⟨c, cs, rfl, hwhite, ?_⟩
    rw [scan, if_neg hquote, if_neg hblob, if_pos hstart, htake, hdrop, hspell]

/-- A number is read back. -/
lemma scan_number {body rest : List Char} (hbody : IsDigits body ∨ IsReal body)
    (h : EndsNumber rest) :
    ∃ c cs, body = c :: cs ∧ c.isWhitespace = false ∧
      scan c (cs ++ rest) = some (.number body, rest) := by
  obtain ⟨d, ds, rfl, hd⟩ := exists_digit_cons hbody
  obtain ⟨hstart, hwhite, hquote⟩ := not_isNameStart_of_isDigit hd
  have hblob : ¬ (d = 'X' ∨ d = 'x') := by rintro (rfl | rfl) <;> cases hd
  have hread := readNumber_append hbody h
  rw [List.cons_append] at hread
  refine ⟨d, ds, rfl, hwhite, ?_⟩
  simp [scan, hquote, hblob, hstart, hd, hread]

/-- A placeholder is read back. -/
lemma scan_placeholder (n : Nat) {rest : List Char} (h : ∀ c ∈ rest.head?, c.isDigit = false) :
    scan '?' (decimalDigits n ++ rest) = some (.placeholder n, rest) := by
  have hdigits := Number.isDigits_decimalDigits n
  obtain ⟨htake, hdrop⟩ := takeWhile_append_stop rest hdigits.2 h
  have hvalue : Nat.ofDigitChars 10 (decimalDigits n) 0 = n := Nat.ofDigitChars_ten_toDigits
  have hstart : isNameStart '?' = false := by decide
  have hdigit : ('?').isDigit = false := by decide
  simp [scan, hstart, hdigit, htake, hdrop, hdigits.1, hvalue]

/-- A mark is read back. -/
lemma scan_mark (m : Mark) {rest : List Char} (h : (Lexeme.mark m).Ends rest) :
    ∃ c cs, m.chars = c :: cs ∧ c.isWhitespace = false ∧
      scan c (cs ++ rest) = some (.mark m, rest) := by
  have hread : ∃ c cs, m.chars = c :: cs ∧ readMark c (cs ++ rest) = some (m, rest) := by
    cases m
    case less | greater | minus | slash =>
      refine ⟨_, _, rfl, ?_⟩
      cases rest with
      | nil => rfl
      | cons d rest =>
        have hd := h d rfl
        simp only [List.nil_append]
        unfold readMark
        split <;> simp_all
    all_goals exact ⟨_, _, rfl, rfl⟩
  obtain ⟨c, cs, hchars, hread⟩ := hread
  have hother : c.isWhitespace = false ∧ c ≠ '\'' ∧ ¬ (c = 'X' ∨ c = 'x') ∧
      isNameStart c = false ∧ c.isDigit = false ∧ c ≠ '?' := by
    cases m <;> cases hchars <;> decide
  obtain ⟨hwhite, hquote, hblob, hstart, hdigit, hmark⟩ := hother
  refine ⟨c, cs, hchars, hwhite, ?_⟩
  simp [scan, hquote, hblob, hstart, hdigit, hmark, hread]

/-- A lexeme is read back in front of what cannot continue it. -/
theorem scan_chars {l : Lexeme} {rest : List Char} (hl : l.IsPlain) (h : l.Ends rest) :
    ∃ c cs, l.chars = c :: cs ∧ c.isWhitespace = false ∧
      scan c (cs ++ rest) = some (l, rest) := by
  cases l with
  | word w => exact scan_word hl h
  | number body => exact scan_number hl h
  | text s => exact ⟨'\'', _, rfl, by decide, by simp [scan, readText_doubleQuotes s h]⟩
  | blob bytes => exact ⟨'X', _, rfl, by decide, by simp [scan, readBlob_upperHex]⟩
  | placeholder n => exact ⟨'?', _, rfl, by decide, scan_placeholder n h⟩
  | mark m => exact scan_mark m h

/-- A lexeme in front of a text comes first among the lexemes. -/
theorem lex_chars_append {l : Lexeme} {rest : List Char} (hl : l.IsPlain) (h : l.Ends rest) :
    lex (l.chars ++ rest) = (lex rest).map (l :: ·) := by
  obtain ⟨c, cs, hchars, hwhite, hscan⟩ := scan_chars hl h
  rw [hchars, List.cons_append, lex, hwhite, hscan]
  simp

end TypedSql.Sql
