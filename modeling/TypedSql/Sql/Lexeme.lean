import TypedSql.Cell
import TypedSql.Number.RealText
import TypedSql.Text.Hex

/-!
# SQL text

SQL text is built from lexemes and the gaps between them, and spelled as characters last. A text in
a literal stands between single quotes, with each quote inside written twice.

## Main definitions

* `Sql.Lexeme` — words, numbers, text and blob literals, placeholders and marks.
* `Sql.Piece` — a lexeme or a gap.
* `Sql.spell` — the characters of a list of pieces.
* `Cell.lexeme` — the literal of a cell.
-/

set_option autoImplicit false

namespace TypedSql.Sql

/-- The punctuation and the operators that are not words. -/
inductive Mark where
  | equal
  | notEqual
  | less
  | lessEqual
  | greater
  | greaterEqual
  | plus
  | minus
  | star
  | slash
  | percent
  | bars
  | opening
  | closing
  | comma
  | dot
  deriving DecidableEq, Repr

/-- The characters of a mark. -/
def Mark.chars : Mark → List Char
  | .equal => ['=']
  | .notEqual => ['!', '=']
  | .less => ['<']
  | .lessEqual => ['<', '=']
  | .greater => ['>']
  | .greaterEqual => ['>', '=']
  | .plus => ['+']
  | .minus => ['-']
  | .star => ['*']
  | .slash => ['/']
  | .percent => ['%']
  | .bars => ['|', '|']
  | .opening => ['(']
  | .closing => [')']
  | .comma => [',']
  | .dot => ['.']

/-- The lexemes of SQL text. -/
inductive Lexeme where
  /-- A keyword or a name. -/
  | word (w : String)
  /-- A numeric literal with its sign. -/
  | number (digits : List Char)
  /-- A text literal. -/
  | text (s : List Char)
  /-- A blob literal. -/
  | blob (bytes : List UInt8)
  /-- The placeholder of a parameter, counted from one. -/
  | placeholder (position : Nat)
  | mark (m : Mark)
  deriving DecidableEq, Repr

/-- The white space between lexemes. -/
inductive Gap where
  /-- One blank. -/
  | blank
  /-- A line break. -/
  | line
  /-- A line break and an indentation. -/
  | indentedLine
  deriving DecidableEq, Repr

/-- The characters of a gap. -/
def Gap.chars : Gap → List Char
  | .blank => [' ']
  | .line => ['\n']
  | .indentedLine => ['\n', ' ', ' ', ' ', ' ']

/-- A text with its single quotes written twice. -/
def doubleQuotes : List Char → List Char
  | [] => []
  | c :: rest => if c = '\'' then '\'' :: '\'' :: doubleQuotes rest else c :: doubleQuotes rest

/-- The characters of a lexeme. -/
def Lexeme.chars : Lexeme → List Char
  | .word w => w.toList
  | .number digits => digits
  | .text s => '\'' :: doubleQuotes s ++ ['\'']
  | .blob bytes => 'X' :: '\'' :: bytes.flatMap Text.upperHexByte ++ ['\'']
  | .placeholder n => '?' :: Number.decimalDigits n
  | .mark m => m.chars

/-- A lexeme or the gap between two. -/
inductive Piece where
  | lexeme (l : Lexeme)
  | gap (g : Gap)
  deriving DecidableEq, Repr

/-- The characters of a piece. -/
def Piece.chars : Piece → List Char
  | .lexeme l => l.chars
  | .gap g => g.chars

/-- The characters of a list of pieces. -/
def chars (ps : List Piece) : List Char := ps.flatMap Piece.chars

/-- The text of a list of pieces. -/
def spell (ps : List Piece) : String := String.ofList (chars ps)

/-- No pieces have no characters. -/
@[simp]
theorem chars_nil : chars [] = [] := rfl

/-- The characters of pieces are those of the first, and then those of the rest. -/
@[simp]
theorem chars_cons (p : Piece) (ps : List Piece) : chars (p :: ps) = p.chars ++ chars ps := rfl

/-- The characters of pieces one after the other follow each other. -/
@[simp]
theorem chars_append (ps qs : List Piece) : chars (ps ++ qs) = chars ps ++ chars qs := by
  simp [chars]

/-! ## Assembling pieces -/

/-- A keyword or a name. -/
def word (w : String) : List Piece := [.lexeme (.word w)]

/-- A mark. -/
def mark (m : Mark) : List Piece := [.lexeme (.mark m)]

/-- A numeric literal of a natural number. -/
def numeral (n : Nat) : List Piece := [.lexeme (.number (Number.decimalDigits n))]

/-- A placeholder. -/
def placeholder (n : Nat) : List Piece := [.lexeme (.placeholder n)]

/-- One blank. -/
def blank : List Piece := [.gap .blank]

/-- Lists of pieces with a comma and a blank between each two. -/
def commaList (items : List (List Piece)) : List Piece := (mark .comma ++ blank).intercalate items

/-- Keywords with a blank between each two. -/
def words (ws : List String) : List Piece := blank.intercalate (ws.map word)

/-- Pieces between parentheses. -/
def parenthesized (ps : List Piece) : List Piece := mark .opening ++ ps ++ mark .closing

end TypedSql.Sql

namespace TypedSql.Cell

open Sql (Lexeme)

/-- The characters of an integer. -/
def intChars (n : Int) : List Char :=
  (if n < 0 then ['-'] else []) ++ Number.decimalDigits n.natAbs

/-- The literal of a cell: booleans are one and zero. -/
def lexeme : Cell → Lexeme
  | .null => .word "NULL"
  | .bool b => .number [if b then '1' else '0']
  | .int n => .number (intChars n.toInt)
  | .real x => .number (Number.realText x)
  | .text s => .text s.toList
  | .blob bytes => .blob bytes

/-- The text of the literal of a cell. -/
def inline (c : Cell) : String := String.ofList c.lexeme.chars

end TypedSql.Cell
