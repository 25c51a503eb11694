import TypedSql.Expr.Basic
import TypedSql.Sql.Lexeme

/-!
# Conditions

A condition is a compiled expression: its columns name their table, its parameters are positions.
It is written with the fewest parentheses that the binding strengths of the operators allow.

## Main definitions

* `Condition` — the compiled expressions.
* `Condition.level` — how tightly a condition binds.
* `Condition.pieces` — its SQL text.

## Main results

* `Condition.wrap_of_le` — an operand that binds tightly enough stands without parentheses.
-/

set_option autoImplicit false

namespace TypedSql

open Sql (Piece Mark Lexeme)

/-- A compiled expression. -/
inductive Condition where
  | literal (value : Cell)
  | column (table name : String)
  | placeholder (position : Nat)
  | not (operand : Condition)
  | binary (op : BinaryOp) (lhs rhs : Condition)
  | isNull (negated : Bool) (operand : Condition)
  | like (negated : Bool) (operand pattern : Condition)
  | between (negated : Bool) (operand low high : Condition)
  | inList (negated : Bool) (operand : Condition) (items : List Condition)
  | call (function : ScalarFunction) (argument : Condition)
  | existsIn (table : String) (filter : Condition)

namespace BinaryOp

/-- The lexeme of an operator. -/
def lexeme : BinaryOp → Lexeme
  | .equal => .mark .equal
  | .notEqual => .mark .notEqual
  | .less => .mark .less
  | .lessEqual => .mark .lessEqual
  | .greater => .mark .greater
  | .greaterEqual => .mark .greaterEqual
  | .and => .word "AND"
  | .or => .word "OR"
  | .add => .mark .plus
  | .sub => .mark .minus
  | .mul => .mark .star
  | .div => .mark .slash
  | .rem => .mark .percent
  | .concat => .mark .bars

/-- The written form of an operator. -/
def symbol (op : BinaryOp) : String := String.ofList op.lexeme.chars

end BinaryOp

/-! ## Binding strengths -/

namespace Level

/-- The strength of `OR`, the weakest operator. -/
def or : Nat := 1

/-- The strength of `AND`. -/
def and : Nat := 2

/-- The strength of `NOT`. -/
def not : Nat := 3

/-- The strength of comparisons, which do not chain. -/
def comparison : Nat := 4

/-- The strength of sums and differences. -/
def additive : Nat := 6

/-- The strength of products, quotients and remainders. -/
def multiplicative : Nat := 7

/-- The strength of concatenation. -/
def concat : Nat := 8

/-- The strength of what needs no parentheses anywhere. -/
def atom : Nat := 10

end Level

namespace BinaryOp

/-- How tightly an operator binds. -/
def level : BinaryOp → Nat
  | .or => Level.or
  | .and => Level.and
  | .equal | .notEqual | .less | .lessEqual | .greater | .greaterEqual => Level.comparison
  | .add | .sub => Level.additive
  | .mul | .div | .rem => Level.multiplicative
  | .concat => Level.concat

/-- How tightly the left operand has to bind: a comparison does not chain, any other operator
associates to the left. -/
def lhsLevel (op : BinaryOp) : Nat :=
  if op.level = Level.comparison then Level.comparison + 1 else op.level

/-- How tightly the right operand has to bind. -/
def rhsLevel (op : BinaryOp) : Nat := op.level + 1

end BinaryOp

namespace Condition

/-- How tightly a condition binds. -/
def level : Condition → Nat
  | .literal _ | .column _ _ | .placeholder _ | .call _ _ | .existsIn _ _ => Level.atom
  | .not _ => Level.not
  | .binary op _ _ => op.level
  | .isNull _ _ | .like _ _ _ | .between _ _ _ _ | .inList _ _ _ => Level.comparison

/-! ## SQL text -/

/-- Parentheses around an operand that binds more loosely than its place needs. -/
def wrap (needed level : Nat) (ps : List Piece) : List Piece :=
  if level < needed then Sql.parenthesized ps else ps

/-- An operand that binds tightly enough stands without parentheses. -/
theorem wrap_of_le {needed level : Nat} (h : needed ≤ level) (ps : List Piece) :
    wrap needed level ps = ps := by
  simp [wrap, Nat.not_lt.mpr h]

/-- The words of a test that may be negated. -/
def testWords (negated : Bool) (ws : List String) : List Piece :=
  Sql.words (if negated then "NOT" :: ws else ws)

mutual

/-- The SQL text of a condition. -/
def pieces : Condition → List Piece
  | .literal value => [.lexeme value.lexeme]
  | .column table name => Sql.word table ++ Sql.mark .dot ++ Sql.word name
  | .placeholder n => Sql.placeholder n
  | .not e => Sql.word "NOT" ++ Sql.blank ++ wrap Level.not e.level e.pieces
  | .binary op l r =>
    wrap op.lhsLevel l.level l.pieces ++ Sql.blank ++ [.lexeme op.lexeme] ++ Sql.blank ++
      wrap op.rhsLevel r.level r.pieces
  | .isNull negated e =>
    wrap (Level.comparison + 1) e.level e.pieces ++ Sql.blank ++ Sql.word "IS" ++ Sql.blank ++
      testWords negated ["NULL"]
  | .like negated e p =>
    wrap (Level.comparison + 1) e.level e.pieces ++ Sql.blank ++ testWords negated ["LIKE"] ++
      Sql.blank ++ wrap (Level.comparison + 1) p.level p.pieces
  | .between negated e low high =>
    wrap (Level.comparison + 1) e.level e.pieces ++ Sql.blank ++ testWords negated ["BETWEEN"] ++
      Sql.blank ++ wrap (Level.comparison + 1) low.level low.pieces ++ Sql.blank ++
      Sql.word "AND" ++ Sql.blank ++ wrap (Level.comparison + 1) high.level high.pieces
  | .inList negated e items =>
    wrap (Level.comparison + 1) e.level e.pieces ++ Sql.blank ++ testWords negated ["IN"] ++
      Sql.blank ++ Sql.parenthesized (Sql.commaList (itemPieces items))
  | .call f e => Sql.word f.name ++ Sql.parenthesized e.pieces
  | .existsIn table e =>
    Sql.word "EXISTS" ++ Sql.parenthesized
      (Sql.words ["SELECT"] ++ Sql.blank ++ Sql.numeral 1 ++ Sql.blank ++
        Sql.words ["FROM", table, "WHERE"] ++ Sql.blank ++ e.pieces ++ Sql.blank ++
        Sql.word "LIMIT" ++ Sql.blank ++ Sql.numeral 1)

/-- The SQL texts of the items of a list. -/
def itemPieces : List Condition → List (List Piece)
  | [] => []
  | e :: es => e.pieces :: itemPieces es

end

/-- The pieces of a list are those of its items. -/
theorem itemPieces_eq_map (es : List Condition) : itemPieces es = es.map pieces := by
  induction es with
  | nil => simp [itemPieces]
  | cons e es ih => simp [itemPieces, ih]

/-- The text of a condition. -/
def text (c : Condition) : String := Sql.spell c.pieces

/-- What a diagnostic calls the condition: the name of a column, or the text. -/
def describe : Condition → String
  | .column _ name => name
  | c => c.text

end Condition

end TypedSql
