import TypedSql.Expr.Basic
import TypedSql.Proofs.Sql.Lexer

/-!
# A grammar of SQL expressions

The grammar of the expressions that a filter may be written as, from the loosest to the tightest:
`OR`; `AND`; the prefix `NOT`; the comparisons, `LIKE`, `IN`, `BETWEEN` and the tests for NULL; sums
and differences; products, quotients and remainders; `||`; and what stands on its own. Operators
between two operands associate to the left. Words that spell a keyword, in any case, are no names.

The grammar is stated as the texts that a tree may be written as. It knows nothing of how conditions
are rendered; in particular it has strengths and operator signs of its own.

## Main definitions

* `Sql.Token` — lexemes with keywords and names told apart.
* `Sql.Tree` — the trees of expressions, with their parentheses.
* `Sql.Tree.strength` — how tightly a tree binds.
* `Sql.Tree.IsWritten` — the grammar: the lists of tokens that a tree may be written as.
* `Sql.Reads` — a text is written as a tree.
-/

set_option autoImplicit false

namespace TypedSql.Sql

/-! ## Tokens -/

/-- The keywords of the grammar. -/
inductive Keyword where
  | and
  | or
  | not
  | like
  | in
  | between
  | is
  | null
  | exists
  | select
  | from
  | where
  | limit
  deriving DecidableEq, Repr

namespace Keyword

/-- The keywords in upper case. -/
def spellings : List (List Char × Keyword) :=
  [(['A', 'N', 'D'], .and), (['O', 'R'], .or), (['N', 'O', 'T'], .not),
    (['L', 'I', 'K', 'E'], .like), (['I', 'N'], .in),
    (['B', 'E', 'T', 'W', 'E', 'E', 'N'], .between), (['I', 'S'], .is),
    (['N', 'U', 'L', 'L'], .null), (['E', 'X', 'I', 'S', 'T', 'S'], .exists),
    (['S', 'E', 'L', 'E', 'C', 'T'], .select), (['F', 'R', 'O', 'M'], .from),
    (['W', 'H', 'E', 'R', 'E'], .where), (['L', 'I', 'M', 'I', 'T'], .limit)]

/-- The keyword that a word spells in upper or lower case. -/
def ofWord? (w : String) : Option Keyword := spellings.lookup (w.toList.map Char.toUpper)

end Keyword

/-- The words of the grammar: keywords, names, literals, placeholders and marks. -/
inductive Token where
  | keyword (k : Keyword)
  | name (w : String)
  | number (body : List Char)
  | text (s : List Char)
  | blob (bytes : List UInt8)
  | placeholder (position : Nat)
  | mark (m : Mark)
  deriving DecidableEq, Repr

/-- A lexeme as a token. -/
def Lexeme.token : Lexeme → Token
  | .word w => match Keyword.ofWord? w with
    | some k => .keyword k
    | none => .name w
  | .number body => .number body
  | .text s => .text s
  | .blob bytes => .blob bytes
  | .placeholder n => .placeholder n
  | .mark m => .mark m

/-! ## Trees -/

/-- The trees of expressions. -/
inductive Tree where
  /-- An integer by its value. -/
  | integer (n : Int)
  /-- A real by its text. -/
  | real (digits : List Char)
  | text (s : List Char)
  | blob (bytes : List UInt8)
  | placeholder (position : Nat)
  | column (table name : String)
  | call (function : String) (argument : Tree)
  | paren (inner : Tree)
  /-- Whether a row of a table passes a filter. -/
  | existsIn (table : String) (filter : Tree)
  | not (operand : Tree)
  | binary (op : BinaryOp) (lhs rhs : Tree)
  | isNull (negated : Bool) (operand : Tree)
  | like (negated : Bool) (operand pattern : Tree)
  | between (negated : Bool) (operand low high : Tree)
  | inList (negated : Bool) (operand : Tree) (items : List Tree)

namespace Tree

mutual

/-- A tree without its parentheses. -/
def withoutParens : Tree → Tree
  | .integer n => .integer n
  | .real digits => .real digits
  | .text s => .text s
  | .blob bytes => .blob bytes
  | .placeholder n => .placeholder n
  | .column table name => .column table name
  | .call f e => .call f e.withoutParens
  | .paren e => e.withoutParens
  | .existsIn table e => .existsIn table e.withoutParens
  | .not e => .not e.withoutParens
  | .binary op l r => .binary op l.withoutParens r.withoutParens
  | .isNull negated e => .isNull negated e.withoutParens
  | .like negated e p => .like negated e.withoutParens p.withoutParens
  | .between negated e low high =>
    .between negated e.withoutParens low.withoutParens high.withoutParens
  | .inList negated e items => .inList negated e.withoutParens (itemsWithoutParens items)

/-- The items of a list without their parentheses. -/
def itemsWithoutParens : List Tree → List Tree
  | [] => []
  | e :: es => e.withoutParens :: itemsWithoutParens es

end

/-- The tree of a number: an integer if it has digits only, a real otherwise. -/
def ofNumber (negative : Bool) (body : List Char) : Tree :=
  if body.all Char.isDigit then
    let n : Int := Nat.ofDigitChars 10 body 0
    .integer (if negative then -n else n)
  else .real (if negative then '-' :: body else body)

end Tree

/-! ## Strengths -/

/-- The strength of what stands on its own. -/
def primaryStrength : Nat := 8

/-- The strength of comparisons and tests. -/
def comparisonStrength : Nat := 4

/-- The strength of the prefix `NOT`. -/
def notStrength : Nat := 3

/-- The strength of an operator between two operands. -/
def operatorStrength : BinaryOp → Nat
  | .or => 1
  | .and => 2
  | .equal | .notEqual | .less | .lessEqual | .greater | .greaterEqual => comparisonStrength
  | .add | .sub => 5
  | .mul | .div | .rem => 6
  | .concat => 7

/-- The sign of an operator. -/
def operatorToken : BinaryOp → Token
  | .or => .keyword .or
  | .and => .keyword .and
  | .equal => .mark .equal
  | .notEqual => .mark .notEqual
  | .less => .mark .less
  | .lessEqual => .mark .lessEqual
  | .greater => .mark .greater
  | .greaterEqual => .mark .greaterEqual
  | .add => .mark .plus
  | .sub => .mark .minus
  | .mul => .mark .star
  | .div => .mark .slash
  | .rem => .mark .percent
  | .concat => .mark .bars

/-- How tightly a tree binds. -/
def Tree.strength : Tree → Nat
  | .not _ => notStrength
  | .binary op _ _ => operatorStrength op
  | .isNull _ _ | .like _ _ _ | .between _ _ _ _ | .inList _ _ _ => comparisonStrength
  | _ => primaryStrength

/-! ## The grammar -/

/-- The tokens of a test that may be negated. -/
def testTokens (negated : Bool) (ts : List Token) : List Token :=
  if negated then .keyword .not :: ts else ts

/-- Lists of tokens with a comma between each two. -/
def commaTokens (tss : List (List Token)) : List Token := [.mark .comma].intercalate tss

/-- The tokens between which a nested filter stands. -/
def existsTokens (table : String) (filter : List Token) : List Token :=
  [.keyword .exists, .mark .opening, .keyword .select, .number ['1'], .keyword .from,
    .name table, .keyword .where] ++ filter ++
    [.keyword .limit, .number ['1'], .mark .closing]

namespace Tree

mutual

/-- The lists of tokens that a tree may be written as. The left operand of an operator binds at
least as tightly as the operator, the right one more tightly. -/
def IsWritten : Tree → List Token → Prop
  | .integer n, ts => ∃ negative body, ofNumber negative body = .integer n ∧
    ts = (if negative then [.mark .minus] else []) ++ [.number body]
  | .real digits, ts => ∃ negative body, ofNumber negative body = .real digits ∧
    ts = (if negative then [.mark .minus] else []) ++ [.number body]
  | .text s, ts => ts = [.text s]
  | .blob bytes, ts => ts = [.blob bytes]
  | .placeholder n, ts => ts = [.placeholder n]
  | .column table name, ts => ts = [.name table, .mark .dot, .name name]
  | .call f e, ts => ∃ es, e.IsWritten es ∧
    ts = .name f :: .mark .opening :: (es ++ [.mark .closing])
  | .paren e, ts => ∃ es, e.IsWritten es ∧ ts = .mark .opening :: (es ++ [.mark .closing])
  | .existsIn table e, ts => ∃ es, e.IsWritten es ∧ ts = existsTokens table es
  | .not e, ts => ∃ es, e.IsWritten es ∧ notStrength ≤ e.strength ∧ ts = .keyword .not :: es
  | .binary op l r, ts => ∃ ls rs, l.IsWritten ls ∧ r.IsWritten rs ∧
    operatorStrength op ≤ l.strength ∧ operatorStrength op < r.strength ∧
    ts = ls ++ operatorToken op :: rs
  | .isNull negated e, ts => ∃ es, e.IsWritten es ∧ comparisonStrength ≤ e.strength ∧
    ts = es ++ .keyword .is :: testTokens negated [.keyword .null]
  | .like negated e p, ts => ∃ es ps, e.IsWritten es ∧ p.IsWritten ps ∧
    comparisonStrength ≤ e.strength ∧ comparisonStrength < p.strength ∧
    ts = es ++ testTokens negated (.keyword .like :: ps)
  | .between negated e low high, ts => ∃ es ls hs, e.IsWritten es ∧ low.IsWritten ls ∧
    high.IsWritten hs ∧ comparisonStrength ≤ e.strength ∧ comparisonStrength < low.strength ∧
    comparisonStrength < high.strength ∧
    ts = es ++ testTokens negated (.keyword .between :: (ls ++ .keyword .and :: hs))
  | .inList negated e items, ts => ∃ es iss, e.IsWritten es ∧ AreWritten items iss ∧
    comparisonStrength ≤ e.strength ∧
    ts = es ++ testTokens negated
      (.keyword .in :: .mark .opening :: (commaTokens iss ++ [.mark .closing]))

/-- The lists of tokens that the items of a list may be written as. -/
def AreWritten : List Tree → List (List Token) → Prop
  | [], tss => tss = []
  | e :: es, tss => ∃ ts rest, e.IsWritten ts ∧ AreWritten es rest ∧ tss = ts :: rest

end

end Tree

/-- Whether a text is written as a tree, from its first character to the last. -/
def Reads (text : String) (t : Tree) : Prop :=
  ∃ ls, lex text.toList = some ls ∧ t.IsWritten (ls.map Lexeme.token)

end TypedSql.Sql
