import TypedSql.Codec.Basic
import TypedSql.Expr.Basic

/-!
# Building filter expressions

Each building call records its own name as the site of its node. A plain value given as an operand
becomes a literal at the site of the call that takes it; an expression keeps its own site.

## Main definitions

* `Operand` — an expression or a plain value.
* `col`, `column`, `qualified`, `lit`, `param`, `var`, `val`, `filter`, `existsRow` — expressions
  from their parts.
* `Builder.binaryCalls`, … — the names of the calls for the operators.
-/

set_option autoImplicit false

namespace TypedSql

/-- What an operator takes beside its first operand. -/
inductive Operand where
  | expr (e : Expr)
  | value (c : Cell)

/-- The operand as an expression; a plain value becomes a literal at the given site. -/
def Operand.toExpr (site : Site) : Operand → Expr
  | .expr e => e
  | .value c => .literal site c

namespace Builder

/-- A column of the current table. -/
def col (name : String) : Expr := .column ⟨"col"⟩ name

/-- A column of a table in scope; both of its nodes are built at one site. -/
def column (table : TableType) (name : String) : Expr :=
  .within ⟨"column"⟩ table (.column ⟨"column"⟩ name)

/-- An expression whose columns are those of a table in scope. -/
def qualified (table : TableType) (e : Expr) : Expr := .within ⟨"qualified"⟩ table e

/-- A plain value as an expression. -/
def lit (value : Operand) : Expr := value.toExpr ⟨"lit"⟩

/-- A parameter given when the filter runs. -/
def param (type : FieldType) (name : String) : Expr := .param ⟨"param"⟩ ⟨some name, type.kind, none⟩

/-- A value captured under a name. -/
def var (type : FieldType) (name : String) (value : type.Carrier) : Expr :=
  .param ⟨"var"⟩ ⟨some name, type.kind, some (type.codec.encode value)⟩

/-- A value captured without a name. -/
def val (type : FieldType) (value : type.Carrier) : Expr :=
  .param ⟨"val"⟩ ⟨none, type.kind, some (type.codec.encode value)⟩

/-- A filter over another table. -/
def filter (table : TableType) (e : Expr) : Subquery := ⟨table, e, ⟨"filter"⟩⟩

/-- Whether a row passes the filter of a nested query. -/
def existsRow (query : Subquery) : Expr := .existsIn ⟨"exists"⟩ query.table query.filter

/-- The negation of a filter. -/
def not (e : Expr) : Expr := .not ⟨"not"⟩ e

/-- The operators between two operands and their calls. -/
def binaryCalls : List (String × BinaryOp) :=
  [("eq", .equal), ("ne", .notEqual), ("lt", .less), ("le", .lessEqual), ("gt", .greater),
    ("ge", .greaterEqual), ("and", .and), ("or", .or), ("add", .add), ("sub", .sub),
    ("mul", .mul), ("div", .div), ("rem", .rem), ("concat", .concat)]

/-- The functions and their calls. -/
def functionCalls : List (String × ScalarFunction) :=
  [("lower", .lower), ("upper", .upper), ("length", .length), ("abs", .abs)]

/-- The tests for NULL and their calls. -/
def nullTestCalls : List (String × NullTest) :=
  [("is_some", .isSome), ("is_none", .isNone), ("is_null", .isNull), ("is_not_null", .isNotNull)]

/-- An operator between two operands, by its call. -/
def binary? (call : String) (lhs : Expr) (rhs : Operand) : Option Expr :=
  (binaryCalls.lookup call).map fun op => .binary ⟨call⟩ op lhs (rhs.toExpr ⟨call⟩)

/-- A function of one argument, by its call. -/
def function? (call : String) (argument : Operand) : Option Expr :=
  (functionCalls.lookup call).map fun f => .call ⟨call⟩ f (argument.toExpr ⟨call⟩)

/-- A test for NULL, by its call. -/
def nullTest? (call : String) (operand : Expr) : Option Expr :=
  (nullTestCalls.lookup call).map fun test => .nullTest ⟨call⟩ test operand

/-- A pattern match, negated or not. -/
def like (negated : Bool) (operand : Expr) (pattern : Operand) : Expr :=
  let site : Site := ⟨if negated then "not_like" else "like"⟩
  .like site negated operand (pattern.toExpr site)

/-- A range test, negated or not. -/
def between (negated : Bool) (operand : Expr) (low high : Operand) : Expr :=
  let site : Site := ⟨if negated then "not_between" else "between"⟩
  .between site negated operand (low.toExpr site) (high.toExpr site)

/-- A membership test, negated or not. -/
def inList (negated : Bool) (operand : Expr) (items : List Operand) : Expr :=
  let site : Site := ⟨if negated then "not_in_list" else "in_list"⟩
  .inList site negated operand (items.map (·.toExpr site))

end Builder

end TypedSql
