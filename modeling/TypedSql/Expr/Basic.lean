import TypedSql.Cell
import TypedSql.Schema.Table

/-!
# Filter expressions

A filter expression is a plain value: nothing in it is looked up or checked before it is compiled.
Each node keeps the site at which it was built, so that an error can point there.

## Main definitions

* `Site` — where a node was built.
* `Parameter` — a parameter of a filter, given when the filter runs or captured when it is built.
* `BinaryOp`, `NullTest`, `ScalarFunction` — the operators.
* `Expr` — the expressions.
* `Subquery` — a filter over another table.
-/

set_option autoImplicit false

namespace TypedSql

/-- Where a node of an expression was built: the name of the building call. -/
structure Site where
  call : String
  deriving DecidableEq, Repr

/-- A parameter. Two parameters of one name are the same one; a parameter without a name is never
the same as another. -/
structure Parameter where
  name : Option String
  kind : Kind
  /-- The captured value; without it, the value is given when the filter runs. -/
  value : Option Cell
  deriving DecidableEq, Repr

/-- Whether the value is given when the filter runs. -/
def Parameter.isRuntime (p : Parameter) : Bool := p.value.isNone

/-- The operators between two operands. -/
inductive BinaryOp where
  | equal
  | notEqual
  | less
  | lessEqual
  | greater
  | greaterEqual
  | and
  | or
  | add
  | sub
  | mul
  | div
  | rem
  | concat
  deriving DecidableEq, Repr

/-- The tests for NULL. The pair `isSome` and `isNone` is another spelling of the pair `isNull` and
`isNotNull`, in this order. -/
inductive NullTest where
  | isSome
  | isNone
  | isNull
  | isNotNull
  deriving DecidableEq, Repr

/-- Whether the test asks for a value other than NULL. -/
def NullTest.negated : NullTest → Bool
  | .isSome | .isNull => false
  | .isNone | .isNotNull => true

/-- The functions of one argument. -/
inductive ScalarFunction where
  | lower
  | upper
  | length
  | abs
  deriving DecidableEq, Repr

/-- The name of a function. -/
def ScalarFunction.name : ScalarFunction → String
  | .lower => "lower"
  | .upper => "upper"
  | .length => "length"
  | .abs => "abs"

/-- A filter or an operand of one. -/
inductive Expr where
  | literal (site : Site) (value : Cell)
  /-- A column of the current table. -/
  | column (site : Site) (name : String)
  /-- An expression whose columns are those of another table in scope. -/
  | within (site : Site) (table : TableType) (inner : Expr)
  | param (site : Site) (parameter : Parameter)
  | not (site : Site) (operand : Expr)
  | binary (site : Site) (op : BinaryOp) (lhs rhs : Expr)
  | nullTest (site : Site) (test : NullTest) (operand : Expr)
  | like (site : Site) (negated : Bool) (operand pattern : Expr)
  | between (site : Site) (negated : Bool) (operand low high : Expr)
  | inList (site : Site) (negated : Bool) (operand : Expr) (items : List Expr)
  | call (site : Site) (function : ScalarFunction) (argument : Expr)
  /-- Whether a row of another table passes a filter. -/
  | existsIn (site : Site) (table : TableType) (filter : Expr)

namespace Expr

/-- Where the expression was built. -/
def site : Expr → Site
  | .literal s _ | .column s _ | .within s _ _ | .param s _ | .not s _ | .binary s _ _ _
  | .nullTest s _ _ | .like s _ _ _ | .between s _ _ _ _ | .inList s _ _ _ | .call s _ _
  | .existsIn s _ _ => s

end Expr

/-- The column names that stand for the two truth values. -/
def truthName? : String → Option Bool
  | "true" => some true
  | "false" => some false
  | _ => none

/-- Whether the expression is a lone truth value. -/
def Expr.isTruthValue : Expr → Bool
  | .literal _ (.bool _) => true
  | .column _ name => (truthName? name).isSome
  | .within _ _ inner => inner.isTruthValue
  | _ => false

/-- A filter over another table. -/
structure Subquery where
  table : TableType
  filter : Expr
  site : Site

end TypedSql
