import TypedSql.Codec.Failure
import TypedSql.Query.Condition

/-!
# Errors

The causes for which a table is refused, a filter does not compile, arguments do not fit or a row
cannot be read. What arises from a node of an expression points to the site of that node.

## Main definitions

* `Error` — the causes, with `Error.message` and `Error.site?`.
-/

set_option autoImplicit false

namespace TypedSql

/-- The constructs that check the kinds of their operands. -/
inductive Construct where
  | operator (op : BinaryOp)
  | not
  | like (negated : Bool)
  | between (negated : Bool)
  | inList (negated : Bool)
  | call (function : ScalarFunction)
  /-- A complete filter. -/
  | filter
  /-- A parameter that is used again. -/
  | parameter (name : String)
  deriving DecidableEq, Repr

/-- A keyword after `NOT`, or alone. -/
def negatedKeyword (negated : Bool) (w : String) : String := if negated then "NOT " ++ w else w

/-- A text between backquotes. -/
def backquoted (s : String) : String := "`" ++ s ++ "`"

namespace Construct

/-- The construct as a diagnostic names it. -/
def describe : Construct → String
  | .operator op => backquoted op.symbol
  | .not => backquoted "NOT"
  | .like negated => backquoted (negatedKeyword negated "LIKE")
  | .between negated => backquoted (negatedKeyword negated "BETWEEN")
  | .inList negated => backquoted (negatedKeyword negated "IN")
  | .call f => backquoted f.name
  | .filter => backquoted "filter"
  | .parameter name => "parameter " ++ backquoted name

end Construct

/-- What a construct expects of the kind of an operand. -/
inductive Expectation where
  | kind (k : Kind)
  | numeric
  | orderable
  | textOrBlob
  deriving DecidableEq, Repr

/-- The expectation in words. -/
def Expectation.describe : Expectation → String
  | .kind k => k.display
  | .numeric => "integer or real"
  | .orderable => "an orderable kind"
  | .textOrBlob => "text or blob"

/-- Constructs that are refused whatever the kinds of their operands. -/
inductive Refusal where
  /-- A complete filter that is a lone truth value. -/
  | constantFilter
  /-- A literal of a real that is infinite or not a number. -/
  | realLiteral (x : Number.Binary64)
  /-- A literal of NULL. -/
  | nullLiteral
  | emptyList (negated : Bool)
  /-- A name both of a captured value and of a parameter given at run time. -/
  | mixedParameter (name : String)
  deriving DecidableEq, Repr

/-- The refusal in words. -/
def Refusal.message : Refusal → String
  | .constantFilter => "a boolean literal cannot be used as a complete filter"
  | .realLiteral x =>
    s!"the REAL literal {String.ofList (Number.realText x)} has no SQL spelling, use a parameter"
  | .nullLiteral => "an untyped NULL literal cannot be compiled, use a nullable parameter"
  | .emptyList negated => negatedKeyword negated "IN" ++ " needs at least one item"
  | .mixedParameter name =>
    s!"parameter `{name}` is used both as a runtime parameter and as a captured value"

/-- The causes of failure. -/
inductive Error where
  | schema (table : String) (fault : Fault)
  | unknownColumn (site : Site) (column table : String)
  | notAccessible (site : Site) (table : String)
  | mismatch (site : Site) (construct : Construct) (expected : Expectation) (found : Kind)
  | refused (site : Site) (refusal : Refusal)
  | notNullable (site : Site) (subject : String)
  | argumentCount (expected given : Nat)
  | argumentType (position : Nat) (expected : Kind) (found : CellType)
  | decode (failure : Codec.Failure)
  deriving DecidableEq, Repr

namespace Error

/-- The error in words. -/
def message : Error → String
  | .schema table fault => s!"invalid schema for table {table}: {fault.message}"
  | .unknownColumn _ column table => s!"{column} doesn't exist in {table}"
  | .notAccessible _ table => s!"{table} is not currently accessible"
  | .mismatch _ construct expected found =>
    s!"type mismatch in {construct.describe}: expected {expected.describe}, found {found.display}"
  | .refused _ refusal => refusal.message
  | .notNullable _ subject => s!"{subject} is not nullable"
  | .argumentCount expected given => s!"expected {expected} runtime parameters, got {given}"
  | .argumentType position expected found =>
    s!"parameter ?{position} expects {expected.display}, got {found.name}"
  | .decode failure => failure.message

/-- The site of the expression that caused the error. -/
def site? : Error → Option Site
  | .unknownColumn s _ _ | .notAccessible s _ | .mismatch s _ _ _ | .refused s _
  | .notNullable s _ => some s
  | .schema _ _ | .argumentCount _ _ | .argumentType _ _ _ | .decode _ => none

/-- Whether a name could not be resolved. -/
def isResolution : Error → Bool
  | .unknownColumn _ _ _ | .notAccessible _ _ => true
  | _ => false

end Error

end TypedSql
