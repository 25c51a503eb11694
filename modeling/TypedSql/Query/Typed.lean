import TypedSql.Error

/-!
# Conditions with their kinds

Every operator checks the kinds of its operands and gives the kind of the result, which admits NULL
if that of an operand does.

## Main definitions

* `Typed` — a condition with its kind.
* `Typed.binary`, `Typed.like`, … — the operators on typed conditions.
-/

set_option autoImplicit false

namespace TypedSql

/-- A condition with the kind of its values. -/
structure Typed where
  condition : Condition
  kind : Kind

namespace Typed

/-! ## Checks -/

/-- An operand must be of a scalar kind, up to NULL. -/
def requireScalar (site : Site) (construct : Construct) (s : Scalar) (t : Typed) :
    Except Error Unit :=
  if t.kind.scalar = s then .ok ()
  else .error (.mismatch site construct (.kind (.plain s)) t.kind)

/-- An operand must be an integer or a real. -/
def requireNumeric (site : Site) (construct : Construct) (t : Typed) : Except Error Unit :=
  if t.kind.isNumeric then .ok () else .error (.mismatch site construct .numeric t.kind)

/-- An operand must be of an ordered kind. -/
def requireOrderable (site : Site) (construct : Construct) (t : Typed) : Except Error Unit :=
  if t.kind.isOrderable then .ok () else .error (.mismatch site construct .orderable t.kind)

/-- An operand must be comparable with the one before it. -/
def requireComparable (site : Site) (construct : Construct) (l r : Typed) : Except Error Unit :=
  if l.kind.IsComparable r.kind then .ok ()
  else .error (.mismatch site construct (.kind l.kind.base) r.kind)

/-! ## Operators -/

/-- A scalar kind that admits NULL if one of the operands does. -/
def resultKind (s : Scalar) (operands : List Typed) : Kind :=
  (Kind.plain s).nullableIf (operands.any (·.kind.isNullable))

/-- A literal. A real that is infinite or not a number has no spelling, and NULL has no kind. -/
def literal (site : Site) (value : Cell) : Except Error Typed :=
  match value with
  | .null => .error (.refused site .nullLiteral)
  | .bool _ => .ok ⟨.literal value, .plain .boolean⟩
  | .int _ => .ok ⟨.literal value, .plain .integer⟩
  | .real x =>
    if x.isFinite then .ok ⟨.literal value, .plain .real⟩
    else .error (.refused site (.realLiteral x))
  | .text _ => .ok ⟨.literal value, .plain .text⟩
  | .blob _ => .ok ⟨.literal value, .plain .blob⟩

/-- A column of a table; the names of the truth values are never columns. -/
def column (site : Site) (table : Table) (name : String) : Except Error Typed :=
  match truthName? name with
  | some b => literal site (.bool b)
  | none =>
    match table.column? name with
    | some c => .ok ⟨.column table.name c.name, c.kind⟩
    | none => .error (.unknownColumn site name table.name)

/-- The negation of a boolean. -/
def not (site : Site) (e : Typed) : Except Error Typed := do
  e.requireScalar site .not .boolean
  return ⟨.not e.condition, resultKind .boolean [e]⟩

/-- What the operands of an operator must be. -/
def checkOperands (site : Site) (op : BinaryOp) (l r : Typed) : Except Error Unit := do
  match op with
  | .equal | .notEqual => requireComparable site (.operator op) l r
  | .less | .lessEqual | .greater | .greaterEqual =>
    l.requireOrderable site (.operator op)
    requireComparable site (.operator op) l r
  | .and | .or =>
    l.requireScalar site (.operator op) .boolean
    r.requireScalar site (.operator op) .boolean
  | .add | .sub | .mul | .div | .rem =>
    l.requireNumeric site (.operator op)
    r.requireNumeric site (.operator op)
  | .concat =>
    l.requireScalar site (.operator op) .text
    r.requireScalar site (.operator op) .text

/-- The scalar kind of the result of an operator: arithmetic with a real gives a real. -/
def resultScalar (op : BinaryOp) (l r : Typed) : Scalar :=
  match op with
  | .add | .sub | .mul | .div | .rem =>
    if l.kind.scalar = .real ∨ r.kind.scalar = .real then .real else .integer
  | .concat => .text
  | _ => .boolean

/-- An operator between two operands. -/
def binary (site : Site) (op : BinaryOp) (l r : Typed) : Except Error Typed := do
  checkOperands site op l r
  return ⟨.binary op l.condition r.condition, resultKind (resultScalar op l r) [l, r]⟩

/-- A test for NULL, of an operand that may be NULL. -/
def nullTest (site : Site) (test : NullTest) (e : Typed) : Except Error Typed :=
  if e.kind.isNullable then .ok ⟨.isNull test.negated e.condition, .plain .boolean⟩
  else .error (.notNullable site e.condition.describe)

/-- A pattern match. -/
def like (site : Site) (negated : Bool) (e p : Typed) : Except Error Typed := do
  e.requireScalar site (.like negated) .text
  p.requireScalar site (.like negated) .text
  return ⟨.like negated e.condition p.condition, resultKind .boolean [e, p]⟩

/-- A range test. -/
def between (site : Site) (negated : Bool) (e low high : Typed) : Except Error Typed := do
  e.requireOrderable site (.between negated)
  requireComparable site (.between negated) e low
  requireComparable site (.between negated) e high
  return ⟨.between negated e.condition low.condition high.condition,
    resultKind .boolean [e, low, high]⟩

/-- A membership test, whose items have been checked one by one. -/
def inList (negated : Bool) (e : Typed) (items : List Typed) : Typed :=
  ⟨.inList negated e.condition (items.map (·.condition)), resultKind .boolean (e :: items)⟩

/-- A function: the case functions take a text, the length is that of a text or a blob, and the
absolute value keeps the kind of its number. -/
def call (site : Site) (f : ScalarFunction) (e : Typed) : Except Error Typed :=
  match f with
  | .lower | .upper => do
    e.requireScalar site (.call f) .text
    return ⟨.call f e.condition, resultKind .text [e]⟩
  | .length =>
    if e.kind.scalar = .text ∨ e.kind.scalar = .blob then
      .ok ⟨.call f e.condition, resultKind .integer [e]⟩
    else .error (.mismatch site (.call f) .textOrBlob e.kind)
  | .abs => do
    e.requireNumeric site (.call f)
    return ⟨.call f e.condition, resultKind e.kind.scalar [e]⟩

/-- Whether a row of a table passes a filter; this is never NULL. -/
def existsIn (table : Table) (filter : Typed) : Typed :=
  ⟨.existsIn table.name filter.condition, .plain .boolean⟩

end Typed

end TypedSql
