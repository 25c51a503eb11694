import TypedSql.Store.Operators
import TypedSql.Store.Table

/-!
# Evaluating conditions

A column of a condition is that of the innermost row in scope whose table has its name and its
column. A condition is evaluated only if all of its tables and columns can be found.

## Main definitions

* `Condition.unresolved?` — the first table or column of a condition that cannot be found.
* `RowScope` — the rows in scope.
* `Condition.evaluate` — the value of a condition.
* `Condition.holds` — whether a condition is true of a row.
-/

set_option autoImplicit false

namespace TypedSql

/-- Finds a table by its name. -/
def findTable? (tables : List StoredTable) (name : String) : Option StoredTable :=
  tables.find? fun t => sameName t.name name

/-- Finds a table by its name, or fails. -/
def findTable (tables : List StoredTable) (name : String) : Except StoreError StoredTable :=
  match findTable? tables name with
  | some t => .ok t
  | none => .error (.noTable name)

/-! ## Resolution -/

namespace Condition

mutual

/-- The first table or column of a condition that is found neither among the tables nor in those in
scope. -/
def unresolved? (tables scope : List StoredTable) : Condition → Option StoreError
  | .literal _ | .placeholder _ => none
  | .column table name =>
    if scope.any fun t => sameName t.name table && (t.place? name).isSome then none
    else some (.noColumn name)
  | .not e => e.unresolved? tables scope
  | .binary _ l r => (l.unresolved? tables scope).or (r.unresolved? tables scope)
  | .isNull _ e => e.unresolved? tables scope
  | .like _ e p => (e.unresolved? tables scope).or (p.unresolved? tables scope)
  | .between _ e low high =>
    (e.unresolved? tables scope).or
      ((low.unresolved? tables scope).or (high.unresolved? tables scope))
  | .inList _ e items => (e.unresolved? tables scope).or (unresolvedItem? tables scope items)
  | .call _ e => e.unresolved? tables scope
  | .existsIn table filter =>
    match findTable? tables table with
    | some t => filter.unresolved? tables (t :: scope)
    | none => some (.noTable table)

/-- The first table or column of a list of conditions that cannot be found. -/
def unresolvedItem? (tables scope : List StoredTable) : List Condition → Option StoreError
  | [] => none
  | e :: es => (e.unresolved? tables scope).or (unresolvedItem? tables scope es)

end

end Condition

/-! ## Evaluation -/

/-- A row in scope, with its table. -/
structure RowScope where
  table : StoredTable
  row : StoredRow

/-- The value of a column in the innermost row that has it; it is NULL if there is none. -/
def lookupValue (scope : List RowScope) (table column : String) : Datum :=
  (scope.findSome? fun s =>
    if sameName s.table.name table then (s.table.place? column).map s.row.value else none).getD
      .null

namespace Condition

mutual

/-- The value of a condition for the rows in scope and the values of the parameters. -/
def evaluate (tables : List StoredTable) (params : List Datum) (scope : List RowScope) :
    Condition → Except StoreError Datum
  | .literal value => .ok value.toDatum
  | .column table name => .ok (lookupValue scope table name)
  | .placeholder n => .ok (params[n - 1]?.getD .null)
  | .not e => do
    let x ← e.evaluate tables params scope
    return .ofTruth (Logic.not x.truth)
  | .binary op l r => do
    let x ← l.evaluate tables params scope
    let y ← r.evaluate tables params scope
    return op.apply x y
  | .isNull negated e => do
    let x ← e.evaluate tables params scope
    return .ofTruth (some (x.isNull != negated))
  | .like negated e p => do
    let x ← e.evaluate tables params scope
    let y ← p.evaluate tables params scope
    return .ofTruth (Logic.notIf negated (x.like y))
  | .between negated e low high => do
    let x ← e.evaluate tables params scope
    let y ← low.evaluate tables params scope
    let z ← high.evaluate tables params scope
    return .ofTruth (Logic.notIf negated
      (Logic.and (BinaryOp.greaterEqual.comparison x y) (BinaryOp.lessEqual.comparison x z)))
  | .inList negated e items => do
    let x ← e.evaluate tables params scope
    let ys ← evaluateItems tables params scope items
    return .ofTruth (Logic.notIf negated
      ((ys.map (BinaryOp.equal.comparison x)).foldr Logic.or (some false)))
  | .call f e => do
    let x ← e.evaluate tables params scope
    match f.value? x with
    | some y => return y
    | none => throw .overflow
  | .existsIn table filter =>
    match findTable? tables table with
    | none => .error (.noTable table)
    | some t => do
      let found ← t.rows.anyM fun row => do
        let x ← filter.evaluate tables params (⟨t, row⟩ :: scope)
        return x.truth == some true
      return .ofTruth (some found)

/-- The values of the items of a list. -/
def evaluateItems (tables : List StoredTable) (params : List Datum) (scope : List RowScope) :
    List Condition → Except StoreError (List Datum)
  | [] => .ok []
  | e :: es => do
    let x ← e.evaluate tables params scope
    let xs ← evaluateItems tables params scope es
    return x :: xs

end

/-- Whether a condition is true of a row of a table. -/
def holds (c : Condition) (tables : List StoredTable) (params : List Datum) (t : StoredTable)
    (row : StoredRow) : Except StoreError Bool := do
  let x ← c.evaluate tables params [⟨t, row⟩]
  return x.truth == some true

end Condition

end TypedSql
