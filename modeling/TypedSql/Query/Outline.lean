import TypedSql.Query.Lazy
import TypedSql.Text.Quoted

/-!
# Outlines of queries

The outline of a query names its parts, for a reader who looks for an error: its table, its
condition, its parameters and its order. Fields stand between braces, list elements between
brackets; what an outline leaves out is shown by two points.

## Main definitions

* `Query.outline`, `LazyQuery.outline` — the outlines.
-/

set_option autoImplicit false

namespace TypedSql

namespace Outline

/-- Named fields between braces, after the name of their structure. -/
def record (name : String) (fields : List String) : String :=
  name ++ " \x7b " ++ ", ".intercalate fields ++ " \x7d"

/-- A named field. -/
def field (name value : String) : String := name ++ ": " ++ value

/-- A list between brackets. -/
def list (items : List String) : String := "[" ++ ", ".intercalate items ++ "]"

/-- A value after the name of its variant. -/
def variant (name value : String) : String := name ++ "(" ++ value ++ ")"

/-- A value that may be absent. -/
def option : Option String → String
  | none => "None"
  | some s => variant "Some" s

end Outline

open Outline
open Text (quoted)

/-- The outline of a scalar kind. -/
def Scalar.outline : Scalar → String
  | .text => "Text"
  | .integer => "Integer"
  | .real => "Real"
  | .boolean => "Boolean"
  | .timestamp => "Timestamp"
  | .dateTime => "DateTime"
  | .blob => "Blob"

/-- The outline of a kind. -/
def Kind.outline (k : Kind) : String :=
  (List.range k.layers).foldl (fun s _ => variant "Nullable" s) k.scalar.outline

/-- The outline of a cell. -/
def Cell.outline : Cell → String
  | .null => "Null"
  | .bool b => variant "Bool" (if b then "true" else "false")
  | .int n => variant "Int" (String.ofList (intChars n.toInt))
  | .real x => variant "Float" (String.ofList (Number.realText x))
  | .text s => variant "Text" (quoted s)
  | .blob bytes => variant "Blob" (list (bytes.map fun b => toString b.toNat))

/-- The outline of a parameter. -/
def Parameter.outline (p : Parameter) : String :=
  record "ParamSlot" [field "name" (option (p.name.map quoted)), field "kind" p.kind.outline,
    field "value" (option (p.value.map Cell.outline))]

/-- The outline of an arena. -/
def Arena.outline (a : Arena) : String :=
  record "ParamArena" [field "slots" (list (a.slots.map Parameter.outline))]

/-- The outline of a direction. -/
def Direction.outline : Direction → String
  | .ascending => "Asc"
  | .descending => "Desc"
  | .nullsFirst => "NullsFirst"
  | .nullsLast => "NullsLast"

/-- The outline of a sort key. -/
def OrderTerm.outline (t : OrderTerm) : String :=
  record "CompiledOrder" [field "column" (quoted t.column), field "direction" t.direction.outline]

/-- The outline of a query. -/
def Query.outline (q : Query) : String :=
  record "TableQuery" [field "table" (quoted q.table.name),
    field "where_sql" (quoted q.conditionText), field "params" q.arena.outline,
    field "order" (list (q.order.map OrderTerm.outline)), ".."]

/-- The outline of a lazy query. -/
def LazyQuery.outline (l : LazyQuery) : String :=
  record "LazyQuery" [field "compiled" (option (l.compiled.map Query.outline)), ".."]

end TypedSql
