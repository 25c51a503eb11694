import TypedSql.Expr.Builder
import TypedSql.Record.Declaration
import TypedSql.Record.TypeParameters
import TypedSql.Schema.Table
import TypedSql.Text.UpperCase

/-!
# Tables of records

The declaration of a record describes the table that keeps it: one column for each field, with the
kind of the field's type and what the attributes add.

## Main definitions

* `DeriveError` — why a declaration describes no table.
* `snakeCase` — the name of the table of a record without a name attribute.
* `ColumnOptions` — what the attributes of a field add to its column.
* `Record` — a record with its table; `Record.accessors` — the expressions for its columns.
* `RecordDeclaration.derive` — the record of a declaration.
-/

set_option autoImplicit false

namespace TypedSql

open Text (IsIdentifier isUpperCase)

/-! ## Errors -/

/-- Why a declaration describes no table. -/
inductive DeriveError where
  | missingItems (path : String)
  | missingEquals
  | notText
  | missingComma
  | unknownTableItem
  | unknownColumnItem
  | malformedReference (text : String)
  | cascadeAlone
  | typeParameters
  | noFieldNames
  | noRecord
  | twoAutoIncrements
  | autoIncrementInKey
  deriving DecidableEq, Repr

/-- The error in words. -/
def DeriveError.message : DeriveError → String
  | .missingItems path =>
    s!"expected attribute arguments in parentheses: #[{path}(...)]"
  | .missingEquals => "expected `=`"
  | .notText => "expected string literal"
  | .missingComma => "expected `,`"
  | .unknownTableItem => "unknown table attribute, expected `name`"
  | .unknownColumnItem =>
    "unknown column attribute, expected one of `primary_key`, `autoincrement`, `references`, " ++
      "`cascade`, `index`, `unique`, `name`"
  | .malformedReference text => s!"malformed reference `{text}`, expected `table.column`"
  | .cascadeAlone => "`cascade` requires `references = \"table.column\"`"
  | .typeParameters => "Table derive does not support generic structs"
  | .noFieldNames => "Table derive only supports structs with named fields"
  | .noRecord => "Table derive only supports structs"
  | .twoAutoIncrements => "a table can have at most one autoincrement primary key"
  | .autoIncrementInKey => "an autoincrement key cannot be part of a composite primary key"

namespace Attribute.Item

/-- The text that an item must have. -/
def textValue (i : Attribute.Item) : Except DeriveError String :=
  match i.value with
  | some (.text s) => .ok s
  | some .other => .error .notText
  | none => .error .missingEquals

/-- Refuses a value, after an item that takes none. -/
def noValue (i : Attribute.Item) : Except DeriveError Unit :=
  match i.value with
  | none => .ok ()
  | some _ => .error .missingComma

end Attribute.Item

/-! ## Table names -/

/-- The characters of a name in snake case: a capital letter that is not the first character
follows an underscore, and the ASCII ones become small. -/
def snakeChars (first : Bool) : List Char → List Char
  | [] => []
  | c :: rest =>
    if isUpperCase c then
      (if first then [c.toLower] else ['_', c.toLower]) ++ snakeChars false rest
    else c :: snakeChars false rest

/-- A name in snake case. -/
def snakeCase (name : String) : String := String.ofList (snakeChars true name.toList)

/-- The table name that the items of one attribute give; of several the last. -/
def tableNameOfItems (found : Option String) :
    List Attribute.Item → Except DeriveError (Option String)
  | [] => .ok found
  | i :: is =>
    if i.path = "name" then do
      let name ← i.textValue
      tableNameOfItems (some name) is
    else .error .unknownTableItem

/-- The table name that the attributes of a record give. The first attribute that gives one
decides; those after it are not read. -/
def tableName? : List Attribute → Except DeriveError (Option String)
  | [] => .ok none
  | a :: as =>
    if a.path = "table" then
      match a.items with
      | none => .error (.missingItems a.path)
      | some items => do
        match ← tableNameOfItems none items with
        | some name => return some name
        | none => tableName? as
    else tableName? as

/-! ## Columns -/

/-- What the attributes of a field add to its column. -/
structure ColumnOptions where
  name : Option String := none
  primaryKey : Bool := false
  autoIncrement : Bool := false
  references : Option ForeignKey := none
  cascade : Bool := false
  index : Option Index := none
  deriving DecidableEq, Repr

/-- Reads `table.column`, cut at the first point. -/
def parseReference (text : String) : Except DeriveError ForeignKey :=
  let cs := text.toList
  let table := String.ofList (cs.takeWhile (· != '.'))
  match cs.dropWhile (· != '.') with
  | '.' :: rest =>
    let column := String.ofList rest
    if IsIdentifier table ∧ IsIdentifier column then .ok ⟨table, column⟩
    else .error (.malformedReference text)
  | _ => .error (.malformedReference text)

namespace ColumnOptions

/-- The options with one more item. A unique index prevails over a plain one. -/
def addItem (o : ColumnOptions) (i : Attribute.Item) : Except DeriveError ColumnOptions := do
  match i.path with
  | "primary_key" =>
    i.noValue
    return { o with primaryKey := true }
  | "autoincrement" =>
    i.noValue
    return { o with autoIncrement := true }
  | "cascade" =>
    i.noValue
    return { o with cascade := true }
  | "index" =>
    i.noValue
    return { o with index := o.index.or (some .plain) }
  | "unique" =>
    i.noValue
    return { o with index := some .unique }
  | "references" =>
    let fk ← parseReference (← i.textValue)
    return { o with references := some fk }
  | "name" =>
    let name ← i.textValue
    return { o with name := some name }
  | _ => throw .unknownColumnItem

/-- The options with the items of one more attribute; an attribute for something else adds
nothing. -/
def addAttribute (o : ColumnOptions) (a : Attribute) : Except DeriveError ColumnOptions :=
  if a.path = "column" then (a.items.getD []).foldlM addItem o else .ok o

/-- The options that the attributes of a field give. -/
def ofAttributes (as : List Attribute) : Except DeriveError ColumnOptions := do
  let o ← as.foldlM addAttribute {}
  if o.cascade && o.references.isNone then throw .cascadeAlone
  return o

/-- The column of a field with these options. -/
def column (o : ColumnOptions) (f : FieldDeclaration) : Column where
  name := o.name.getD (plainName f.name)
  kind := f.type.kind
  primaryKey := o.primaryKey || o.autoIncrement
  autoIncrement := o.autoIncrement
  references := o.references
  cascade := o.cascade
  index := o.index

end ColumnOptions

/-! ## Records -/

/-- A field of a record, with its column. -/
structure RecordField where
  /-- The name of the field, and of the function that refers to its column. -/
  accessor : String
  type : FieldType
  column : Column
  deriving DecidableEq, Repr

/-- A record with the table that keeps it. -/
structure Record where
  table : String
  fields : List RecordField
  deriving DecidableEq, Repr

namespace Record

/-- The columns of the table, one for each field. -/
def columns (r : Record) : List Column := r.fields.map (·.column)

/-- The table type of the record. -/
def tableType (label : String) (r : Record) : TableType where
  label
  name := r.table
  columns := r.columns
  fields := some (r.fields.map (·.type))

/-- The functions of the record with the expressions that they build: each has the name of a field
and refers to its column in the table of the record. -/
def accessors (label : String) (r : Record) : List (String × Expr) :=
  r.fields.map fun f => (f.accessor, Builder.column (r.tableType label) f.column.name)

end Record

namespace RecordDeclaration

/-- Refuses type parameters, and what is not a record with named fields. -/
def checkShape (d : RecordDeclaration) : Except DeriveError Unit := do
  if hasTypeParameters d.typeParameters then throw .typeParameters
  match d.shape with
  | .named => return
  | .tuple | .unit => throw .noFieldNames
  | .enumeration | .union => throw .noRecord

/-- A field with the options that its attributes give. -/
def fieldOptions (f : FieldDeclaration) : Except DeriveError (FieldDeclaration × ColumnOptions) :=
  return (f, ← ColumnOptions.ofAttributes f.attributes)

/-- Refuses two auto-increment keys, and one beside another key column. -/
def checkKeys (options : List ColumnOptions) : Except DeriveError Unit :=
  match options.countP (·.autoIncrement) with
  | 0 => .ok ()
  | 1 =>
    if options.any fun o => o.primaryKey && !o.autoIncrement then .error .autoIncrementInKey
    else .ok ()
  | _ => .error .twoAutoIncrements

/-- The record of a declaration. -/
def derive (d : RecordDeclaration) : Except DeriveError Record := do
  let name ← tableName? d.attributes
  d.checkShape
  let fields ← d.fields.mapM fieldOptions
  checkKeys (fields.map (·.2))
  return ⟨name.getD (snakeCase d.name),
    fields.map fun (f, o) => ⟨f.name, f.type, o.column f⟩⟩

end RecordDeclaration

end TypedSql
