import TypedSql.FieldType

/-!
# Record declarations

A program declares a record by its name, its fields and the attributes on both. An attribute has a
path and, between parentheses, a list of items: an item is a path, alone or with a value.

## Main definitions

* `Attribute`, `Attribute.Item` — attributes and their items.
* `RecordDeclaration` — declarations.
-/

set_option autoImplicit false

namespace TypedSql

/-- The value of an item of an attribute. -/
inductive Attribute.Value where
  | text (s : String)
  /-- A literal that is no text. -/
  | other
  deriving DecidableEq, Repr

/-- An item of an attribute: a path, alone or with a value. -/
structure Attribute.Item where
  path : String
  value : Option Attribute.Value := none
  deriving DecidableEq, Repr

/-- An attribute; without parentheses it has no list of items. -/
structure Attribute where
  path : String
  items : Option (List Attribute.Item)
  deriving DecidableEq, Repr

/-- What is declared. -/
inductive RecordShape where
  /-- A record with named fields. -/
  | named
  /-- A record whose fields have positions only. -/
  | tuple
  /-- A record without fields. -/
  | unit
  | enumeration
  | union
  deriving DecidableEq, Repr

/-- A field with a name; a name may be marked as raw by `r#`. -/
structure FieldDeclaration where
  name : String
  type : FieldType
  attributes : List Attribute := []
  deriving DecidableEq, Repr

/-- The declaration of a record. -/
structure RecordDeclaration where
  name : String
  attributes : List Attribute := []
  /-- The text between the name and the fields. -/
  typeParameters : String := ""
  shape : RecordShape := .named
  fields : List FieldDeclaration
  deriving DecidableEq, Repr

/-- A name without the mark of a raw name. -/
def plainName (name : String) : String :=
  match name.toList with
  | 'r' :: '#' :: rest => String.ofList rest
  | _ => name

end TypedSql
