import TypedSql.Schema.Column
import TypedSql.Proofs.Sql.WriteText

/-!
# Reading the texts that create a table

What is known of a table is scattered over the text that creates it and those that create its
indexes: a key may be declared with its column or in a clause of its own, and a column that takes
NULL says so by saying nothing. The reader takes the lexemes of each text one after another. It
takes a word for a name wherever a name has to stand; a clause for a key is told apart from a column
by its second word, since no type of a column is called like it.

## Main definitions

* `ColumnText`, `ClauseText` — what the definition of a column and what a clause says.
* `TableText` — what the texts that create a table and its indexes say.
* `TableText.keys` — the columns of the primary key, wherever they are declared.
* `TableText.ofTexts?` — the reader.
-/

set_option autoImplicit false

namespace TypedSql

/-- What the definition of a column says. -/
structure ColumnText where
  name : String
  type : String
  notNull : Bool
  /-- A primary key that the database counts up. -/
  autoIncrement : Bool
  references : Option ForeignKey
  cascade : Bool
  deriving DecidableEq, Repr

/-- What a clause between the parentheses of a table says. -/
inductive ClauseText where
  /-- The definition of a column. -/
  | column (c : ColumnText)
  /-- The columns of the primary key. -/
  | key (columns : List String)
  deriving DecidableEq, Repr

namespace ClauseText

/-- The column that the clause defines. -/
def column? : ClauseText → Option ColumnText
  | .column c => some c
  | .key _ => none

/-- The key that the clause declares. -/
def key? : ClauseText → Option (List String)
  | .column _ => none
  | .key columns => some columns

end ClauseText

/-- What the texts that create a table and its indexes say. -/
structure TableText where
  name : String
  clauses : List ClauseText
  /-- The columns with an index. -/
  indexes : List (String × Index)
  deriving DecidableEq, Repr

namespace TableText

variable (t : TableText)

/-- The columns that are defined, in order. -/
def columns : List ColumnText := t.clauses.filterMap ClauseText.column?

/-- The clauses for a key. -/
def keyClauses : List (List String) := t.clauses.filterMap ClauseText.key?

/-- The columns that are declared keys where they are defined. -/
def inlineKeys : List String := (t.columns.filter (·.autoIncrement)).map (·.name)

/-- The columns of the primary key, as often as they are declared. -/
def keys : List String := t.inlineKeys ++ t.keyClauses.flatten

end TableText

namespace Sql

/-- Whether a column excludes NULL, whether it is a key that is counted up, and what follows. -/
def readConstraint : List Lexeme → (Bool × Bool) × List Lexeme
  | .word "PRIMARY" :: .word "KEY" :: .word "AUTOINCREMENT" :: rest => ((false, true), rest)
  | .word "NOT" :: .word "NULL" :: rest => ((true, false), rest)
  | rest => ((false, false), rest)

/-- Whether rows go with the row they refer to, and what follows. -/
def readCascade : List Lexeme → Bool × List Lexeme
  | .word "ON" :: .word "DELETE" :: .word "CASCADE" :: rest => (true, rest)
  | rest => (false, rest)

/-- Where a foreign key points, if there is one, whether it cascades, and what follows. -/
def readReference : List Lexeme → (Option ForeignKey × Bool) × List Lexeme
  | .word "REFERENCES" :: .word table :: .mark .opening :: .word column :: .mark .closing :: rest =>
    let (cascade, rest) := readCascade rest
    ((some ⟨table, column⟩, cascade), rest)
  | rest => ((none, false), rest)

/-- The definition of a column, or a key. -/
def readClause : List Lexeme → Option (ClauseText × List Lexeme)
  | .word name :: .word type :: rest =>
    if name = "PRIMARY" ∧ type = "KEY" then
      (readList readName rest).map fun (columns, rest) => (.key columns, rest)
    else
      let ((notNull, autoIncrement), rest) := readConstraint rest
      let ((references, cascade), rest) := readReference rest
      some (.column ⟨name, type, notNull, autoIncrement, references, cascade⟩, rest)
  | _ => none

/-- The name and the clauses of a table. -/
def readTable : List Lexeme → Option (String × List ClauseText)
  | .word "CREATE" :: .word "TABLE" :: .word "IF" :: .word "NOT" :: .word "EXISTS" ::
      .word name :: rest =>
    match readList readClause rest with
    | some (clauses, []) => some (name, clauses)
    | _ => none
  | _ => none

/-- The column of an index on a table. -/
def readIndexed (table : String) : List Lexeme → Option String
  | [.word "IF", .word "NOT", .word "EXISTS", .word _, .word "ON", .word name, .mark .opening,
      .word column, .mark .closing] => if name = table then some column else none
  | _ => none

/-- The column and the kind of an index on a table. -/
def readIndex (table : String) : List Lexeme → Option (String × Index)
  | .word "CREATE" :: .word "INDEX" :: rest => (readIndexed table rest).map (·, .plain)
  | .word "CREATE" :: .word "UNIQUE" :: .word "INDEX" :: rest =>
    (readIndexed table rest).map (·, .unique)
  | _ => none

end Sql

/-- What the texts that create a table say: the first one creates the table, and each of the others
an index on it. -/
def TableText.ofTexts? : List String → Option TableText
  | [] => none
  | text :: texts => do
    let (name, clauses) ← (Sql.lex text.toList).bind Sql.readTable
    let indexes ← texts.mapM fun text => (Sql.lex text.toList).bind (Sql.readIndex name)
    return ⟨name, clauses, indexes⟩

end TypedSql
