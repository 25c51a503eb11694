import TypedSql.Store.Evaluate
import TypedSql.Statement.Basic

/-!
# Stores

A store holds tables and indexes, and keeps their constraints: a statement that would break one
changes nothing.

## Main definitions

* `Store` — tables and indexes.
* `Store.createTable`, `Store.createIndex` — creation of what does not exist yet.
* `Store.matching` — the rows of a table that pass a condition.
* `Store.sortRows` — rows in the order of sort keys.
* `Store.cascade` — the deletions that follow from a deletion.
* `Store.checked` — a changed store, if its constraints hold.
-/

set_option autoImplicit false

namespace TypedSql

/-- The index of a column. -/
structure StoredIndex where
  name : String
  table : String
  column : String
  unique : Bool
  deriving DecidableEq, Repr

/-- Tables and indexes. -/
structure Store where
  tables : List StoredTable := []
  indexes : List StoredIndex := []
  enforceForeignKeys : Bool := true

namespace Store

/-- The table of a name, or a failure. -/
def table (s : Store) (name : String) : Except StoreError StoredTable := findTable s.tables name

/-- Replaces a table. -/
def put (s : Store) (t : StoredTable) : Store :=
  { s with tables := s.tables.map fun u => if sameName u.name t.name then t else u }

/-! ## Creation -/

/-- The words that cannot be names. -/
def reservedWords : List String :=
  ["ADD", "ALL", "ALTER", "AND", "AS", "AUTOINCREMENT", "BETWEEN", "CASE", "CHECK", "COLLATE",
    "COMMIT", "CONSTRAINT", "CREATE", "DEFAULT", "DEFERRABLE", "DELETE", "DISTINCT", "DROP",
    "ELSE", "ESCAPE", "EXCEPT", "EXISTS", "FOREIGN", "FROM", "GROUP", "HAVING", "IN", "INDEX",
    "INSERT", "INTERSECT", "INTO", "IS", "ISNULL", "JOIN", "LIMIT", "NOT", "NOTHING", "NOTNULL",
    "NULL", "ON", "OR", "ORDER", "PRIMARY", "REFERENCES", "RETURNING", "SELECT", "SET", "TABLE",
    "THEN", "TO", "TRANSACTION", "UNION", "UNIQUE", "UPDATE", "USING", "VALUES", "WHEN", "WHERE"]

/-- Whether a name is a reserved word. -/
def isReserved (name : String) : Bool := reservedWords.contains (name.map Char.toUpper)

/-- Whether the store keeps a name for itself. -/
def isInternal (name : String) : Bool :=
  "sqlite_".toList.isPrefixOf (name.toList.map Char.toLower)

/-- Whether two names of a list are the same. -/
def hasSameNames : List String → Bool
  | [] => false
  | n :: ns => ns.any (sameName n) || hasSameNames ns

/-- Creates a table, if there is none of its name. -/
def createTable (s : Store) (t : Table) : Except StoreError Store :=
  let names := t.name :: t.columns.map (·.name)
  match names.find? isReserved with
  | some name => .error (.reservedWord name)
  | none =>
    if isInternal t.name then .error (.internalName t.name)
    else if (findTable? s.tables t.name).isSome then .ok s
    else if s.indexes.any fun i => sameName i.name t.name then .error (.nameTaken t.name)
    else if hasSameNames (t.columns.map (·.name)) then .error .duplicateColumn
    else .ok { s with tables := s.tables ++ [{ declared := t }] }

/-- The lists of places at which the rows of a table may not clash: its key, and the columns of its
unique indexes. -/
def uniquePlaces (s : Store) (t : StoredTable) : List (List Nat) :=
  let indexed := s.indexes.filterMap fun i =>
    if i.unique && sameName i.table t.name then (t.place? i.column).map fun p => [p] else none
  (if t.keyPlaces.isEmpty then [] else [t.keyPlaces]) ++ indexed

/-- Whether the rows of a table are unique where they have to be. -/
def isUnique (s : Store) (t : StoredTable) : Bool :=
  (s.uniquePlaces t).all fun places => StoredTable.distinctOn places t.rows

/-- Creates the index of a column, if there is none of its name. -/
def createIndex (s : Store) (table column : String) (index : Index) : Except StoreError Store := do
  let name := Command.indexName table column index
  let t ← s.table table
  if isInternal name then throw (.internalName name)
  if (findTable? s.tables name).isSome then throw (.nameTaken name)
  if s.indexes.any fun i => sameName i.name name then return s
  if (t.place? column).isNone then throw (.noColumn column)
  let added : StoredIndex := ⟨name, t.name, column, index == .unique⟩
  let s := { s with indexes := s.indexes ++ [added] }
  if s.isUnique t then return s else throw StoreError.duplicate

/-! ## Reading -/

/-- The rows of a table that pass a condition. -/
def matching (s : Store) (t : StoredTable) (c : Condition) (params : List Datum) :
    Except StoreError (List StoredRow) :=
  match c.unresolved? s.tables [t] with
  | some e => .error e
  | none => t.rows.filterM (c.holds s.tables params t)

/-- The comparison of two rows by one sort key. -/
def compareBy (direction : Direction) (x y : Datum) : Ordering :=
  match direction with
  | .ascending | .nullsFirst => x.sortCompare y
  | .descending => y.sortCompare x
  | .nullsLast =>
    match x.isNull, y.isNull with
    | true, true => .eq
    | true, false => .gt
    | false, true => .lt
    | false, false => x.sortCompare y

/-- The comparison of two rows by sort keys, the first key first. -/
def compareRows (keys : List (Nat × Direction)) (r s : StoredRow) : Ordering :=
  keys.foldr (fun (i, d) rest => (compareBy d (r.value i) (s.value i)).then rest) .eq

/-- Rows in the order of sort keys; rows that the keys do not tell apart keep their order. -/
def sortRows (t : StoredTable) (order : List OrderTerm) (rows : List StoredRow) :
    Except StoreError (List StoredRow) := do
  let places ← t.places (order.map (·.column))
  let keys := places.zip (order.map (·.direction))
  return rows.mergeSort fun r s => compareRows keys r s != .gt

/-! ## Foreign keys -/

/-- The foreign keys of a table, each with its column. -/
def foreignKeys (t : StoredTable) : List (Column × ForeignKey) :=
  t.declared.columns.filterMap fun c => c.references.map fun fk => (c, fk)

/-- Whether a column of a table can be referred to: it is its key, or has a unique index. -/
def canBeReferred (s : Store) (t : StoredTable) (column : String) : Bool :=
  match t.place? column with
  | some i => (s.uniquePlaces t).contains [i]
  | none => false

/-- Refuses a table one of whose foreign keys, on one of the given columns, refers to nothing that
can be referred to. -/
def checkReferences (s : Store) (t : StoredTable) (columns : List String) :
    Except StoreError Unit :=
  if !s.enforceForeignKeys then .ok ()
  else if (foreignKeys t).all fun (c, fk) =>
      !columns.any (sameName c.name) ||
        ((findTable? s.tables fk.table).any fun p => s.canBeReferred p fk.column) then .ok ()
  else .error .reference

/-- Whether each value of a foreign key that is not NULL is that of a row it may refer to. -/
def refersToRows (s : Store) (t : StoredTable) : Bool :=
  (foreignKeys t).all fun (c, fk) =>
    match t.place? c.name, findTable? s.tables fk.table with
    | some i, some p =>
      match p.place? fk.column with
      | some j => t.rows.all fun r =>
        (r.value i).isNull || p.rows.any fun q => (r.value i).equals (q.value j)
      | none => true
    | _, _ => true

/-- The rows of a table that go when rows of another table are deleted. -/
def follows (t parent : StoredTable) (gone : List StoredRow) (r : StoredRow) : Bool :=
  (foreignKeys t).any fun (c, fk) =>
    c.cascade && sameName fk.table parent.name &&
      match t.place? c.name, parent.place? fk.column with
      | some i, some j => gone.any fun g => (r.value i).equals (g.value j)
      | _, _ => false

/-- Deletes the rows that refer, by a foreign key that cascades, to deleted rows of a table; then
those that refer to these, and so on as often as the bound allows. -/
def cascade : Nat → Store → StoredTable → List StoredRow → Store
  | 0, s, _, _ => s
  | n + 1, s, parent, gone =>
    s.tables.foldl (fun s child =>
      match findTable? s.tables child.name with
      | none => s
      | some t =>
        let (deleted, kept) := t.rows.partition (follows t parent gone)
        if deleted.isEmpty then s else cascade n (s.put { t with rows := kept }) t deleted) s

/-- The number of rows, which bounds how often a deletion can lead to another. -/
def rowCount (s : Store) : Nat := (s.tables.flatMap (·.rows)).length

/-! ## Constraints -/

/-- The changed store, if the rows of the changed table are unique where they have to be, and all
foreign keys refer to rows. -/
def checked (s : Store) (t : StoredTable) : Except StoreError Store :=
  if !s.isUnique t then .error .duplicate
  else if s.enforceForeignKeys && !s.tables.all s.refersToRows then .error .foreignKey
  else .ok s

end Store

end TypedSql
