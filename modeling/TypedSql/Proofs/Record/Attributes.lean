import TypedSql.Record.Derive
import TypedSql.Proofs.Computation
import TypedSql.Proofs.Sql.Lexer

/-!
# What attributes say

The attributes of a field are read item by item, and each item is added to what the items before it
have given. This file says what they give with no reference to that order: an option is set if its
item is among them, a name and a reference are the last that are given, and a unique index prevails.
The table name is that of the first attribute that gives one.

## Main definitions

* `Attribute.columnItems` — the items for a column in the attributes of a field.
* `Attribute.Item.IsColumnItem` — the items that are accepted for a column.
* `ColumnOptions.ofItems` — the options that items give.
* `Attribute.Names`, `Attribute.IsSilent` — attributes that give a table name, and those that give
  none; `Attribute.FirstNames` — the name that the first of several gives.

## Main results

* `parseReference_ok` — references are two names with a point between them.
* `ColumnOptions.ofAttributes_ok` — which attributes of a field are accepted, and what they give.
* `tableName?_some`, `tableName?_none` — which table name the attributes of a record give.
-/

set_option autoImplicit false

namespace TypedSql

open Text (IsIdentifier)

/-! ## References -/

/-- Two names with a point between them. -/
def IsReference (text : String) (fk : ForeignKey) : Prop :=
  text = fk.table ++ "." ++ fk.column ∧ IsIdentifier fk.table ∧ IsIdentifier fk.column

/-- There is no point in a name. -/
lemma Text.IsIdentifier.ne_point {s : String} (h : IsIdentifier s) : ∀ c ∈ s.toList, c ≠ '.' := by
  rintro c hc rfl
  exact absurd (List.all_eq_true.mp h.all_isNameChar '.' hc) (by decide)

/-- The characters of a table and a column with a point between them. -/
lemma toList_joined (table column : String) :
    (table ++ "." ++ column).toList = table.toList ++ '.' :: column.toList := by
  simp

/-- A text that is cut at its first point is a reference if and only if it is two names with a point
between them. -/
theorem parseReference_ok {text : String} {fk : ForeignKey} :
    parseReference text = .ok fk ↔ IsReference text fk := by
  constructor
  · intro h
    simp only [parseReference] at h
    split at h
    · rename_i rest hrest
      split at h
      · rename_i hnames
        cases h
        refine ⟨String.toList_inj.mp ?_, hnames⟩
        rw [toList_joined, String.toList_ofList, String.toList_ofList, ← hrest,
          List.takeWhile_append_dropWhile]
      · cases h
    · cases h
  · rintro ⟨rfl, htable, hcolumn⟩
    have hfront : ∀ c ∈ fk.table.toList, (c != '.') = true := fun c hc => by
      simpa using htable.ne_point c hc
    obtain ⟨htake, hdrop⟩ :=
      Sql.takeWhile_append_stop ('.' :: fk.column.toList) hfront (by simp)
    simp only [parseReference, toList_joined, htake, hdrop, String.ofList_toList]
    rw [if_pos ⟨htable, hcolumn⟩]

namespace Attribute

/-! ## Items -/

/-- The items of an attribute, if it is one with the path. -/
def itemsFor (path : String) (a : Attribute) : List Item :=
  if a.path = path then a.items.getD [] else []

/-- The items for a column in attributes. -/
def columnItems (as : List Attribute) : List Item := as.flatMap (itemsFor "column")

namespace Item

/-- The item that is only a key. -/
def flag (key : String) : Item := ⟨key, none⟩

/-- The item that gives a text for a key. -/
def given (key text : String) : Item := ⟨key, some (.text text)⟩

/-- The items for a column. -/
inductive IsColumnItem : Item → Prop
  | primaryKey : IsColumnItem (flag "primary_key")
  | autoIncrement : IsColumnItem (flag "autoincrement")
  | cascade : IsColumnItem (flag "cascade")
  | index : IsColumnItem (flag "index")
  | unique : IsColumnItem (flag "unique")
  | references {text : String} {fk : ForeignKey} (h : IsReference text fk) :
    IsColumnItem (given "references" text)
  | name (name : String) : IsColumnItem (given "name" name)

/-- The text that an item gives for a key. -/
def textFor? (key : String) (i : Item) : Option String :=
  match i.value with
  | some (.text s) => if i.path = key then some s else none
  | _ => none

/-- The column that an item refers to. -/
def reference? (i : Item) : Option ForeignKey :=
  (i.textFor? "references").bind fun text => (parseReference text).toOption

variable {i : Item} {key s : String}

/-- An item has a text for a key if it is this key with the text. -/
lemma textFor?_eq_some : i.textFor? key = some s ↔ i = given key s := by
  rcases i with ⟨path, _ | _ | _⟩ <;> simp [textFor?, given]

/-- An item gives a reference if it is the key for references with the text of one. -/
lemma reference?_eq_some {fk : ForeignKey} :
    i.reference? = some fk ↔ ∃ text, i = given "references" text ∧ IsReference text fk := by
  simp only [reference?, Option.bind_eq_some_iff, textFor?_eq_some, except_toOption_some,
    parseReference_ok]

/-- An item with a key has no value if and only if it is only the key. -/
lemma noValue_ok (h : i.path = key) : i.noValue = .ok () ↔ i = flag key := by
  rcases i with ⟨path, _ | _⟩ <;> simp_all [noValue, flag]

/-- An item with a key has a text if and only if it gives it for the key. -/
lemma textValue_ok (h : i.path = key) : i.textValue = .ok s ↔ i = given key s := by
  rcases i with ⟨path, _ | _ | _⟩ <;> simp_all [textValue, given]

end Item

end Attribute

/-! ## Options of a column -/

namespace ColumnOptions

open Attribute Attribute.Item

/-- The options with further items, whatever their order: a name and a reference are the last that
are given, and a unique index prevails. -/
def extend (o : ColumnOptions) (is : List Item) : ColumnOptions where
  name := (is.filterMap (textFor? "name")).getLast?.or o.name
  primaryKey := o.primaryKey || decide (flag "primary_key" ∈ is)
  autoIncrement := o.autoIncrement || decide (flag "autoincrement" ∈ is)
  references := (is.filterMap reference?).getLast?.or o.references
  cascade := o.cascade || decide (flag "cascade" ∈ is)
  index := if flag "unique" ∈ is then some .unique
    else o.index.or (if flag "index" ∈ is then some .plain else none)

/-- The options that items give. -/
def ofItems (is : List Item) : ColumnOptions := extend {} is

variable {o o' : ColumnOptions} {i : Item} {a : Attribute} {as : List Attribute}

/-- No items change no options. -/
lemma extend_nil : o.extend [] = o := by
  simp [extend]

/-- Items may be added in two parts. -/
lemma extend_append (is js : List Item) : o.extend (is ++ js) = (o.extend is).extend js := by
  simp only [extend, List.filterMap_append, List.getLast?_append, Option.or_assoc,
    List.mem_append, Bool.decide_or, Bool.or_assoc, mk.injEq, true_and]
  by_cases hi : flag "unique" ∈ is <;> by_cases hj : flag "unique" ∈ js <;>
    by_cases hi' : flag "index" ∈ is <;> cases o.index <;> simp [hi, hj, hi']

/-- An item that is added is one for a column. -/
lemma isColumnItem_of_addItem (h : addItem o i = .ok o') : i.IsColumnItem := by
  unfold addItem at h
  split at h
  case h_6 hpath =>
    obtain ⟨text, htext, h⟩ := except_bind_ok.mp h
    obtain ⟨fk, hfk, -⟩ := except_bind_ok.mp h
    rw [(textValue_ok hpath).mp htext]
    exact .references (parseReference_ok.mp hfk)
  case h_7 hpath =>
    obtain ⟨name, hname, -⟩ := except_bind_ok.mp h
    rw [(textValue_ok hpath).mp hname]
    exact .name name
  case h_8 => cases h
  all_goals
    rename_i hpath
    obtain ⟨⟨⟩, hvalue, -⟩ := except_bind_ok.mp h
    rw [(noValue_ok hpath).mp hvalue]
    constructor

/-- An item for a column is added. -/
lemma addItem_of_isColumnItem (h : i.IsColumnItem) : addItem o i = .ok (o.extend [i]) := by
  cases h with
  | @references text fk hfk =>
    have hparse := parseReference_ok.mpr hfk
    refine except_bind_ok.mpr ⟨text, rfl, except_bind_ok.mpr ⟨fk, hparse, ?_⟩⟩
    simp [given, extend, textFor?, reference?, hparse, flag, except_pure_ok, Except.toOption]
  | name name =>
    refine except_bind_ok.mpr ⟨name, rfl, ?_⟩
    simp [given, extend, textFor?, reference?, flag, except_pure_ok]
  | _ =>
    refine except_bind_ok.mpr ⟨(), rfl, ?_⟩
    simp [flag, extend, textFor?, reference?, except_pure_ok]

/-- An item is added if and only if it is one for a column. -/
lemma addItem_ok : addItem o i = .ok o' ↔ i.IsColumnItem ∧ o.extend [i] = o' := by
  constructor
  · intro h
    have hi := isColumnItem_of_addItem h
    exact ⟨hi, Except.ok.inj ((addItem_of_isColumnItem hi).symm.trans h)⟩
  · rintro ⟨hi, rfl⟩
    exact addItem_of_isColumnItem hi

/-- Items that are added in any number of parts. -/
lemma foldl_extend {α : Type} (f : α → List Item) (xs : List α) (o : ColumnOptions) :
    xs.foldl (fun o x => o.extend (f x)) o = o.extend (xs.flatMap f) := by
  induction xs generalizing o with
  | nil => exact extend_nil.symm
  | cons x xs ih => rw [List.foldl_cons, ih, List.flatMap_cons, extend_append]

/-- An attribute is added if and only if its items are ones for a column. -/
lemma addAttribute_ok : addAttribute o a = .ok o' ↔
    (∀ i ∈ a.itemsFor "column", i.IsColumnItem) ∧ o.extend (a.itemsFor "column") = o' := by
  unfold addAttribute itemsFor
  split
  · rw [except_foldlM_ok (f := addItem) fun _ _ _ => addItem_ok,
      foldl_extend (fun i => [i]), List.flatMap_singleton']
  · simp [extend_nil]

/-- The attributes of a field are accepted if and only if their items are ones for a column and a
column that cascades refers to another; the column has the options that the items give. -/
theorem ofAttributes_ok : ofAttributes as = .ok o ↔
    (∀ i ∈ columnItems as, i.IsColumnItem) ∧ (o.cascade = true → o.references ≠ none) ∧
      ofItems (columnItems as) = o := by
  have hread : ∀ o, as.foldlM addAttribute {} = .ok o ↔
      (∀ i ∈ columnItems as, i.IsColumnItem) ∧ ofItems (columnItems as) = o := by
    intro o
    rw [except_foldlM_ok (f := addAttribute) fun _ _ _ => addAttribute_ok,
      foldl_extend (itemsFor "column"), ofItems, columnItems]
    simp only [List.mem_flatMap, forall_exists_index, and_imp]
    exact and_congr_left fun _ => ⟨fun h i a ha hi => h a ha i hi, fun h a ha i hi => h i a ha hi⟩
  simp only [ofAttributes, except_bind_ok, hread]
  constructor
  · rintro ⟨o, ⟨hitems, rfl⟩, h⟩
    split at h
    · cases h
    · rename_i hguard
      cases except_pure_ok.mp h
      exact ⟨hitems, by simpa using hguard, rfl⟩
  · rintro ⟨hitems, hcascade, rfl⟩
    refine ⟨_, ⟨hitems, rfl⟩, ?_⟩
    rw [if_neg (by simpa using hcascade)]
    rfl

end ColumnOptions

/-! ## Table names -/

namespace Attribute

open Item

/-- An attribute that gives a table name: its items are names, and this is the last. -/
def Names (a : Attribute) (name : String) : Prop :=
  ∃ earlier : List String, a = ⟨"table", some ((earlier ++ [name]).map (given "name"))⟩

/-- An attribute that gives no table name: it is for something else, or has no items between its
parentheses. -/
def IsSilent (a : Attribute) : Prop := a.path = "table" → a.items = some []

/-- An attribute that gives a name is not silent. -/
lemma Names.not_isSilent {a : Attribute} {name : String} (h : a.Names name) : ¬ a.IsSilent := by
  obtain ⟨earlier, rfl⟩ := h
  simp [IsSilent]

/-- An attribute gives one name only. -/
lemma Names.unique {a : Attribute} {name name' : String} (h : a.Names name) (h' : a.Names name') :
    name = name' := by
  obtain ⟨earlier, rfl⟩ := h
  obtain ⟨earlier', h'⟩ := h'
  have hlast := congrArg (fun a : Attribute => a.items.bind List.getLast?) h'
  simpa [given] using hlast

/-- The first attribute that is not silent gives the name. -/
def FirstNames (as : List Attribute) (name : String) : Prop :=
  ∃ before a after, as = before ++ a :: after ∧ (∀ b ∈ before, b.IsSilent) ∧ a.Names name

/-- The first name is that of the first attribute or, if this is silent, that of the others. -/
lemma firstNames_cons {a : Attribute} {as : List Attribute} {name : String} :
    FirstNames (a :: as) name ↔ a.Names name ∨ a.IsSilent ∧ FirstNames as name := by
  constructor
  · rintro ⟨_ | ⟨b, before⟩, c, after, hsplit, hbefore, hc⟩
    · obtain ⟨rfl, -⟩ := List.cons.inj hsplit
      exact .inl hc
    · obtain ⟨rfl, rfl⟩ := List.cons.inj hsplit
      obtain ⟨ha, hbefore⟩ := List.forall_mem_cons.mp hbefore
      exact .inr ⟨ha, before, c, after, rfl, hbefore, hc⟩
  · rintro (ha | ⟨ha, before, c, after, rfl, hbefore, hc⟩)
    · exact ⟨[], a, as, rfl, by simp, ha⟩
    · exact ⟨a :: before, c, after, rfl, List.forall_mem_cons.mpr ⟨ha, hbefore⟩, hc⟩

/-- Attributes that give a name or are silent are all silent, or the first that is not gives one. -/
lemma silent_or_firstNames {as : List Attribute}
    (h : ∀ a ∈ as, a.IsSilent ∨ ∃ name, a.Names name) :
    (∀ a ∈ as, a.IsSilent) ∨ ∃ name, FirstNames as name := by
  induction as with
  | nil => exact .inl (by simp)
  | cons a as ih =>
    simp only [firstNames_cons]
    obtain ⟨hsilent | ⟨name, hname⟩, has⟩ := List.forall_mem_cons.mp h
    · rcases ih has with hrest | ⟨name, hname⟩
      · exact .inl (List.forall_mem_cons.mpr ⟨hsilent, hrest⟩)
      · exact .inr ⟨name, .inr ⟨hsilent, hname⟩⟩
    · exact .inr ⟨name, .inl hname⟩

end Attribute

open Attribute Attribute.Item

/-- The items of an attribute are accepted if and only if all are names; the last one is taken. -/
lemma tableNameOfItems_ok {found name? : Option String} {is : List Item} :
    tableNameOfItems found is = .ok name? ↔
      ∃ names : List String, is = names.map (given "name") ∧ names.getLast?.or found = name? := by
  induction is generalizing found with
  | nil => simp [tableNameOfItems]
  | cons i is ih =>
    rw [tableNameOfItems]
    split
    · rename_i hpath
      have hlast : ∀ (name : String) (names : List String),
          (name :: names).getLast?.or found = names.getLast?.or (some name) := by
        intro name names
        cases h : names.getLast? <;> simp [List.getLast?_cons, h]
      simp only [except_bind_ok, textValue_ok hpath, ih]
      constructor
      · rintro ⟨name, rfl, names, rfl, rfl⟩
        exact ⟨name :: names, rfl, hlast name names⟩
      · rintro ⟨_ | ⟨name, names⟩, hitems, rfl⟩
        · cases hitems
        · obtain ⟨rfl, rfl⟩ := List.cons.inj hitems
          exact ⟨name, rfl, names, rfl, (hlast name names).symm⟩
    · rename_i hpath
      constructor
      · intro h
        cases h
      · rintro ⟨_ | ⟨name, names⟩, hitems, -⟩
        · cases hitems
        · obtain ⟨rfl, -⟩ := List.cons.inj hitems
          exact absurd rfl hpath

variable {as : List Attribute} {name : String}

/-- A silent attribute is passed over, one that gives a name settles the name, and any other is
refused. -/
lemma tableName?_cons (a : Attribute) (as : List Attribute) :
    (a.IsSilent ∧ tableName? (a :: as) = tableName? as) ∨
    (∃ name, a.Names name ∧ tableName? (a :: as) = .ok (some name)) ∨
    (¬ a.IsSilent ∧ (∀ name, ¬ a.Names name) ∧ ∃ e, tableName? (a :: as) = .error e) := by
  rcases a with ⟨path, items⟩
  by_cases hpath : path = "table"
  · subst hpath
    rw [tableName?, if_pos rfl]
    cases items with
    | none => exact .inr (.inr ⟨by simp [IsSilent], by simp [Names], _, rfl⟩)
    | some items =>
      cases hname : tableNameOfItems none items with
      | error e =>
        have hnames : ∀ names : List String, items ≠ names.map (given "name") := by
          rintro names rfl
          cases hname.symm.trans (tableNameOfItems_ok.mpr ⟨names, rfl, rfl⟩)
        refine .inr (.inr ⟨fun hsilent => hnames [] (Option.some.inj (hsilent rfl)), ?_, e, ?_⟩)
        · rintro name ⟨earlier, h⟩
          cases h
          exact hnames _ rfl
        · simp [hname, bind, Except.bind]
      | ok found =>
        obtain ⟨names, rfl, rfl⟩ := tableNameOfItems_ok.mp hname
        rcases List.eq_nil_or_concat names with rfl | ⟨earlier, name, rfl⟩
        · exact .inl ⟨fun _ => rfl, rfl⟩
        · refine .inr (.inl ⟨name, ⟨earlier, by rw [List.concat_eq_append]⟩, ?_⟩)
          simp only [hname, bind, Except.bind]
          simp [pure, Except.pure]
  · exact .inl ⟨fun h => absurd h hpath, by rw [tableName?, if_neg hpath]⟩

/-- No table name is given if and only if every attribute is silent. -/
theorem tableName?_none : tableName? as = .ok none ↔ ∀ a ∈ as, a.IsSilent := by
  induction as with
  | nil => simp [tableName?]
  | cons a as ih =>
    rw [List.forall_mem_cons, ← ih]
    rcases tableName?_cons a as with ⟨hsilent, h⟩ | ⟨name, hname, h⟩ | ⟨hloud, -, e, h⟩
    · rw [h]
      exact (and_iff_right hsilent).symm
    · rw [h]
      exact iff_of_false nofun fun hsilent => hname.not_isSilent hsilent.1
    · rw [h]
      exact iff_of_false nofun fun hsilent => hloud hsilent.1

/-- The table name is that of the first attribute that is not silent. -/
theorem tableName?_some : tableName? as = .ok (some name) ↔ FirstNames as name := by
  induction as with
  | nil => simp [tableName?, FirstNames]
  | cons a as ih =>
    rw [firstNames_cons, ← ih]
    rcases tableName?_cons a as with ⟨hsilent, h⟩ | ⟨found, hfound, h⟩ | ⟨hloud, hnames, e, h⟩
    · have hnot : ¬ a.Names name := fun hname => hname.not_isSilent hsilent
      rw [h, or_iff_right hnot, and_iff_right hsilent]
    · have hnot : ¬ a.IsSilent := hfound.not_isSilent
      rw [h, or_iff_left fun hsilent => hnot hsilent.1, Except.ok.injEq, Option.some.injEq]
      exact ⟨fun hname => hname ▸ hfound, hfound.unique⟩
    · rw [h]
      exact iff_of_false nofun (by simp [hloud, hnames])

end TypedSql
