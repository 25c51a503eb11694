import TypedSql.Proofs.Record.Description

/-!
# Unknown items

An item whose key is not one of those for its attribute is unknown. All items of the fields are
read, and so are those of the table up to the first attribute that gives a name: an unknown item
there is refused, wherever it stands. What stands after that attribute is not read at all, so that
an unknown item there passes.

## Main definitions

* `RecordDeclaration.HasUnknownItem` — there is an unknown item in some attribute.

## Main results

* `RecordDeclaration.derive_unread` — attributes after one that gives a name do not matter.
* `RecordDeclaration.unknownItem_refused_or_unread` — unknown items are refused, but for these.
-/

set_option autoImplicit false

namespace TypedSql

open Attribute Attribute.Item

/-- The keys of the items for a column. -/
def Attribute.columnKeys : List String :=
  ["primary_key", "autoincrement", "references", "cascade", "index", "unique", "name"]

/-- An item for a column has one of their keys. -/
lemma Attribute.Item.IsColumnItem.path_mem {i : Item} (h : i.IsColumnItem) :
    i.path ∈ columnKeys := by
  cases h <;> simp [flag, given, columnKeys]

/-- The only key in an attribute that gives a table name is that of names. -/
lemma Attribute.Names.path_eq {a : Attribute} {name : String} (h : a.Names name) :
    ∀ i ∈ a.itemsFor "table", i.path = "name" := by
  obtain ⟨earlier, rfl⟩ := h
  simp only [itemsFor, if_pos, Option.getD_some]
  exact List.forall_mem_map.mpr fun _ _ => rfl

/-- There are no items in a silent attribute. -/
lemma Attribute.IsSilent.itemsFor_eq {a : Attribute} (h : a.IsSilent) :
    a.itemsFor "table" = [] := by
  unfold itemsFor
  split
  · rename_i hpath
    rw [h hpath, Option.getD_some]
  · rfl

/-- After an attribute that gives a name, the table name is settled. -/
lemma tableName?_unread (before : List Attribute) {a : Attribute} {name : String}
    (h : a.Names name) (after after' : List Attribute) :
    tableName? (before ++ a :: after) = tableName? (before ++ a :: after') := by
  induction before with
  | nil =>
    have hname : ∀ rest, tableName? (a :: rest) = .ok (some name) := fun _ =>
      tableName?_some.mpr (firstNames_cons.mpr (.inl h))
    exact (hname after).trans (hname after').symm
  | cons b before ih =>
    -- what the first attribute is read as is the same with either rest
    by_cases hpath : b.path = "table"
    · simp only [List.cons_append, tableName?, if_pos hpath, ih]
    · simp only [List.cons_append, tableName?, if_neg hpath, ih]

namespace RecordDeclaration

/-- The attributes of the table or of a field hold an item with an unknown key. -/
def HasUnknownItem (d : RecordDeclaration) : Prop :=
  (∃ a ∈ d.attributes, ∃ i ∈ a.itemsFor "table", i.path ≠ "name") ∨
    ∃ f ∈ d.fields, ∃ i ∈ f.items, i.path ∉ columnKeys

/-- The declaration with other attributes for the table. -/
def withAttributes (d : RecordDeclaration) (as : List Attribute) : RecordDeclaration :=
  { d with attributes := as }

variable {d : RecordDeclaration}

/-- Attributes after one that gives a table name do not matter. -/
theorem derive_unread {before after : List Attribute} {a : Attribute} {name : String}
    (hsplit : d.attributes = before ++ a :: after) (h : a.Names name) (after' : List Attribute) :
    (d.withAttributes (before ++ a :: after')).derive = d.derive := by
  have hname : tableName? (d.withAttributes (before ++ a :: after')).attributes =
      tableName? d.attributes := by
    rw [hsplit]
    exact tableName?_unread before h after' after
  rw [derive, derive, hname]
  rfl

/-- A declaration with an unknown item is refused, or its unknown items all stand in attributes
after the first that gives a table name, and the declaration has the record that it has without
these attributes.

*Proof sketch.* If the declaration has a record, it describes a table. Then all items of its fields
are ones for a column, and an attribute of the table that holds an unknown item is not silent: one
before it gives a name, and the attributes after that one are not read. -/
theorem unknownItem_refused_or_unread (d : RecordDeclaration) (h : d.HasUnknownItem) :
    (∃ e, d.derive = .error e) ∨
      ∃ before a after name, d.attributes = before ++ a :: after ∧ (∀ b ∈ before, b.IsSilent) ∧
        a.Names name ∧ ¬ (d.withAttributes (before ++ [a])).HasUnknownItem ∧
        d.derive = (d.withAttributes (before ++ [a])).derive := by
  cases hderive : d.derive with
  | error e => exact .inl ⟨e, rfl⟩
  | ok r =>
    have hdescribes := (derive_ok.mp hderive).2.1
    have hfields : ¬ ∃ f ∈ d.fields, ∃ i ∈ f.items, i.path ∉ columnKeys := by
      rintro ⟨f, hf, i, hi, hkey⟩
      exact hkey ((describes_iff.mp hdescribes).2.1 f hf i hi).path_mem
    rcases hdescribes.table with ⟨before, a, after, hsplit, hbefore, ha⟩ | ⟨hsilent, -⟩
    · refine .inr ⟨before, a, after, r.table, hsplit, hbefore, ha, ?_,
        hderive ▸ (derive_unread hsplit ha []).symm⟩
      rintro (⟨b, hb, i, hi, hkey⟩ | hunknown)
      · rcases List.mem_append.mp hb with hb | hb
        · rw [(hbefore b hb).itemsFor_eq] at hi
          cases hi
        · obtain rfl := List.mem_singleton.mp hb
          exact hkey (ha.path_eq i hi)
      · exact hfields hunknown
    · obtain ⟨a, ha, i, hi, -⟩ := h.resolve_right hfields
      rw [(hsilent a ha).itemsFor_eq] at hi
      cases hi

end RecordDeclaration

namespace Sample

/-- A pet with a table name and, in a later attribute, a misspelt key. -/
def misspeltPet : RecordDeclaration where
  name := "Pet"
  attributes := [⟨"table", some [given "name" "pet"]⟩, ⟨"table", some [flag "nme"]⟩]
  fields := [⟨"name", .required .text, []⟩]

/-- The declaration has an item that is not known. -/
lemma misspeltPet_hasUnknownItem : misspeltPet.HasUnknownItem :=
  .inl ⟨⟨"table", some [flag "nme"]⟩, by simp [misspeltPet], flag "nme", by simp [itemsFor],
    by simp [flag]⟩

/-- The declaration has a record all the same. -/
lemma misspeltPet_derive : misspeltPet.derive =
    .ok ⟨"pet", [⟨"name", .required .text, .new "name" (.plain .text)⟩]⟩ := by
  decide +kernel

/-- The misspelt key of the pet is unknown, but the declaration is not refused. -/
theorem misspeltPet_accepted :
    misspeltPet.HasUnknownItem ∧ ¬ ∃ e, misspeltPet.derive = .error e := by
  refine ⟨misspeltPet_hasUnknownItem, ?_⟩
  rintro ⟨e, he⟩
  cases he.symm.trans misspeltPet_derive

/-- The misspelt key is not read: it stands after the table name. -/
theorem misspeltPet_unread : misspeltPet.HasUnknownItem ∧
    ∃ before a after name, misspeltPet.attributes = before ++ a :: after ∧
      (∀ b ∈ before, b.IsSilent) ∧ a.Names name ∧
      ¬ (misspeltPet.withAttributes (before ++ [a])).HasUnknownItem ∧
      misspeltPet.derive = (misspeltPet.withAttributes (before ++ [a])).derive := by
  refine ⟨misspeltPet_hasUnknownItem, ?_⟩
  rcases RecordDeclaration.unknownItem_refused_or_unread misspeltPet misspeltPet_hasUnknownItem with
    ⟨e, he⟩ | hunread
  · cases he.symm.trans misspeltPet_derive
  · exact hunread

end Sample

end TypedSql
