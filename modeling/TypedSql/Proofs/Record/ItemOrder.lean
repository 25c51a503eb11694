import TypedSql.Proofs.Record.Description

/-!
# The order of items

The items of a field are added one after the other, but the column that they give does not depend on
their order, nor on how they are spread over attributes or on which of them are repeated: it is
enough that a name and a reference are given at most once. Every option is a matter of whether its
item is there, and a unique index prevails over a plain one wherever both stand.

## Main definitions

* `FieldDeclaration.column?` — the column of a field, if its attributes are accepted.
* `Attribute.GivesOnce` — items with at most one name and at most one reference.

## Main results

* `FieldDeclaration.column?_orderFree` — the column does not depend on the order of the items.
-/

set_option autoImplicit false

namespace TypedSql

open Attribute Attribute.Item

/-! ## Items that are given once -/

namespace Attribute

/-- Items with at most one name and at most one reference. -/
structure GivesOnce (is : List Item) : Prop where
  name : is.countP (·.path = "name") ≤ 1
  references : is.countP (·.path = "references") ≤ 1

variable {is js : List Item}

/-- The order of items does not matter for how often they give a name or a reference. -/
lemma GivesOnce.perm (h : GivesOnce is) (hperm : js.Perm is) : GivesOnce js where
  name := hperm.countP_eq _ ▸ h.name
  references := hperm.countP_eq _ ▸ h.references

section Given

variable {α : Type} {key : String} {g : Item → Option α}

/-- The last of what items with a key give is anything that one of them gives, if there is at most
one. -/
lemma getLast?_filterMap_eq_some (hkey : ∀ i x, g i = some x → i.path = key)
    (his : is.countP (·.path = key) ≤ 1) {x : α} :
    (is.filterMap g).getLast? = some x ↔ ∃ i ∈ is, g i = some x := by
  have hlength : (is.filterMap g).length ≤ 1 := by
    rw [List.length_filterMap_eq_countP]
    refine (List.countP_mono_left fun i _ hi => ?_).trans his
    obtain ⟨y, hy⟩ := Option.isSome_iff_exists.mp hi
    exact decide_eq_true (hkey i y hy)
  rw [← List.mem_filterMap]
  match is.filterMap g, hlength with
  | [], _ => simp
  | [y], _ => simp [eq_comm]

/-- So it depends only on which items there are. -/
lemma getLast?_filterMap_congr (hkey : ∀ i x, g i = some x → i.path = key)
    (his : is.countP (·.path = key) ≤ 1) (hjs : js.countP (·.path = key) ≤ 1)
    (hsame : ∀ i, i ∈ js ↔ i ∈ is) :
    (js.filterMap g).getLast? = (is.filterMap g).getLast? := by
  ext x
  rw [getLast?_filterMap_eq_some hkey his, getLast?_filterMap_eq_some hkey hjs]
  simp only [hsame]

end Given

end Attribute

/-! ## Columns -/

namespace FieldDeclaration

/-- The column of a field, if its attributes are accepted. -/
def column? (f : FieldDeclaration) : Option Column :=
  (ColumnOptions.ofAttributes f.attributes).toOption.map (·.column f)

variable {f : FieldDeclaration} {c : Column}

/-- The attributes are accepted if their items are ones for a column and the column refers to
another if it cascades; this is then the column that the field describes. -/
lemma column?_eq_some :
    f.column? = some c ↔ f.Describes c ∧ (c.cascade = true → c.references ≠ none) := by
  simp only [column?, Option.map_eq_some_iff, except_toOption_some, ColumnOptions.ofAttributes_ok,
    describes_iff]
  constructor
  · rintro ⟨_, ⟨hitems, hcascade, rfl⟩, rfl⟩
    exact ⟨⟨hitems, (column_ofItems f).symm⟩, hcascade⟩
  · rintro ⟨⟨hitems, rfl⟩, hcascade⟩
    rw [← column_ofItems] at hcascade
    exact ⟨_, ⟨hitems, hcascade, rfl⟩, column_ofItems f⟩

/-- Attributes with the same items describe the same column. -/
lemma Describes.congr {as : List Attribute} (h : f.Describes c) (hf : GivesOnce f.items)
    (has : GivesOnce (columnItems as)) (hsame : ∀ i, i ∈ columnItems as ↔ i ∈ f.items) :
    ({ f with attributes := as } : FieldDeclaration).Describes c where
  items i hi := h.items i ((hsame i).mp hi)
  name := by
    have hkey : ∀ i name, textFor? "name" i = some name → i.path = "name" := fun i name hi => by
      rw [textFor?_eq_some.mp hi, given]
    rw [h.name, ← getLast?_filterMap_congr hkey hf.name has.name hsame]
    rfl
  kind := h.kind
  primaryKey := by rw [h.primaryKey, ← hsame, ← hsame]; rfl
  autoIncrement := by rw [h.autoIncrement, ← hsame]; rfl
  references := by
    have hkey : ∀ i fk, reference? i = some fk → i.path = "references" := fun i fk hi => by
      obtain ⟨text, rfl, -⟩ := reference?_eq_some.mp hi
      rfl
    rw [h.references, ← getLast?_filterMap_congr hkey hf.references has.references hsame]
    rfl
  cascade := by rw [h.cascade, ← hsame]; rfl
  index := by simp only [h.index, ← hsame]; rfl

/-- Attributes with the same items are accepted together, and with the same column. -/
lemma column?_congr {as : List Attribute} (hf : GivesOnce f.items)
    (has : GivesOnce (columnItems as)) (hsame : ∀ i, i ∈ columnItems as ↔ i ∈ f.items) :
    ({ f with attributes := as } : FieldDeclaration).column? = f.column? := by
  ext c
  rw [column?_eq_some, column?_eq_some]
  constructor
  · rintro ⟨h, hcascade⟩
    exact ⟨h.congr has hf fun i => (hsame i).symm, hcascade⟩
  · rintro ⟨h, hcascade⟩
    exact ⟨h.congr hf has hsame, hcascade⟩

/-- Suppose that the items of a field give a name and a reference at most once each. Then whether
its attributes are accepted, and the column that it gets, are the same for all attributes with a
permutation of these items, however they are grouped and whatever attributes without items or for
something else stand between them. The same holds if other items are repeated. An item for a unique
index prevails, wherever it stands.

*Proof sketch.* The column is described by which items are there, but for the name and the
reference, which are the last that are given. If there is at most one of either, this too is a
matter of which items are there. -/
theorem column?_orderFree (f : FieldDeclaration) (hf : GivesOnce f.items) :
    (∀ as, (columnItems as).Perm f.items →
      ({ f with attributes := as } : FieldDeclaration).column? = f.column?) ∧
    (∀ as, GivesOnce (columnItems as) → (∀ i, i ∈ columnItems as ↔ i ∈ f.items) →
      ({ f with attributes := as } : FieldDeclaration).column? = f.column?) ∧
    ∀ c, f.column? = some c → flag "unique" ∈ f.items → c.index = some .unique := by
  refine ⟨fun as hperm => ?_, fun as has hsame => column?_congr hf has hsame, ?_⟩
  · exact column?_congr hf (hf.perm hperm) fun _ => hperm.mem_iff
  · intro c hc hunique
    rw [(column?_eq_some.mp hc).1.index, if_pos hunique]

end FieldDeclaration

namespace Sample

/-- The owner of a dog, who has at most one dog. -/
def ownerField : FieldDeclaration where
  name := "owner"
  type := .required .text
  attributes := [⟨"column", some [given "references" "person.name", flag "cascade", flag "index",
    flag "unique"]⟩]

/-- The same items in another order and in two attributes, with others between them. -/
def ownerAttributes : List Attribute :=
  [⟨"column", some [flag "unique", flag "cascade"]⟩, ⟨"column", none⟩, ⟨"doc", none⟩,
    ⟨"column", some [flag "index", given "references" "person.name"]⟩]

/-- The owner of a pet has one name and one reference. -/
lemma givesOnce_owner : GivesOnce ownerField.items := ⟨by decide +kernel, by decide +kernel⟩

/-- In that order too the owner gets a unique index. -/
theorem owner_orderFree : GivesOnce ownerField.items ∧
    (columnItems ownerAttributes).Perm ownerField.items ∧
    ({ ownerField with attributes := ownerAttributes } : FieldDeclaration).column? =
      ownerField.column? ∧
    ownerField.column? = some ((Column.new "owner" (.plain .text)).referring "person" "name"
      |>.cascading |>.indexed .unique) := by
  have hperm : (columnItems ownerAttributes).Perm ownerField.items := by decide +kernel
  exact ⟨givesOnce_owner, hperm,
    (FieldDeclaration.column?_orderFree ownerField givesOnce_owner).1 _ hperm, by decide +kernel⟩

end Sample

end TypedSql
