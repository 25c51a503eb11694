import Mathlib.Data.List.Perm.Lattice
import TypedSql.Proofs.Schema.Reachable

/-!
# Which declarations are accepted

A declaration is checked column by column, each against the columns before it, and by rules about
all columns at once; the check stops at the first fault. This file says what it accepts with no
reference to that order: rules for a column on its own, and rules for the columns as a whole.

## Main definitions

* `Text.IsPlainName` — the texts of the pattern `[A-Za-z_][A-Za-z0-9_]*`.
* `Column.IsSound` — the rules for a column on its own.
* `Table.IsDeclarable` — the rules for a declaration.

## Main results

* `Text.isIdentifier_iff_isPlainName` — identifiers are the texts of that pattern.
* `Table.IsDeclarable.perm` — the rules do not depend on the order of the columns.
* `Table.declare_exact` — a declaration is accepted if and only if it follows the rules, whatever
  the order of its columns, and is kept as it is.
-/

set_option autoImplicit false

namespace TypedSql

/-! ## Names -/

namespace Text

/-- `A` to `Z`, `a` to `z`, or an underscore. -/
def IsPlainLetter (c : Char) : Prop :=
  'A' ≤ c ∧ c ≤ 'Z' ∨ 'a' ≤ c ∧ c ≤ 'z' ∨ c = '_'

/-- A text of the pattern `[A-Za-z_][A-Za-z0-9_]*`. -/
def IsPlainName (s : String) : Prop :=
  ∃ first rest, s.toList = first :: rest ∧ IsPlainLetter first ∧
    ∀ c ∈ rest, IsPlainLetter c ∨ '0' ≤ c ∧ c ≤ '9'

/-- Names start with the letters of the pattern. -/
lemma isNameStart_iff {c : Char} : isNameStart c = true ↔ IsPlainLetter c := by
  have hupper : c.isUpper = true ↔ 'A' ≤ c ∧ c ≤ 'Z' := decide_eq_true_iff
  have hlower : c.isLower = true ↔ 'a' ≤ c ∧ c ≤ 'z' :=
    Bool.and_eq_true_iff.trans (and_congr decide_eq_true_iff decide_eq_true_iff)
  have hletter : c.isAlpha = true ↔ c.isUpper = true ∨ c.isLower = true := Bool.or_eq_true_iff
  rw [isNameStart, Bool.or_eq_true, hletter, hupper, hlower, or_assoc, beq_iff_eq, IsPlainLetter]

/-- Names go on with the letters of the pattern and with digits. -/
lemma isNameChar_iff {c : Char} :
    isNameChar c = true ↔ IsPlainLetter c ∨ '0' ≤ c ∧ c ≤ '9' := by
  have hdigit : c.isDigit = true ↔ '0' ≤ c ∧ c ≤ '9' := by
    simp only [Char.isDigit, Char.le_def, Bool.and_eq_true, decide_eq_true_eq]
  rw [← isNameStart_iff, ← hdigit]
  simp only [isNameChar, isNameStart, Char.isAlphanum, Bool.or_eq_true]
  tauto

/-- Identifiers are the texts of the pattern. -/
theorem isIdentifier_iff_isPlainName {s : String} : IsIdentifier s ↔ IsPlainName s := by
  unfold IsIdentifier IsPlainName
  cases s.toList with
  | nil => simp [isName]
  | cons c rest => simp [isName, isNameStart_iff, isNameChar_iff]

end Text

/-! ## The rules -/

open Text (IsPlainName)

/-- The rules for a column on its own. -/
structure Column.IsSound (c : Column) : Prop where
  name : IsPlainName c.name
  /-- A kind has at most one nullable layer. -/
  layers : c.kind.layers ≤ 1
  /-- An auto-increment column is a key that holds integers. -/
  autoIncrement : c.autoIncrement = true → c.primaryKey = true ∧ c.kind = .plain .integer
  /-- A foreign key is written with names. -/
  references : ∀ fk, c.references = some fk → IsPlainName fk.table ∧ IsPlainName fk.column
  /-- A column cascades along its foreign key. -/
  cascade : c.cascade = true → c.references ≠ none

namespace Table

/-- The rules for a declaration. -/
structure IsDeclarable (name : String) (columns : List Column) : Prop where
  name : IsPlainName name
  nonempty : columns ≠ []
  sound : ∀ c ∈ columns, c.IsSound
  distinct : columns.Pairwise (·.name ≠ ·.name)
  /-- At most one column is auto-increment. -/
  autoIncrement : (columns.filter (·.autoIncrement)).length ≤ 1
  /-- An auto-increment column is the only key. -/
  key : ∀ c ∈ columns, c.autoIncrement = true → columns.filter (·.primaryKey) = [c]

/-! ## What the check accepts -/

variable {name : String} {columns columns' : List Column}

/-- A column has no fault on its own if and only if it follows the rules. -/
lemma ofColumn?_eq_none_iff_isSound {c : Column} :
    Fault.ofColumn? [] c = none ↔ c.IsSound := by
  rw [Fault.ofColumn?_eq_none, Fault.ofAutoIncrement?_eq_none, Fault.ofReference?_eq_none]
  simp only [Text.isIdentifier_iff_isPlainName]
  constructor
  · rintro ⟨hname, hkind, -, hauto, href, hcascade⟩
    refine ⟨hname, by simpa [Kind.isWellFormed] using hkind, hauto, href, fun hc hnone => ?_⟩
    simp [hcascade hnone] at hc
  · rintro ⟨hname, hkind, hauto, href, hcascade⟩
    refine ⟨hname, by simpa [Kind.isWellFormed] using hkind, by simp, hauto, href, fun hnone => ?_⟩
    exact Bool.eq_false_iff.mpr fun hc => hcascade hc hnone

/-- Among columns that follow the rules, the keys have no fault if and only if at most one column is
auto-increment, and one that is, is the only key. -/
lemma ofKeys?_eq_none_iff (h : ∀ c ∈ columns, c.IsSound) :
    Fault.ofKeys? columns = none ↔ (columns.filter (·.autoIncrement)).length ≤ 1 ∧
      ∀ c ∈ columns, c.autoIncrement = true → columns.filter (·.primaryKey) = [c] := by
  rw [Fault.ofKeys?_eq_none, List.countP_eq_length_filter, List.countP_eq_length_filter]
  refine and_congr_right fun hone => ⟨fun hkeys c hc hauto => ?_, fun honly hlength => ?_⟩
  · -- `c` is a key, and there are no two
    have hmem : c ∈ columns.filter (·.autoIncrement) := List.mem_filter.mpr ⟨hc, hauto⟩
    have hkey : c ∈ columns.filter (·.primaryKey) :=
      List.mem_filter.mpr ⟨hc, ((h c hc).autoIncrement hauto).1⟩
    have hle := hkeys (Nat.le_antisymm hone (List.length_pos_of_mem hmem))
    obtain ⟨d, hd⟩ :=
      List.length_eq_one_iff.mp (Nat.le_antisymm hle (List.length_pos_of_mem hkey))
    rw [hd] at hkey ⊢
    rw [List.mem_singleton.mp hkey]
  · obtain ⟨c, hc⟩ := List.exists_mem_of_length_pos (by omega :
      0 < (columns.filter (·.autoIncrement)).length)
    obtain ⟨hc, hauto⟩ := List.mem_filter.mp hc
    simp [honly c hc hauto]

/-- A declaration has no fault if and only if it follows the rules. -/
lemma ofDeclaration?_eq_none_iff :
    Fault.ofDeclaration? name columns = none ↔ IsDeclarable name columns := by
  rw [Fault.ofDeclaration?_eq_none, Fault.ofColumns?_eq_none]
  simp only [ofColumn?_eq_none_iff_isSound, Text.isIdentifier_iff_isPlainName]
  constructor
  · rintro ⟨hname, hne, ⟨hsound, hdistinct⟩, hkeys⟩
    obtain ⟨hone, honly⟩ := (ofKeys?_eq_none_iff hsound).mp hkeys
    exact ⟨hname, hne, hsound, List.pairwise_map.mp hdistinct, hone, honly⟩
  · rintro ⟨hname, hne, hsound, hdistinct, hone, honly⟩
    exact ⟨hname, hne, ⟨hsound, List.pairwise_map.mpr hdistinct⟩,
      (ofKeys?_eq_none_iff hsound).mpr ⟨hone, honly⟩⟩

/-- A declaration is accepted if and only if it follows the rules. -/
lemma exists_declare_iff :
    (∃ t, declare name columns = .ok t) ↔ IsDeclarable name columns := by
  rw [← ofDeclaration?_eq_none_iff]
  constructor
  · rintro ⟨t, ht⟩
    obtain ⟨rfl, rfl⟩ := declare_eq_ok_iff.mp ht
    exact t.accepted
  · exact fun h => ⟨⟨name, columns, h⟩, declare_eq_ok_iff.mpr ⟨rfl, rfl⟩⟩

/-- The rules do not depend on the order of the columns. -/
theorem IsDeclarable.perm (h : IsDeclarable name columns) (hperm : columns.Perm columns') :
    IsDeclarable name columns' where
  name := h.name
  nonempty hnil := h.nonempty (List.perm_nil.mp (hnil ▸ hperm))
  sound c hc := h.sound c (hperm.mem_iff.mpr hc)
  distinct := (hperm.pairwise_iff fun hne heq => hne heq.symm).mp h.distinct
  autoIncrement := (hperm.filter _).length_eq ▸ h.autoIncrement
  key c hc hauto := by
    have hkeys := hperm.filter (·.primaryKey)
    rw [h.key c (hperm.mem_iff.mpr hc) hauto] at hkeys
    exact (List.singleton_perm.mp hkeys).symm

/-- A declaration is accepted if and only if its name and columns follow the rules. Its columns are
kept unchanged and in order, and in any other order they are accepted too.

*Proof sketch.* That a column is new after those before it says of all columns that their names are
distinct (`Fault.ofColumns?_eq_none`), so each column is left with its own rules. The two counts of
the keys are the rule of the only key, because an auto-increment column is one of the keys. None of
the rules looks at the order of the columns. -/
theorem declare_exact (name : String) (columns : List Column) :
    ((∃ t, declare name columns = .ok t) ↔ IsDeclarable name columns) ∧
      (∀ t, declare name columns = .ok t → t.name = name ∧ t.columns = columns) ∧
      ∀ columns', columns.Perm columns' →
        ((∃ t, declare name columns = .ok t) ↔ ∃ t, declare name columns' = .ok t) := by
  refine ⟨exists_declare_iff, fun t ht => declare_eq_ok_iff.mp ht, fun columns' hperm => ?_⟩
  rw [exists_declare_iff, exists_declare_iff]
  exact ⟨fun h => h.perm hperm, fun h => h.perm hperm.symm⟩

end Table

namespace Sample

/-- The columns of the persons are accepted, and in reverse too. -/
theorem person_declared : Table.IsDeclarable "person" person.columns ∧
    ∃ t, Table.declare "person" person.columns.reverse = .ok t := by
  obtain ⟨hrules, -, horder⟩ := Table.declare_exact "person" person.columns
  have haccepted : ∃ t, Table.declare "person" person.columns = .ok t :=
    ⟨persons, Table.declare_eq_ok_iff.mpr ⟨rfl, rfl⟩⟩
  exact ⟨hrules.mp haccepted, (horder _ (List.reverse_perm _).symm).mp haccepted⟩

end Sample

end TypedSql
