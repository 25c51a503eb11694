import Mathlib.Data.List.Pairwise
import TypedSql.Statement.Command
import TypedSql.Store.Table

/-!
# Names of indexes

A store does not tell apart names that differ in the case of letters only, and it has one space of
names for the indexes of all tables. The name of an index is put together from those of its table
and its column and from a word for its sort. As an underscore joins them and may also stand inside
of them, two columns can have indexes of one name: this happens exactly if the name of one table
goes on where that of the other one ends, with what the column of the other one begins with.

## Main definitions

* `Continues` — one table's name takes over the beginning of the other's column.

## Main results

* `sameName_joined` — when two joined names are the same.
* `Command.sameName_indexName` — when two indexes have the same name.
-/

set_option autoImplicit false

namespace TypedSql

/-! ## Names that are the same -/

section SameName

variable {s t : String}

/-- Names are the same if they are in small letters. -/
lemma sameName_iff :
    sameName s t = true ↔ s.toList.map Char.toLower = t.toList.map Char.toLower := by
  rw [sameName, beq_iff_eq, ← String.toList_inj, String.toList_map, String.toList_map]

/-- A name is the same as itself. -/
lemma sameName_self (s : String) : sameName s s = true := sameName_iff.mpr rfl

/-- The order of two names does not matter. -/
lemma sameName_comm (s t : String) : sameName s t = sameName t s := BEq.comm

/-- Names that are the same have the same length. -/
lemma length_of_sameName (h : sameName s t = true) : s.length = t.length := by
  simpa only [List.length_map, String.length_toList] using
    congrArg List.length (sameName_iff.mp h)

/-- Elements of a list that all have different names are told apart by their names. -/
lemma eq_of_sameName {α : Type} {name : α → String} {l : List α}
    (h : l.Pairwise fun x y => sameName (name x) (name y) = false) {x y : α} (hx : x ∈ l)
    (hy : y ∈ l) (hname : sameName (name x) (name y) = true) : x = y := by
  by_contra hne
  have hsymm : Std.Symm fun x y : α => sameName (name x) (name y) = false :=
    ⟨fun x y hxy => (sameName_comm _ _).trans hxy⟩
  cases hname.symm.trans (h.forall hx hy hne)

end SameName

/-! ## Joined names -/

/-- Two ways of taking a list apart at an element are the same, or one goes on after the other. -/
lemma append_cons_eq_append_cons_iff {α : Type} {a : α} {s s' t t' : List α} :
    s ++ a :: s' = t ++ a :: t' ↔ (s = t ∧ s' = t') ∨
      (∃ r, t = s ++ a :: r ∧ s' = r ++ a :: t') ∨ (∃ r, s = t ++ a :: r ∧ t' = r ++ a :: s') := by
  constructor
  · intro h
    rcases List.append_eq_append_iff.mp h with ⟨_ | ⟨b, r⟩, ht, hs'⟩ | ⟨_ | ⟨b, r⟩, hs, ht'⟩
    · exact .inl ⟨by simpa using ht.symm, by simpa using hs'⟩
    · obtain ⟨rfl, hrest⟩ : a = b ∧ s' = r ++ a :: t' := by simpa using hs'
      exact .inr (.inl ⟨r, ht, hrest⟩)
    · exact .inl ⟨by simpa using hs, by simpa using ht'.symm⟩
    · obtain ⟨rfl, hrest⟩ : a = b ∧ t' = r ++ a :: s' := by simpa using ht'
      exact .inr (.inr ⟨r, hs, hrest⟩)
  · rintro (⟨rfl, rfl⟩ | ⟨r, rfl, rfl⟩ | ⟨r, rfl, rfl⟩)
    · rfl
    · rw [List.append_assoc, List.cons_append]
    · rw [List.append_assoc, List.cons_append]

/-- Whether the name of the second table goes on after that of the first, with what stands before
the name of the second column in that of the first. -/
def Continues (table column table' column' : String) : Prop :=
  ∃ rest, sameName table' (table ++ "_" ++ rest) = true ∧
    sameName column (rest ++ "_" ++ column') = true

section Joined

variable {table column table' column' : String}

/-- Two names with an underscore between them in small letters. -/
lemma map_toLower_joined (s t : String) : (s ++ "_" ++ t).toList.map Char.toLower =
    s.toList.map Char.toLower ++ '_' :: t.toList.map Char.toLower := by
  have hunderscore : Char.toLower '_' = '_' := by decide
  simp [hunderscore]

/-- In lower case, the rest is what stands between two underscores. -/
lemma continues_iff : Continues table column table' column' ↔
    ∃ r, table'.toList.map Char.toLower = table.toList.map Char.toLower ++ '_' :: r ∧
      column.toList.map Char.toLower = r ++ '_' :: column'.toList.map Char.toLower := by
  simp only [Continues, sameName_iff, map_toLower_joined]
  constructor
  · rintro ⟨rest, h⟩
    exact ⟨_, h⟩
  · rintro ⟨r, htable, hcolumn⟩
    -- the rest of the table's name, as it is written
    have hrest : (table'.toList.drop (table.toList.length + 1)).map Char.toLower = r := by
      rw [List.map_drop, htable, List.append_cons, List.drop_left' (by simp)]
    refine ⟨String.ofList (table'.toList.drop (table.toList.length + 1)), ?_⟩
    rw [String.toList_ofList, hrest]
    exact ⟨htable, hcolumn⟩

/-- A name does not continue one that is as long. -/
lemma Continues.not_sameName (h : Continues table column table' column') :
    sameName table table' = false := by
  obtain ⟨rest, htable, -⟩ := h
  rw [Bool.eq_false_iff]
  intro hsame
  have hlength := (length_of_sameName hsame).trans (length_of_sameName htable)
  simp only [String.length_append] at hlength
  have : "_".length = 1 := rfl
  omega

/-- Two joined names are the same if their parts are, or if one table's name continues the other. -/
theorem sameName_joined : sameName (table ++ "_" ++ column) (table' ++ "_" ++ column') = true ↔
    (sameName table table' = true ∧ sameName column column' = true) ∨
      Continues table column table' column' ∨ Continues table' column' table column := by
  simp only [sameName_iff, map_toLower_joined, continues_iff, append_cons_eq_append_cons_iff]

end Joined

/-! ## Indexes -/

namespace Command

/-- Two indexes have the same name if and only if they are of one sort and the joined names of their
tables and columns are the same. -/
theorem sameName_indexName {table column table' column' : String} {i j : Index} :
    sameName (indexName table column i) (indexName table' column' j) = true ↔
      i = j ∧ sameName (table ++ "_" ++ column) (table' ++ "_" ++ column') = true := by
  have hindex : ∀ s : String, (s ++ "_index").toList.map Char.toLower =
      s.toList.map Char.toLower ++ "_index".toList := fun s => by
    rw [String.toList_append, List.map_append]
    rfl
  have hunique : ∀ s : String, (s ++ "_unique").toList.map Char.toLower =
      s.toList.map Char.toLower ++ "_unique".toList := fun s => by
    rw [String.toList_append, List.map_append]
    rfl
  -- the words for the two sorts do not end in the same letter
  have hlast : ∀ s t : List Char, s ++ "_index".toList ≠ t ++ "_unique".toList := fun s t h => by
    simpa using congrArg List.getLast? h
  cases i <;> cases j <;>
    simp only [indexName, sameName_iff, hindex, hunique, List.append_cancel_right_eq, true_and,
      reduceCtorEq, false_and, iff_false]
  · exact hlast _ _
  · exact fun h => hlast _ _ h.symm

end Command

end TypedSql
