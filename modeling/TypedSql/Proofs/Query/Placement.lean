import Mathlib.Data.List.Forall2
import Mathlib.Data.List.Nodup
import TypedSql.Query.Arena

/-!
# Positions of parameters

Parameters are placed in an arena one after another. Whatever has been placed, the arena and the
positions given so far are a numbering of the parameters: the positions count up as they first
appear, and what stands at the position of a parameter serves it.

## Main definitions

* `Parameter.Serves` — a slot has the name and the kind of a parameter, and is captured if it is.
* `Parameter.Agrees` — two parameters may share a position if they share a name.
* `Arena.shared?` — the position of the slot that has the name of a parameter.
* `Arena.IsNumbering` — the arena and the positions number the parameters.

## Main results

* `Arena.place_ok` — when placing a parameter succeeds, and what it does then.
* `Arena.IsNumbering.place` — placing one more parameter keeps the numbering.
* `Arena.IsNumbering.exists_place_iff` — a parameter may be placed if and only if it agrees with all
  that have been placed.
-/

set_option autoImplicit false

namespace TypedSql

namespace Parameter

/-- Whether the slot has the name and the kind of a parameter, and is captured if it is. -/
structure Serves (slot p : Parameter) : Prop where
  name : slot.name = p.name
  kind : slot.kind = p.kind
  isRuntime : slot.isRuntime = p.isRuntime

/-- A parameter is served by a slot for itself. -/
lemma Serves.refl (p : Parameter) : p.Serves p := ⟨rfl, rfl, rfl⟩

/-- If the parameters share a name, then they have one kind, and both or neither are captured. -/
def Agrees (p q : Parameter) : Prop :=
  ∀ name, p.name = some name → q.name = some name → p.kind = q.kind ∧ p.isRuntime = q.isRuntime

end Parameter

namespace Arena

/-- The positions number the parameters in an arena. -/
structure IsNumbering (a : Arena) (ps : List Parameter) (ns : List Nat) : Prop where
  /-- The positions appear for the first time in the order `1, 2, …`, up to the last one. -/
  firsts : ns.eraseDups = List.range' 1 a.size
  /-- No two positions have the same name. -/
  distinct : (a.slots.filterMap (·.name)).Nodup
  /-- What stands at the position of a parameter serves it. -/
  served : List.Forall₂ (fun p n => ∃ slot, a.get? n = some slot ∧ slot.Serves p) ps ns
  /-- What stands at a name is the first parameter of that name. -/
  first : ∀ slot ∈ a.slots, ∀ name, slot.name = some name →
    ps.find? (·.name == some name) = some slot
  /-- A parameter without a name has a position of its own. -/
  own : List.Forall₂ (fun p n => p.name = none → a.get? n = some p ∧ ns.count n = 1) ps ns

/-! ## Slots -/

/-- Slots are counted from one. -/
lemma get?_succ (a : Arena) (i : Nat) : a.get? (i + 1) = a.slots[i]? := rfl

/-- A position in use is at least one and at most the number of slots. -/
lemma bounds_of_get? {a : Arena} {n : Nat} {slot : Parameter} (h : a.get? n = some slot) :
    1 ≤ n ∧ n ≤ a.size ∧ slot ∈ a.slots := by
  cases n with
  | zero => cases h
  | succ i =>
    obtain ⟨hi, rfl⟩ := List.getElem?_eq_some_iff.mp h
    exact ⟨Nat.succ_pos i, hi, List.getElem_mem hi⟩

/-- More slots leave those before them where they are. -/
lemma get?_of_isPrefix {a b : Arena} (h : a.slots <+: b.slots) {n : Nat} {slot : Parameter}
    (hslot : a.get? n = some slot) : b.get? n = some slot := by
  cases n with
  | zero => cases hslot
  | succ i =>
    obtain ⟨more, hmore⟩ := h
    obtain ⟨hi, -⟩ := List.getElem?_eq_some_iff.mp hslot
    rw [get?_succ, ← hmore, List.getElem?_append_left hi]
    exact hslot

/-- A new slot leaves the others where they are. -/
lemma get?_push_of_get? {a : Arena} {n : Nat} {slot : Parameter} (h : a.get? n = some slot)
    (p : Parameter) : (a.push p).get? n = some slot :=
  get?_of_isPrefix (List.prefix_append _ _) h

/-- A new slot is the last. -/
lemma get?_push_size (a : Arena) (p : Parameter) : (a.push p).get? (a.size + 1) = some p := by
  rw [get?_succ, push, size]
  simp

/-! ## Slots of a name -/

/-- The position of the slot that has the name of a parameter, if there is one. -/
def shared? (a : Arena) (p : Parameter) : Option Nat :=
  p.name.bind fun name => (a.slots.findIdx? (·.name == some name)).map (· + 1)

/-- Which slot has the name of a parameter depends on nothing but the name. -/
lemma shared?_congr {a : Arena} {p q : Parameter} (h : p.name = q.name) :
    a.shared? p = a.shared? q := by
  rw [shared?, shared?, h]

/-- A name is new if and only if no slot has it. -/
lemma shared?_eq_none_iff {a : Arena} {p : Parameter} : a.shared? p = none ↔
    ∀ name, p.name = some name → ∀ slot ∈ a.slots, slot.name ≠ some name := by
  cases hname : p.name with
  | none => simp [shared?, hname]
  | some name => simp [shared?, hname, List.findIdx?_eq_none_iff]

/-- What stands at the position of a name has it. -/
lemma shared?_eq_some {a : Arena} {p : Parameter} {n : Nat} (h : a.shared? p = some n) :
    ∃ slot, a.get? n = some slot ∧ slot.name = p.name ∧ p.name ≠ none := by
  obtain ⟨name, hname, h⟩ := Option.bind_eq_some_iff.mp h
  obtain ⟨i, hi, rfl⟩ := Option.map_eq_some_iff.mp h
  obtain ⟨hlt, hslot, -⟩ := List.findIdx?_eq_some_iff_getElem.mp hi
  refine ⟨a.slots[i], List.getElem?_eq_getElem hlt, ?_, by simp [hname]⟩
  rw [hname]
  simpa using hslot

/-! ## Placing a parameter -/

/-- Placing a parameter gives it the position of its name, if the slot there has its kind and is
captured if it is, or the next position, if its name is new. -/
theorem place_ok {a a' : Arena} {site : Site} {p : Parameter} {n : Nat} :
    a.place site p = .ok (n, a') ↔
      (a.shared? p = none ∧ n = a.size + 1 ∧ a' = a.push p) ∨
        (∃ slot, a.shared? p = some n ∧ a.get? n = some slot ∧ slot.kind = p.kind ∧
          slot.isRuntime = p.isRuntime) ∧ a' = a := by
  unfold place shared? findName?
  cases p.name with
  | none => simp [eq_comm]
  | some name =>
    simp only [Option.bind_some]
    cases hfind : a.slots.findIdx? (·.name == some name) with
    | none => simp [eq_comm]
    | some i =>
      obtain ⟨hi, -⟩ := List.findIdx?_eq_some_iff_getElem.mp hfind
      have hget : a.slots[i]? = some a.slots[i] := List.getElem?_eq_getElem hi
      -- the slot of the name is the one at its index
      have hright : (∃ slot, some (i + 1) = some n ∧ a.get? n = some slot ∧ slot.kind = p.kind ∧
          slot.isRuntime = p.isRuntime) ↔
          i + 1 = n ∧ a.slots[i].kind = p.kind ∧ a.slots[i].isRuntime = p.isRuntime := by
        constructor
        · rintro ⟨slot, ⟨⟩, hslot, hkind⟩
          cases hget.symm.trans hslot
          exact ⟨rfl, hkind⟩
        · rintro ⟨rfl, hkind⟩
          exact ⟨_, rfl, hget, hkind⟩
      simp only [hget, Option.bind_eq_bind, Option.bind_some, Option.pure_def, Option.map_some,
        reduceCtorEq, false_and, false_or, hright]
      by_cases hkind : a.slots[i].kind = p.kind
      · by_cases hruntime : a.slots[i].isRuntime = p.isRuntime
        · simp [hkind, hruntime, eq_comm]
        · simp [hkind, hruntime]
      · simp [hkind]

/-- What placing a parameter does if it succeeds: a parameter of a new name or without a name gets
the next position, any other one shares the position of a slot that serves it. -/
lemma place_cases {a a' : Arena} {site : Site} {p : Parameter} {n : Nat}
    (h : a.place site p = .ok (n, a')) :
    (n = a.size + 1 ∧ a' = a.push p ∧ ∀ name, p.name = some name →
      ∀ slot ∈ a.slots, slot.name ≠ some name) ∨
    (a' = a ∧ p.name ≠ none ∧ ∃ slot, a.get? n = some slot ∧ slot.Serves p) := by
  rcases place_ok.mp h with ⟨hnew, rfl, rfl⟩ | ⟨⟨slot, hshared, hslot, hkind, hruntime⟩, rfl⟩
  · exact .inl ⟨rfl, rfl, shared?_eq_none_iff.mp hnew⟩
  · obtain ⟨_, hslot', hname, hne⟩ := shared?_eq_some hshared
    cases hslot.symm.trans hslot'
    exact .inr ⟨rfl, hne, slot, hslot, hname, hkind, hruntime⟩

/-- What stands at the position of a parameter that has been placed serves it. -/
lemma exists_serves_of_place {a a' : Arena} {site : Site} {p : Parameter} {n : Nat}
    (h : a.place site p = .ok (n, a')) : ∃ slot, a'.get? n = some slot ∧ slot.Serves p := by
  rcases place_cases h with ⟨rfl, rfl, -⟩ | ⟨rfl, -, hslot⟩
  · exact ⟨p, get?_push_size a p, .refl p⟩
  · exact hslot

/-- A parameter may be placed if it agrees with the slots. -/
lemma exists_place {a : Arena} (site : Site) {p : Parameter}
    (h : ∀ slot ∈ a.slots, slot.Agrees p) : ∃ r, a.place site p = .ok r := by
  cases hshared : a.shared? p with
  | none => exact ⟨_, place_ok.mpr (.inl ⟨hshared, rfl, rfl⟩)⟩
  | some n =>
    obtain ⟨slot, hslot, hname, hne⟩ := shared?_eq_some hshared
    obtain ⟨name, hp⟩ := Option.ne_none_iff_exists'.mp hne
    have hagrees := h slot (bounds_of_get? hslot).2.2 name (hname.trans hp) hp
    exact ⟨_, place_ok.mpr (.inr ⟨⟨slot, hshared, hslot, hagrees⟩, rfl⟩)⟩

/-! ## Numberings -/

namespace IsNumbering

variable {a a' : Arena} {ps : List Parameter} {ns : List Nat} {p : Parameter} {n : Nat}
  {site : Site}

/-- Nothing has been placed in the empty arena. -/
lemma empty : IsNumbering {} [] [] where
  firsts := rfl
  distinct := List.nodup_nil
  served := .nil
  first := by simp
  own := .nil

/-- The positions that have been given are those of the slots. -/
lemma mem_iff (h : a.IsNumbering ps ns) : n ∈ ns ↔ 1 ≤ n ∧ n ≤ a.size := by
  rw [← List.mem_eraseDups, h.firsts, List.mem_range'_1]
  omega

/-- Every parameter is served by a slot. -/
lemma exists_serves (h : a.IsNumbering ps ns) (hp : p ∈ ps) :
    ∃ slot ∈ a.slots, slot.Serves p := by
  obtain ⟨i, rfl⟩ := List.mem_iff_get.mp hp
  have hi : i.1 < ns.length := h.served.length_eq ▸ i.2
  obtain ⟨slot, hslot, hserves⟩ := h.served.get i.2 hi
  exact ⟨slot, (bounds_of_get? hslot).2.2, hserves⟩

/-- Every slot with a name is one of the parameters. -/
lemma mem_of_name (h : a.IsNumbering ps ns) {slot : Parameter} (hslot : slot ∈ a.slots)
    {name : String} (hname : slot.name = some name) : slot ∈ ps :=
  List.mem_of_find?_eq_some (h.first slot hslot name hname)

/-- A new slot continues the numbering, if its name is new. -/
lemma push (h : a.IsNumbering ps ns)
    (hnew : ∀ name, p.name = some name → ∀ slot ∈ a.slots, slot.name ≠ some name) :
    (a.push p).IsNumbering (ps ++ [p]) (ns ++ [a.size + 1]) := by
  have hfresh : a.size + 1 ∉ ns := fun hmem => by
    have := (h.mem_iff.mp hmem).2
    omega
  have hsize : (a.push p).size = a.size + 1 := by simp [Arena.push, size]
  refine ⟨?_, ?_, ?_, ?_, ?_⟩
  · rw [List.eraseDups_append, h.firsts, hsize, List.range'_1_concat, Nat.add_comm 1]
    simp [List.removeAll, hfresh, List.eraseDups_cons]
  · rw [Arena.push, List.filterMap_append, List.nodup_append]
    refine ⟨h.distinct, ?_, ?_⟩
    · cases hname : p.name <;> simp [hname]
    · intro name hname other hother heq
      obtain ⟨slot, hslot, hs⟩ := List.mem_filterMap.mp hname
      have hp : p.name = some name := by
        cases hp : p.name <;> simp_all
      exact hnew name hp slot hslot hs
  · refine List.rel_append (h.served.imp ?_) (.cons ⟨p, get?_push_size a p, .refl p⟩ .nil)
    rintro q m ⟨slot, hslot, hserves⟩
    exact ⟨slot, get?_push_of_get? hslot p, hserves⟩
  · intro slot hslot name hname
    rcases List.mem_append.mp hslot with hslot | hslot
    · rw [List.find?_append, h.first slot hslot name hname]
      rfl
    · -- no parameter placed before has the name of the new one
      cases List.mem_singleton.mp hslot
      have hnone : ps.find? (·.name == some name) = none := by
        rw [List.find?_eq_none]
        intro q hq hqname
        obtain ⟨other, hother, hserves⟩ := h.exists_serves hq
        exact hnew name hname other hother (hserves.name.trans (by simpa using hqname))
      rw [List.find?_append, hnone]
      simp [hname]
  · have hcount : ns.count (a.size + 1) = 0 := List.count_eq_zero.mpr hfresh
    refine List.rel_append (h.own.imp ?_) (.cons (fun _ => ⟨get?_push_size a p, ?_⟩) .nil)
    · intro q m hq hname
      obtain ⟨hget, hone⟩ := hq hname
      have hne : a.size + 1 ≠ m := by
        have := (bounds_of_get? hget).2.1
        omega
      exact ⟨get?_push_of_get? hget p, by simp [hone, hne]⟩
    · simp [hcount]

/-- A shared position continues the numbering. -/
lemma share (h : a.IsNumbering ps ns) (hname : p.name ≠ none) {slot : Parameter}
    (hslot : a.get? n = some slot) (hserves : slot.Serves p) :
    a.IsNumbering (ps ++ [p]) (ns ++ [n]) := by
  have hmem : n ∈ ns := h.mem_iff.mpr ⟨(bounds_of_get? hslot).1, (bounds_of_get? hslot).2.1⟩
  refine ⟨?_, h.distinct, ?_, ?_, ?_⟩
  · rw [List.eraseDups_append, h.firsts]
    simp [List.removeAll, hmem]
  · exact List.rel_append h.served (.cons ⟨slot, hslot, hserves⟩ .nil)
  · intro other hother name hother'
    rw [List.find?_append, h.first other hother name hother']
    rfl
  · refine List.rel_append (h.own.imp ?_) (.cons (fun hnone => absurd hnone hname) .nil)
    intro q m hq hqname
    obtain ⟨hget, hone⟩ := hq hqname
    -- the shared position has a name, so that it is not the one of `q`
    have hne : n ≠ m := by
      rintro rfl
      cases hslot.symm.trans hget
      exact hname (hserves.name.symm.trans hqname)
    exact ⟨hget, by simp [hone, hne]⟩

/-- Placing one more parameter keeps the numbering. -/
theorem place (h : a.IsNumbering ps ns) (hp : a.place site p = .ok (n, a')) :
    a'.IsNumbering (ps ++ [p]) (ns ++ [n]) := by
  rcases place_cases hp with ⟨rfl, rfl, hnew⟩ | ⟨rfl, hname, slot, hslot, hserves⟩
  · exact h.push hnew
  · exact h.share hname hslot hserves

/-- A parameter may be placed if and only if it agrees with all that have been placed. -/
theorem exists_place_iff (h : a.IsNumbering ps ns) (site : Site) :
    (∃ r, a.place site p = .ok r) ↔ ∀ q ∈ ps, q.Agrees p := by
  constructor
  · rintro ⟨⟨n, a'⟩, hp⟩ q hq name hqname hpname
    obtain ⟨slot, hslot, hserves⟩ := h.exists_serves hq
    rcases place_cases hp with ⟨-, -, hnew⟩ | ⟨-, -, other, hother, hserves'⟩
    · exact absurd (hserves.name.trans hqname) (hnew name hpname slot hslot)
    · -- two slots of one name are the first parameter of that name
      have hfirst := h.first slot hslot name (hserves.name.trans hqname)
      have hfirst' := h.first other (bounds_of_get? hother).2.2 name (hserves'.name.trans hpname)
      cases hfirst.symm.trans hfirst'
      exact ⟨hserves.kind.symm.trans hserves'.kind,
        hserves.isRuntime.symm.trans hserves'.isRuntime⟩
  · intro hagrees
    refine exists_place site fun slot hslot name hname hpname => ?_
    exact hagrees slot (h.mem_of_name hslot hname) name hname hpname

end IsNumbering

end Arena

end TypedSql
