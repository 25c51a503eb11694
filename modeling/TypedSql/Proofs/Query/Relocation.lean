import TypedSql.Proofs.Query.Placement

/-!
# Arenas put after one another

A filter that is compiled after others does not start from the empty arena. The parameters that it
would place there by itself go into the slots that already have their names, and the others after
all slots that are there, in their own order. This file says where each of them goes, and that
placing parameters one after another does just that.

## Main definitions

* `Arena.extend` — an arena with the slots of another one whose names it does not have.
* `Arena.relocate` — where the slots of the other arena go.

## Main results

* `Arena.get?_relocate` — what stands where a slot goes.
* `Arena.place_extend` — a parameter that is placed in the other arena is placed where that goes.
-/

set_option autoImplicit false

namespace TypedSql

/-! ## Filtered lists -/

section Filter

variable {α : Type} {q : α → Bool}

/-- An element that passes a filter stands after the earlier ones that pass. -/
lemma getElem?_filter_countP {l : List α} {i : Nat} {x : α} (h : l[i]? = some x)
    (hx : q x = true) : (l.filter q)[(l.take i).countP q]? = some x := by
  induction l generalizing i with
  | nil => simp at h
  | cons y l ih =>
    cases i with
    | zero =>
      obtain rfl : y = x := by simpa using h
      simp [hx]
    | succ i =>
      have hrest := ih (by simpa using h)
      by_cases hy : q y = true
      · simpa [hy] using hrest
      · simpa [hy] using hrest

/-- Among the elements that pass a filter, a test whose elements all pass finds the same one. -/
lemma findIdx?_filter {p : α → Bool} {l : List α} (hpq : ∀ x ∈ l, p x = true → q x = true) :
    (l.filter q).findIdx? p = (l.findIdx? p).map fun i => (l.take i).countP q := by
  induction l with
  | nil => rfl
  | cons y l ih =>
    obtain ⟨hy, hl⟩ := List.forall_mem_cons.mp hpq
    rw [List.findIdx?_cons]
    by_cases hp : p y = true
    · simp [hp, hy hp, List.findIdx?_cons]
    · by_cases hq : q y = true
      · simp [hp, hq, List.findIdx?_cons, ih hl, Function.comp_def]
      · simp [hp, hq, ih hl, Function.comp_def]

end Filter

namespace Arena

variable {a b : Arena}

/-! ## Where slots go -/

/-- Whether no slot has the name of a parameter. -/
def isNew (b : Arena) (p : Parameter) : Bool := (b.shared? p).isNone

/-- An arena with the slots of another one after its own, but for those whose names it has. -/
def extend (b a : Arena) : Arena := ⟨b.slots ++ a.slots.filter b.isNew⟩

/-- An arena that is extended by nothing stays as it is. -/
@[simp]
lemma extend_empty (b : Arena) : b.extend {} = b := by
  simp [extend]

/-- The position in the extended arena of what stands at a position of the other one: that of the
slot of its name, or else the next one after the slots and the new ones before it. -/
def relocate (b a : Arena) (n : Nat) : Nat :=
  match (a.get? n).bind b.shared? with
  | some m => m
  | none => b.size + (a.slots.take n).countP b.isNew

/-- A slot that is shared is found where it is shared. -/
lemma relocate_of_shared {n m : Nat} {slot : Parameter} (h : a.get? n = some slot)
    (hm : b.shared? slot = some m) : b.relocate a n = m := by
  rw [relocate, h, Option.bind_some, hm]

/-- A slot of a new name goes after the new ones before it. -/
lemma relocate_of_new {i : Nat} {slot : Parameter} (h : a.slots[i]? = some slot)
    (hnew : b.shared? slot = none) :
    b.relocate a (i + 1) = b.size + (a.slots.take i).countP b.isNew + 1 := by
  rw [relocate, get?_succ, h, Option.bind_some, hnew]
  show b.size + _ = _
  have hisNew : b.isNew slot = true := by rw [isNew, hnew, Option.isNone_none]
  rw [List.take_add_one, h, Option.toList_some, List.countP_append, List.countP_singleton,
    if_pos hisNew, Nat.add_assoc]

/-- A slot whose name is known goes where that stands; any other one goes after all that are there,
in the order of their own arena. -/
theorem get?_relocate {n : Nat} {slot : Parameter} (h : a.get? n = some slot) :
    b.shared? slot = some (b.relocate a n) ∨
      b.shared? slot = none ∧ b.size < b.relocate a n ∧
        (b.extend a).get? (b.relocate a n) = some slot := by
  cases hm : b.shared? slot with
  | some m => exact .inl (congrArg some (relocate_of_shared h hm).symm)
  | none =>
    have hisNew : b.isNew slot = true := by rw [isNew, hm, Option.isNone_none]
    cases n with
    | zero => cases h
    | succ i =>
      rw [relocate_of_new h hm]
      refine .inr ⟨rfl, by omega, ?_⟩
      rw [get?_succ, extend, List.getElem?_append_right (by rw [size]; omega), size,
        Nat.add_sub_cancel_left]
      exact getElem?_filter_countP h hisNew

/-- The slot of a name in an extended arena is that of the first arena, or else the one of the other
arena where it goes. -/
lemma shared?_extend (p : Parameter) :
    (b.extend a).shared? p = (b.shared? p).or ((a.shared? p).map (b.relocate a)) := by
  cases hname : p.name with
  | none => simp [shared?, hname]
  | some name =>
    have hshared : ∀ c : Arena, c.shared? p =
        (c.slots.findIdx? (·.name == some name)).map (· + 1) := fun c => by simp [shared?, hname]
    simp only [hshared, extend, List.findIdx?_append]
    cases hb : b.slots.findIdx? (·.name == some name) with
    | some j => simp
    | none =>
      have hnew : ∀ q : Parameter, q.name = some name → b.shared? q = none := fun q hq => by
        rw [shared?_congr (hq.trans hname.symm), hshared, hb, Option.map_none]
      have hpass : ∀ q ∈ a.slots, (q.name == some name) = true → b.isNew q = true := by
        intro q _ hq
        rw [isNew, hnew q (by simpa using hq), Option.isNone_none]
      rw [findIdx?_filter hpass]
      cases ha : a.slots.findIdx? (·.name == some name) with
      | none => simp
      | some i =>
        obtain ⟨hi, hslot, -⟩ := List.findIdx?_eq_some_iff_getElem.mp ha
        have hget : a.slots[i]? = some a.slots[i] := List.getElem?_eq_getElem hi
        have hrelocate := relocate_of_new hget (hnew _ (by simpa using hslot))
        simp only [Option.none_or, Option.map_some, hrelocate, size]
        exact congrArg some (by omega)

/-- Where a slot goes does not depend on the slots after it. -/
lemma relocate_of_isPrefix {A : Arena} (h : a.slots <+: A.slots) {n : Nat} {slot : Parameter}
    (hslot : a.get? n = some slot) : b.relocate A n = b.relocate a n := by
  have hn : n ≤ a.slots.length := (bounds_of_get? hslot).2.1
  obtain ⟨more, hmore⟩ := h
  have htake : A.slots.take n = a.slots.take n := by
    rw [← hmore, List.take_append_of_le_length hn]
  rw [relocate, relocate, get?_of_isPrefix ⟨more, hmore⟩ hslot, hslot, htake]

/-- A slot that is not shared comes behind those that are there. -/
lemma extend_push_of_new {p : Parameter} (h : b.shared? p = none) :
    b.extend (a.push p) = (b.extend a).push p := by
  have hnew : b.isNew p = true := by rw [isNew, h, Option.isNone_none]
  simp [extend, push, List.filter_append, hnew]

/-- A slot that is shared adds nothing. -/
lemma extend_push_of_shared {p : Parameter} {m : Nat} (h : b.shared? p = some m) :
    b.extend (a.push p) = b.extend a := by
  have hnew : b.isNew p = false := by rw [isNew, h, Option.isNone_some]
  simp [extend, push, List.filter_append, hnew]

/-- The next position of an arena goes to the next position of the extended one, if it is taken by a
new name. -/
lemma relocate_push {p : Parameter} (h : b.shared? p = none) :
    b.relocate (a.push p) (a.size + 1) = (b.extend a).size + 1 := by
  have hlast : (a.push p).slots[a.size]? = some p := get?_push_size a p
  have htake : (a.push p).slots.take a.size = a.slots := List.take_left
  rw [relocate_of_new hlast h, htake, List.countP_eq_length_filter, extend, size, size,
    List.length_append]

/-- A slot of an arena that agrees with a parameter of its name takes it in the extended arena. -/
lemma place_extend_of_shared {p : Parameter} {m : Nat} (hm : b.shared? p = some m)
    (hagree : ∀ slot ∈ b.slots, slot.name = p.name →
      slot.kind = p.kind ∧ slot.isRuntime = p.isRuntime)
    (site : Site) : (b.extend a).place site p = .ok (m, b.extend a) := by
  obtain ⟨slot, hslot, hname, -⟩ := shared?_eq_some hm
  refine place_ok.mpr (.inr ⟨⟨slot, ?_, get?_of_isPrefix (List.prefix_append _ _) hslot,
    hagree slot (bounds_of_get? hslot).2.2 hname⟩, rfl⟩)
  rw [shared?_extend, hm, Option.some_or]

/-- A parameter that is placed in an arena is placed in the extended one where its position goes, if
the slots of the arena agree with those that are there. -/
theorem place_extend {A : Arena} (hagree : ∀ slot ∈ b.slots, ∀ p ∈ A.slots, slot.Agrees p)
    {site : Site} {p : Parameter} {n : Nat} {a' : Arena} (h : a.place site p = .ok (n, a'))
    (hA : a'.slots <+: A.slots) :
    (b.extend a).place site p = .ok (b.relocate A n, b.extend a') := by
  rcases place_ok.mp h with ⟨hshared, rfl, rfl⟩ | ⟨⟨slot, hshared, hslot, hkind, hruntime⟩, rfl⟩
  · -- a slot of its own in `a`, which in the extended arena may be one of `b`
    have hlast := get?_push_size a p
    have hmem : p ∈ A.slots := hA.subset (bounds_of_get? hlast).2.2
    rw [relocate_of_isPrefix hA hlast]
    cases hm : b.shared? p with
    | none =>
      rw [relocate_push hm, extend_push_of_new hm]
      refine place_ok.mpr (.inl ⟨?_, rfl, rfl⟩)
      rw [shared?_extend, hm, hshared, Option.map_none, Option.or_none]
    | some m =>
      obtain ⟨_, -, -, hp⟩ := shared?_eq_some hm
      obtain ⟨name, hp⟩ := Option.ne_none_iff_exists'.mp hp
      rw [relocate_of_shared hlast hm, extend_push_of_shared hm]
      refine place_extend_of_shared hm (fun s hs hname => ?_) site
      exact hagree s hs p hmem name (hname.trans hp) hp
  · -- the slot of an earlier parameter with its name, and again that of `b` if there is one
    obtain ⟨_, hslot', hname, hp⟩ := shared?_eq_some hshared
    cases hslot.symm.trans hslot'
    have hmem : slot ∈ A.slots := hA.subset (bounds_of_get? hslot).2.2
    rw [relocate_of_isPrefix hA hslot]
    cases hm : b.shared? p with
    | none =>
      rcases get?_relocate (b := b) hslot with hm' | ⟨-, -, hget⟩
      · cases (shared?_congr hname ▸ hm).symm.trans hm'
      · refine place_ok.mpr (.inr ⟨⟨slot, ?_, hget, hkind, hruntime⟩, rfl⟩)
        rw [shared?_extend, hm, hshared, Option.map_some, Option.none_or]
    | some m =>
      rw [relocate_of_shared hslot ((shared?_congr hname).trans hm)]
      refine place_extend_of_shared hm (fun s hs hs' => ?_) site
      obtain ⟨name, hp⟩ := Option.ne_none_iff_exists'.mp hp
      have := hagree s hs slot hmem name (hs'.trans hp) (hname.trans hp)
      exact ⟨this.1.trans hkind, this.2.trans hruntime⟩

end Arena

end TypedSql
