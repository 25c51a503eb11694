import TypedSql.Proofs.Query.Nullability
import TypedSql.Proofs.Query.Relocation

/-!
# Arguments and slots

Binding walks over the slots of an arena and over the arguments, but only the slots without a
captured value move on in the arguments. So the argument of such a slot is the one after those of
the slots without a captured value before it.

## Main definitions

* `Arena.runtimeBefore` — the index of the argument of a slot.
* `Arena.Refuses` — a slot that does not accept its argument.
* `Arena.Resolves` — what binding gives for given arguments.
* `Parameter.IsTyped` — parameters that are made from a field type.

## Main results

* `Arena.isOutcome_bindFrom` — binding fills all slots, or stops at the first one that refuses.
* `Arena.bind_resolves` — what binding gives for all arguments, and what a statement makes of it.
-/

set_option autoImplicit false

namespace TypedSql

namespace Arena

/-! ## The argument of a slot -/

/-- The slots without a captured value. -/
def runtime (a : Arena) : List Parameter := a.slots.filter (·.isRuntime)

/-- The number of slots without a captured value before an index. -/
def runtimeBefore (a : Arena) (i : Nat) : Nat := (a.slots.take i).countP (·.isRuntime)

/-- Whether the slot `p` at the index `i` has no captured value and does not accept its argument
`c`. -/
structure Refuses (a : Arena) (args : List Cell) (i : Nat) (p : Parameter) (c : Cell) : Prop where
  slot : a.slots[i]? = some p
  isRuntime : p.isRuntime = true
  argument : args[a.runtimeBefore i]? = some c
  accepts : p.kind.accepts c = false

/-- Whether the slot at the index `i` is the first one that refuses. -/
def RefusesFirst (a : Arena) (args : List Cell) (i : Nat) (p : Parameter) (c : Cell) : Prop :=
  a.Refuses args i p c ∧ ∀ j < i, ∀ q d, ¬ a.Refuses args j q d

/-- Whether there is one cell for each slot: its captured value, or else its argument. -/
structure IsBoundTo (a : Arena) (args cells : List Cell) : Prop where
  length : cells.length = a.size
  cell : ∀ (i : Nat) (p : Parameter), a.slots[i]? = some p →
    cells[i]? = p.value.or args[a.runtimeBefore i]?

/-- Whether binding from a position on fills all slots, where none refuses, or stops at the first
one that does. -/
def IsOutcome (a : Arena) (position : Nat) (args : List Cell)
    (result : Except Error (List Cell)) : Prop :=
  (∃ cells, result = .ok cells ∧ a.IsBoundTo args cells ∧ ∀ i p c, ¬ a.Refuses args i p c) ∨
    ∃ i p c, result = .error (.argumentType (position + i) p.kind c.type) ∧
      a.RefusesFirst args i p c

section Slots

variable {a : Arena} {p q : Parameter} {ps : List Parameter} {args cells : List Cell} {c d : Cell}
  {i : Nat}

/-- No argument belongs to a place before the first. -/
lemma runtimeBefore_zero (a : Arena) : a.runtimeBefore 0 = 0 := by
  simp [runtimeBefore]

/-- A captured value in front takes no argument. -/
lemma runtimeBefore_of_captured (h : p.isRuntime = false) (i : Nat) :
    runtimeBefore ⟨p :: ps⟩ (i + 1) = runtimeBefore ⟨ps⟩ i := by
  simp [runtimeBefore, h]

/-- A parameter in front that waits for a value takes one argument. -/
lemma runtimeBefore_of_runtime (h : p.isRuntime = true) (i : Nat) :
    runtimeBefore ⟨p :: ps⟩ (i + 1) = runtimeBefore ⟨ps⟩ i + 1 := by
  simp [runtimeBefore, h]

/-- A slot without a captured value takes its place among those. -/
lemma runtime_runtimeBefore (h : a.slots[i]? = some p) (hp : p.isRuntime = true) :
    a.runtime[a.runtimeBefore i]? = some p :=
  getElem?_filter_countP h hp

/-- Every slot without a captured value has an index. -/
lemma exists_index_of_runtime {k : Nat} (h : a.runtime[k]? = some p) :
    ∃ i, a.slots[i]? = some p ∧ p.isRuntime = true ∧ a.runtimeBefore i = k := by
  obtain ⟨slots⟩ := a
  simp only [runtime] at h
  induction slots generalizing k with
  | nil => simp at h
  | cons q slots ih =>
    cases hq : q.isRuntime with
    | false =>
      rw [List.filter_cons_of_neg (by simp [hq])] at h
      obtain ⟨i, hi, hp, hk⟩ := ih h
      exact ⟨i + 1, hi, hp, (runtimeBefore_of_captured hq i).trans hk⟩
    | true =>
      rw [List.filter_cons_of_pos hq] at h
      cases k with
      | zero =>
        obtain rfl : q = p := by simpa using h
        exact ⟨0, rfl, hq, runtimeBefore_zero _⟩
      | succ k =>
        obtain ⟨i, hi, hp, hk⟩ := ih h
        exact ⟨i + 1, hi, hp, (runtimeBefore_of_runtime hq i).trans (congrArg (· + 1) hk)⟩

/-- A captured slot at the front leaves all arguments to the others. -/
lemma refuses_of_captured (h : p.isRuntime = false) :
    Refuses ⟨p :: ps⟩ args (i + 1) q c ↔ Refuses ⟨ps⟩ args i q c := by
  constructor
  · rintro ⟨hslot, hruntime, hargument, haccepts⟩
    exact ⟨hslot, hruntime, runtimeBefore_of_captured h i ▸ hargument, haccepts⟩
  · rintro ⟨hslot, hruntime, hargument, haccepts⟩
    exact ⟨hslot, hruntime, (runtimeBefore_of_captured h i).symm ▸ hargument, haccepts⟩

/-- A slot at the front without a captured value takes the first argument. -/
lemma refuses_of_runtime (h : p.isRuntime = true) :
    Refuses ⟨p :: ps⟩ (d :: args) (i + 1) q c ↔ Refuses ⟨ps⟩ args i q c := by
  constructor
  · rintro ⟨hslot, hruntime, hargument, haccepts⟩
    rw [runtimeBefore_of_runtime h, List.getElem?_cons_succ] at hargument
    exact ⟨hslot, hruntime, hargument, haccepts⟩
  · rintro ⟨hslot, hruntime, hargument, haccepts⟩
    refine ⟨hslot, hruntime, ?_, haccepts⟩
    rwa [runtimeBefore_of_runtime h, List.getElem?_cons_succ]

/-- The slot at the front refuses the first argument, if any. -/
lemma refuses_zero :
    Refuses ⟨p :: ps⟩ args 0 q c ↔
      p = q ∧ p.isRuntime = true ∧ args[0]? = some c ∧ p.kind.accepts c = false := by
  constructor
  · rintro ⟨hslot, hruntime, hargument, haccepts⟩
    obtain rfl : p = q := by simpa using hslot
    exact ⟨rfl, hruntime, runtimeBefore_zero _ ▸ hargument, haccepts⟩
  · rintro ⟨rfl, hruntime, hargument, haccepts⟩
    exact ⟨rfl, hruntime, (runtimeBefore_zero _).symm ▸ hargument, haccepts⟩

/-- A refusal behind the front is the first one, if the front does not refuse. -/
lemma RefusesFirst.cons {args' : List Cell} (h : RefusesFirst ⟨ps⟩ args i p c)
    (hrest : ∀ j r d, Refuses ⟨q :: ps⟩ args' (j + 1) r d ↔ Refuses ⟨ps⟩ args j r d)
    (hfront : ∀ r d, ¬ Refuses ⟨q :: ps⟩ args' 0 r d) :
    RefusesFirst ⟨q :: ps⟩ args' (i + 1) p c := by
  refine ⟨(hrest i p c).mpr h.1, fun j hj r d hrefuses => ?_⟩
  cases j with
  | zero => exact hfront r d hrefuses
  | succ j => exact h.2 j (by omega) r d ((hrest j r d).mp hrefuses)

/-- There is one first refusal at most. -/
lemma RefusesFirst.unique {j : Nat} (h : a.RefusesFirst args i p c)
    (h' : a.RefusesFirst args j q d) : i = j ∧ p = q ∧ c = d := by
  obtain rfl : i = j := by
    rcases Nat.lt_trichotomy i j with hlt | heq | hlt
    · exact absurd h.1 (h'.2 i hlt p c)
    · exact heq
    · exact absurd h'.1 (h.2 j hlt q d)
  exact ⟨rfl, Option.some.inj (h.1.slot.symm.trans h'.1.slot),
    Option.some.inj (h.1.argument.symm.trans h'.1.argument)⟩

/-- The cells of a captured slot at the front and of the others. -/
lemma IsBoundTo.cons_captured (h : IsBoundTo ⟨ps⟩ args cells) (hp : p.value = some c) :
    IsBoundTo ⟨p :: ps⟩ args (c :: cells) where
  length := congrArg (· + 1) h.length
  cell i q hq := by
    cases i with
    | zero =>
      obtain rfl : p = q := by simpa using hq
      simp [hp]
    | succ i =>
      rw [runtimeBefore_of_captured (by simp [Parameter.isRuntime, hp])]
      exact h.cell i q hq

/-- The cells of a slot at the front without a captured value and of the others. -/
lemma IsBoundTo.cons_runtime (h : IsBoundTo ⟨ps⟩ args cells) (hp : p.value = none) :
    IsBoundTo ⟨p :: ps⟩ (c :: args) (c :: cells) where
  length := congrArg (· + 1) h.length
  cell i q hq := by
    cases i with
    | zero =>
      obtain rfl : p = q := by simpa using hq
      simp [hp, runtimeBefore_zero]
    | succ i =>
      rw [runtimeBefore_of_runtime (by simp [Parameter.isRuntime, hp])]
      exact h.cell i q hq

/-- An accepting slot at the front adds its cell to the outcome for the others, whose refusals are
the only ones. -/
lemma IsOutcome.cons {args' : List Cell} {position : Nat} {result : Except Error (List Cell)}
    (h : IsOutcome ⟨ps⟩ (position + 1) args' result)
    (hrest : ∀ j r d, Refuses ⟨p :: ps⟩ args (j + 1) r d ↔ Refuses ⟨ps⟩ args' j r d)
    (hfront : ∀ r d, ¬ Refuses ⟨p :: ps⟩ args 0 r d)
    (hbound : ∀ cells, IsBoundTo ⟨ps⟩ args' cells → IsBoundTo ⟨p :: ps⟩ args (c :: cells)) :
    IsOutcome ⟨p :: ps⟩ position args (result.map (c :: ·)) := by
  rcases h with ⟨cells, rfl, hcells, hnone⟩ | ⟨i, q, d, rfl, hfirst⟩
  · refine .inl ⟨c :: cells, rfl, hbound cells hcells, fun i q d hrefuses => ?_⟩
    cases i with
    | zero => exact hfront q d hrefuses
    | succ i => exact hnone i q d ((hrest i q d).mp hrefuses)
  · refine .inr ⟨i + 1, q, d, ?_, hfirst.cons hrest hfront⟩
    rw [Nat.add_assoc, Nat.add_comm 1]
    rfl

end Slots

/-! ## Binding -/

/-- With an argument for each slot that takes one, binding fills all slots, or stops at the first
one that refuses.

The induction is on the slots; the arguments move on with those that take one. -/
theorem isOutcome_bindFrom (missing : Error) (ps : List Parameter) (position : Nat)
    (args : List Cell) (hcount : args.length = runtimeCount ⟨ps⟩) :
    IsOutcome ⟨ps⟩ position args (bindFrom missing position ps args) := by
  induction ps generalizing position args with
  | nil =>
    refine .inl ⟨[], rfl, ⟨rfl, fun i p h => by simp at h⟩, fun i p c h => ?_⟩
    simpa using h.slot
  | cons p ps ih =>
    cases hvalue : p.value with
    | some v =>
      -- a captured value takes no argument, and refuses none
      have hp : p.isRuntime = false := by simp [Parameter.isRuntime, hvalue]
      have hrest := ih (position + 1) args (by simpa [runtimeCount, hp] using hcount)
      rw [bindFrom.eq_def]
      simp only [hvalue]
      refine hrest.cons (fun _ _ _ => refuses_of_captured hp) (fun q c h => ?_)
        fun cells h => h.cons_captured hvalue
      simp [refuses_zero, hp] at h
    | none =>
      have hp : p.isRuntime = true := by simp [Parameter.isRuntime, hvalue]
      cases args with
      | nil => simp [runtimeCount, hp] at hcount
      | cons c args =>
        have hrest := ih (position + 1) args (by simpa [runtimeCount, hp] using hcount)
        cases haccepts : p.kind.accepts c with
        | false =>
          refine .inr ⟨0, p, c, ?_, refuses_zero.mpr ⟨rfl, hp, rfl, haccepts⟩,
            fun i hi => absurd hi (Nat.not_lt_zero i)⟩
          simp [bindFrom, hvalue, haccepts]
        | true =>
          simp only [bindFrom, hvalue, haccepts, if_true]
          refine hrest.cons (fun _ _ _ => refuses_of_runtime hp) (fun q d h => ?_)
            fun cells h => h.cons_runtime hvalue
          obtain ⟨-, -, hd, hrefused⟩ := refuses_zero.mp h
          obtain rfl : c = d := by simpa using hd
          cases haccepts.symm.trans hrefused

/-- With an argument for each slot that takes one, the error for a missing argument does not
arise. -/
lemma bindFrom_congr (missing missing' : Error) (ps : List Parameter) (position : Nat)
    (args : List Cell) (hcount : args.length = runtimeCount ⟨ps⟩) :
    bindFrom missing position ps args = bindFrom missing' position ps args := by
  induction ps generalizing position args with
  | nil => rfl
  | cons p ps ih =>
    cases hvalue : p.value with
    | some v =>
      have hp : p.isRuntime = false := by simp [Parameter.isRuntime, hvalue]
      simp only [bindFrom, hvalue]
      rw [ih (position + 1) args (by simpa [runtimeCount, hp] using hcount)]
    | none =>
      have hp : p.isRuntime = true := by simp [Parameter.isRuntime, hvalue]
      cases args with
      | nil => simp [runtimeCount, hp] at hcount
      | cons d args =>
        simp only [bindFrom, hvalue]
        rw [ih (position + 1) args (by simpa [runtimeCount, hp] using hcount)]

section Binding

variable {a : Arena} {args : List Cell}

/-- With the right number of arguments, binding fills all slots, or stops at the first one that
refuses. -/
lemma isOutcome_bind (hcount : args.length = a.runtimeCount) :
    a.IsOutcome 1 args (a.bind args) := by
  rw [bind, if_pos hcount]
  exact isOutcome_bindFrom _ a.slots 1 args hcount

/-- Too few or too many arguments are refused, with both numbers. -/
lemma bind_of_wrongCount (hcount : args.length ≠ a.runtimeCount) :
    a.bind args = .error (.argumentCount a.runtimeCount args.length) := by
  simp only [bind, if_neg hcount]

/-- Binding succeeds if and only if there is an argument of its kind for each slot without a
captured value. -/
lemma exists_bind_iff : (∃ cells, a.bind args = .ok cells) ↔
    args.length = a.runtimeCount ∧ ∀ (k : Nat) (p : Parameter) (c : Cell),
      a.runtime[k]? = some p → args[k]? = some c → p.kind.accepts c = true := by
  constructor
  · rintro ⟨cells, hok⟩
    have hcount : args.length = a.runtimeCount := by
      by_contra hcount
      cases hok.symm.trans (bind_of_wrongCount hcount)
    refine ⟨hcount, fun k p c hp hc => ?_⟩
    obtain ⟨i, hi, hruntime, rfl⟩ := exists_index_of_runtime hp
    rcases isOutcome_bind hcount with ⟨-, -, -, hnone⟩ | ⟨j, q, d, herror, -⟩
    · by_contra hrefused
      exact hnone i p c ⟨hi, hruntime, hc, by simpa using hrefused⟩
    · cases hok.symm.trans herror
  · rintro ⟨hcount, haccepts⟩
    rcases isOutcome_bind hcount with ⟨cells, hok, -⟩ | ⟨i, p, c, -, hrefuses, -⟩
    · exact ⟨cells, hok⟩
    · have hc := haccepts _ p c (runtime_runtimeBefore hrefuses.slot hrefuses.isRuntime)
        hrefuses.argument
      cases hc.symm.trans hrefuses.accepts

/-- With the right number of arguments, binding fails exactly at a first slot that refuses. -/
lemma bind_error_iff (hcount : args.length = a.runtimeCount) {e : Error} :
    a.bind args = .error e ↔
      ∃ i p c, a.RefusesFirst args i p c ∧ e = .argumentType (i + 1) p.kind c.type := by
  constructor
  · intro herror
    rcases isOutcome_bind hcount with ⟨cells, hok, -⟩ | ⟨i, p, c, herror', hfirst⟩
    · cases hok.symm.trans herror
    · rw [herror, Except.error.injEq] at herror'
      exact ⟨i, p, c, hfirst, herror'.trans (by rw [Nat.add_comm])⟩
  · rintro ⟨i, p, c, hfirst, rfl⟩
    rcases isOutcome_bind hcount with ⟨cells, -, -, hnone⟩ | ⟨j, q, d, herror, hfirst'⟩
    · exact absurd hfirst.1 (hnone i p c)
    · obtain ⟨rfl, rfl, rfl⟩ := hfirst.unique hfirst'
      rw [herror, Nat.add_comm]

/-- What is bound has its cells in their places. -/
lemma isBoundTo_of_bind {cells : List Cell} (hok : a.bind args = .ok cells) :
    a.IsBoundTo args cells := by
  rcases isOutcome_bind (exists_bind_iff.mp ⟨cells, hok⟩).1 with ⟨cells', hok', hbound, -⟩ |
    ⟨i, p, c, herror, -⟩
  · cases hok.symm.trans hok'
    exact hbound
  · cases hok.symm.trans herror

end Binding

/-- What binding gives for the arguments. -/
structure Resolves (a : Arena) (args : List Cell) : Prop where
  /-- Binding succeeds with one argument of its kind for each slot without a captured value. -/
  succeeds : (∃ cells, a.bind args = .ok cells) ↔
    args.length = a.runtimeCount ∧
      ∀ (k : Nat) (p : Parameter) (c : Cell),
        a.runtime[k]? = some p → args[k]? = some c → p.kind.accepts c = true
  /-- A success has the captured values and the arguments in their places. -/
  bound : ∀ cells, a.bind args = .ok cells → a.IsBoundTo args cells
  /-- A wrong number of arguments is the error, whatever their kinds are. -/
  wrongCount : args.length ≠ a.runtimeCount →
    a.bind args = .error (.argumentCount a.runtimeCount args.length)
  /-- With the right number of arguments, the errors are the first ones of a wrong kind. -/
  wrongKind : args.length = a.runtimeCount → ∀ e, a.bind args = .error e ↔
    ∃ i p c, a.RefusesFirst args i p c ∧ e = .argumentType (i + 1) p.kind c.type
  /-- With the right number of arguments, none is missing on the way. -/
  nothingMissing : args.length = a.runtimeCount → ∀ missing : Error,
    bindFrom missing 1 a.slots args = a.bind args

/-- Binding resolves the parameters of every arena from the arguments. -/
lemma resolves (a : Arena) (args : List Cell) : a.Resolves args where
  succeeds := exists_bind_iff
  bound _ := isBoundTo_of_bind
  wrongCount := bind_of_wrongCount
  wrongKind hcount _ := bind_error_iff hcount
  nothingMissing hcount missing := by
    rw [bind, if_pos hcount]
    exact bindFrom_congr _ _ a.slots 1 args hcount

end Arena

/-! ## Parameters made from field types -/

/-- Whether the parameter is made from a field type: with its kind, and with the cell of one of its
values if a value is captured. -/
def Parameter.IsTyped (p : Parameter) : Prop :=
  ∃ t : FieldType, p.kind = t.kind ∧
    ∀ c, p.value = some c → ∃ v : t.Carrier, c = t.codec.encode v

/-- The captured value of a parameter made from a field type is accepted by its kind. -/
lemma Parameter.IsTyped.accepts {p : Parameter} (h : p.IsTyped) {c : Cell}
    (hc : p.value = some c) : p.kind.accepts c = true := by
  obtain ⟨t, hkind, hvalue⟩ := h
  obtain ⟨v, rfl⟩ := hvalue c hc
  rw [hkind]
  exact t.accepts_encode v

namespace Builder

variable (type : FieldType) (name : String) (v : type.Carrier)

/-- The calls that make a parameter make it from their field type. -/
lemma isTyped_markers :
    (∀ p ∈ (param type name).markers, p.IsTyped) ∧ (∀ p ∈ (var type name v).markers, p.IsTyped) ∧
      ∀ p ∈ (val type v).markers, p.IsTyped := by
  simp only [param, var, val, Expr.markers, List.forall_mem_singleton]
  refine ⟨⟨type, rfl, nofun⟩, ⟨type, rfl, ?_⟩, ⟨type, rfl, ?_⟩⟩
  · rintro c ⟨⟩
    exact ⟨v, rfl⟩
  · rintro c ⟨⟩
    exact ⟨v, rfl⟩

end Builder

/-- Every slot of a numbering is one of the parameters that it numbers. -/
lemma Arena.IsNumbering.mem {a : Arena} {ps : List Parameter} {ns : List Nat}
    (h : a.IsNumbering ps ns) {slot : Parameter} (hslot : slot ∈ a.slots) : slot ∈ ps := by
  cases hname : slot.name with
  | some name => exact h.mem_of_name hslot hname
  | none =>
    obtain ⟨i, hi, rfl⟩ := List.mem_iff_getElem.mp hslot
    have hget : a.get? (i + 1) = some a.slots[i] := List.getElem?_eq_getElem hi
    -- the position has been given to a parameter, whose name is that of the slot
    have hn : i + 1 ∈ ns := h.mem_iff.mpr ⟨(bounds_of_get? hget).1, (bounds_of_get? hget).2.1⟩
    obtain ⟨k, hk, hik⟩ := List.mem_iff_getElem.mp hn
    have hk' : k < ps.length := h.served.length_eq ▸ hk
    obtain ⟨slot, hslot, hserves⟩ := h.served.get hk' hk
    have hown := h.own.get hk' hk
    simp only [List.get_eq_getElem, hik, hget, Option.some.injEq] at hslot hown
    subst hslot
    rw [(hown (hserves.name.symm.trans hname)).1]
    exact List.getElem_mem hk'

namespace Query

variable {t : TableType} {filter : Expr} {r r' : Registry} {q : Query}

/-- The slots of a compiled query are among the markers of its filter. -/
lemma mem_markers (h : Query.compile t filter r = (.ok q, r')) {p : Parameter}
    (hp : p ∈ q.arena.slots) : p ∈ filter.markers := by
  obtain ⟨table, r₁, -, -, tf, w, hf, -, rfl, -⟩ := compile_ok.mp h
  exact (Expr.compile_numbering filter Arena.IsNumbering.empty hf).mem hp

/-- Accepted arguments give a statement of the query, with the bound cells. -/
lemma statement_ok_iff {operation : Operation} {args : List Cell} {s : Statement} :
    q.statement operation args = .ok s ↔
      ∃ cells, q.bind args = .ok cells ∧ s = ⟨q.command operation, cells⟩ := by
  simp only [statement, except_bind_ok, except_pure_ok, eq_comm (a := s)]

/-- A statement of the query fails as its binding does. -/
lemma statement_error_iff {operation : Operation} {args : List Cell} {e : Error} :
    q.statement operation args = .error e ↔ q.bind args = .error e := by
  simp [statement, except_bind_error, pure, Except.pure]

end Query

namespace Arena

/-- What binding gives for any arena and any arguments; and for a compiled query whose parameters
are made from field types, every bound cell is accepted by the kind of its slot, and the statements
of the query, with any sort keys, fail just as its binding does.

Proof sketch. By induction on the slots, binding fills all of them or stops at the first one that
refuses its argument. A slot of a compiled query is a marker of the filter, so that its captured
value is the cell of a value of its type. -/
theorem bind_resolves :
    (∀ (a : Arena) (args : List Cell), a.Resolves args) ∧
    ∀ {t : TableType} {filter : Expr} {r r' : Registry} {q : Query},
      Query.compile t filter r = (.ok q, r') → (∀ p ∈ filter.markers, p.IsTyped) →
      ∀ args : List Cell,
        (∀ cells, q.bind args = .ok cells →
          List.Forall₂ (fun p c => p.kind.accepts c = true) q.arena.slots cells) ∧
        ∀ (requests : List (List OrderRequest)) (q' : Query),
          requests.foldlM Query.orderBy q = .ok q' → ∀ operation,
            (∀ s, q'.statement operation args = .ok s ↔
              ∃ cells, q.bind args = .ok cells ∧ s = ⟨q'.command operation, cells⟩) ∧
            ∀ e, q'.statement operation args = .error e ↔ q.bind args = .error e := by
  refine ⟨resolves, fun h htyped args => ⟨fun cells hok => ?_, fun requests q' hq' operation => ?_⟩⟩
  · have hslots := fun p hp => htyped p (Query.mem_markers h hp)
    refine ((List.forall₂_and_left _ _).mpr ⟨hslots, bind_ok hok⟩).imp ?_
    rintro p c ⟨hp, hcaptured | ⟨-, haccepts⟩⟩
    · exact hp.accepts hcaptured
    · exact haccepts
  · obtain ⟨os, -, rfl⟩ := Query.orderBy_all hq'
    exact ⟨fun s => Query.statement_ok_iff, fun e => Query.statement_error_iff⟩

end Arena

namespace Sample

/-- The filter takes a limit, which it uses twice, and then has a captured name: one argument of the
kind of the limit gives a statement. -/
theorem owners_resolves :
    ∃ q r', Query.compile person owners {} = (.ok q, r') ∧ (∀ p ∈ owners.markers, p.IsTyped) ∧
      q.bind [.int 3] = .ok [.int 3, .text "Rex"] ∧
      List.Forall₂ (fun p c => p.kind.accepts c = true) q.arena.slots [.int 3, .text "Rex"] ∧
      q.bind [.null, .int 3] = .error (.argumentCount 1 2) ∧
      q.statement .find [.text "3"] = .error (.argumentType 1 (.plain .integer) .text) := by
  have htyped : ∀ p ∈ owners.markers, p.IsTyped := by
    have hlimit : Parameter.IsTyped ⟨some "limit", .plain .integer, none⟩ :=
      ⟨.required (.integer .int64), rfl, nofun⟩
    have hname : Parameter.IsTyped ⟨none, .plain .text, some (.text "Rex")⟩ := by
      refine ⟨.required .text, rfl, ?_⟩
      rintro c ⟨⟩
      exact ⟨"Rex", rfl⟩
    show ∀ p ∈ ([_, _, _] : List Parameter), p.IsTyped
    simp only [List.forall_mem_cons, List.not_mem_nil, false_imp_iff, implies_true, and_true]
    exact ⟨hlimit, hname, hlimit⟩
  obtain ⟨q, r', h, harena⟩ : ∃ q r', Query.compile person owners {} = (.ok q, r') ∧
      q.arena.slots = [⟨some "limit", .plain .integer, none⟩,
        ⟨none, .plain .text, some (.text "Rex")⟩] := ⟨_, _, rfl, rfl⟩
  have hcount : q.arena.runtimeCount = 1 := by
    rw [Arena.runtimeCount, harena]
    rfl
  have hok : q.bind [.int 3] = .ok [.int 3, .text "Rex"] := by
    rw [Query.bind, Arena.bind, hcount, harena]
    rfl
  have herror : q.bind [.text "3"] = .error (.argumentType 1 (.plain .integer) .text) := by
    rw [Query.bind, Arena.bind, hcount, harena]
    rfl
  obtain ⟨hresolves, hcompiled⟩ := Arena.bind_resolves
  refine ⟨q, r', h, htyped, hok, (hcompiled h htyped _).1 _ hok, ?_, ?_⟩
  · have hwrong := (hresolves q.arena [.null, .int 3]).wrongCount
    rw [hcount] at hwrong
    exact hwrong (by decide)
  · exact (((hcompiled h htyped _).2 [] q rfl .find).2 _).mpr herror

end Sample

end TypedSql
