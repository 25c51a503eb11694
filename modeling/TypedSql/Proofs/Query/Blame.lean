import TypedSql.Proofs.Query.Faults
import TypedSql.Proofs.Query.Registration

/-!
# What an error points to

A compilation that fails may point to the site of a node. This file shows that the node has the
fault that the error states, where it stands, and that a filter without a fault compiles.

## Main definitions

* `Error.IsBlamedOn` — an error is the fault of one of the given nodes, at its site.

## Main results

* `Expr.compile_blames` — every error of a compilation points to a node that has the fault.
* `Query.compile_error_exhibited` — the same for a query, which compiles exactly if no node has a
  fault.
-/

set_option autoImplicit false

namespace TypedSql

/-! ## Errors of nodes -/

/-- Whether an error that points to a site states the fault of one of the nodes, at its site. -/
def Error.IsBlamedOn (nodes : List (Standing × Expr)) (e : Error) : Prop :=
  ∀ s, e.site? = some s → ∃ x node, (x, node) ∈ nodes ∧ node.site = s ∧ x.Exhibits node e

namespace Error.IsBlamedOn

variable {ns ms : List (Standing × Expr)} {e : Error}

/-- An error that is blamed on some nodes is blamed on more of them. -/
lemma mono (h : e.IsBlamedOn ns) (hsub : ns ⊆ ms) : e.IsBlamedOn ms := by
  intro s hs
  obtain ⟨x, node, hmem, hsite, hexhibits⟩ := h s hs
  exact ⟨x, node, hsub hmem, hsite, hexhibits⟩

/-- An error is blamed on an expression itself if this has the fault. -/
lemma self {x : Standing} {node : Expr} (h : x.Exhibits node e) :
    e.IsBlamedOn (node.nodes x) := by
  intro s hs
  rw [h.site?_eq, Option.some.injEq] at hs
  exact ⟨x, node, node.self_mem_nodes x, hs, h⟩

/-- An error without a site is blamed on no node. -/
lemma of_site?_eq_none (h : e.site? = none) : e.IsBlamedOn ns := by
  intro s hs
  cases h.symm.trans hs

end Error.IsBlamedOn

/-- Errors that are blamed on the nodes of a part are blamed on those of the whole. -/
lemma RaisesOnly.of_part {α σ : Type} {x : ExceptT Error (StateM σ) α} {w : σ}
    {ns ms : List (Standing × Expr)} (h : RaisesOnly (Error.IsBlamedOn ns) x w)
    (hsub : ns ⊆ ms) : RaisesOnly (Error.IsBlamedOn ms) x w :=
  h.mono fun _ herr => herr.mono hsub

/-- A registration fails with an error that points to no site. -/
lemma Registry.register_raises (t : TableType) (r : Registry) :
    RaisesOnly (fun e => e.site? = none) (register t) r := by
  intro e r' h
  rcases register_cases t r with ⟨table, -, hrun⟩ | ⟨table, -, -, hrun⟩ | ⟨fault, -, -, hrun⟩ <;>
    cases hrun.symm.trans h
  rfl

/-- A registration in a compilation raises errors without a site only. -/
lemma Compiling.register_raises (t : TableType) (w : Workspace) :
    RaisesOnly (fun e => e.site? = none) (register t) w := by
  intro e w' h
  unfold register at h
  rcases hrun : Registry.register t w.registry with ⟨result, r⟩
  rw [hrun] at h
  cases h
  exact Registry.register_raises t w.registry e r hrun

/-! ## The errors of the checks -/

namespace Typed

variable {site : Site} {construct : Construct} {err : Error}

/-- Whether the error is that the kind of a typed operand does not meet an expectation. -/
def Misfits (t : Typed) (site : Site) (construct : Construct) (expected : Expectation)
    (err : Error) : Prop :=
  err = .mismatch site construct expected t.kind ∧ ¬ expected.Admits t.kind

/-- An operand is refused for its scalar kind only if it does not fit. -/
lemma requireScalar_error {s : Scalar} (hs : s.isNumeric = false) {t : Typed}
    (h : t.requireScalar site construct s = .error err) :
    t.Misfits site construct (.kind (.plain s)) err := by
  obtain ⟨hkind, rfl⟩ := except_check_error.mp h
  exact ⟨rfl, mt (Expectation.admits_plain hs).mp hkind⟩

/-- An operand is refused as no number only if it does not fit. -/
lemma requireNumeric_error {t : Typed} (h : t.requireNumeric site construct = .error err) :
    t.Misfits site construct .numeric err := by
  obtain ⟨hkind, rfl⟩ := except_check_error.mp h
  exact ⟨rfl, hkind⟩

/-- An operand is refused as not orderable only if it does not fit. -/
lemma requireOrderable_error {t : Typed} (h : t.requireOrderable site construct = .error err) :
    t.Misfits site construct .orderable err := by
  obtain ⟨hkind, rfl⟩ := except_check_error.mp h
  exact ⟨rfl, hkind⟩

/-- An operand is refused in a comparison only if its kind does not fit the other one's. -/
lemma requireComparable_error {l r : Typed}
    (h : requireComparable site construct l r = .error err) :
    r.Misfits site construct (.kind l.kind.base) err := by
  obtain ⟨hkind, rfl⟩ := except_check_error.mp h
  exact ⟨rfl, hkind⟩

/-- The check of the operands of an operator fails at one of them, or at both together. -/
lemma checkOperands_error {op : BinaryOp} {l r : Typed}
    (h : checkOperands site op l r = .error err) :
    (∃ expected, op.expectation? = some expected ∧
      (l.Misfits site (.operator op) expected err ∨ r.Misfits site (.operator op) expected err)) ∨
    op.isComparison = true ∧ r.Misfits site (.operator op) (.kind l.kind.base) err := by
  cases op with
  | equal | notEqual => exact .inr ⟨rfl, requireComparable_error h⟩
  | less | lessEqual | greater | greaterEqual =>
    rcases except_bind_error.mp h with h | ⟨-, -, h⟩
    · exact .inl ⟨_, rfl, .inl (requireOrderable_error h)⟩
    · exact .inr ⟨rfl, requireComparable_error h⟩
  | and | or | concat =>
    refine .inl ⟨_, rfl, ?_⟩
    rcases except_bind_error.mp h with h | ⟨-, -, h⟩
    · exact .inl (requireScalar_error rfl h)
    · exact .inr (requireScalar_error rfl h)
  | add | sub | mul | div | rem =>
    refine .inl ⟨_, rfl, ?_⟩
    rcases except_bind_error.mp h with h | ⟨-, -, h⟩
    · exact .inl (requireNumeric_error h)
    · exact .inr (requireNumeric_error h)

end Typed

namespace Arena

variable {a : Arena} {name : String}

/-- What is found under a name is a slot of that name. -/
lemma findName?_eq_some {i : Nat} {slot : Parameter} (h : a.findName? name = some (i, slot)) :
    slot ∈ a.slots ∧ slot.name = some name := by
  obtain ⟨j, hj, h⟩ := Option.bind_eq_some_iff.mp h
  obtain ⟨slot', hslot, ⟨⟩⟩ := Option.bind_eq_some_iff.mp h
  obtain ⟨hlt, hname, -⟩ := List.findIdx?_eq_some_iff_getElem.mp hj
  rw [List.getElem?_eq_getElem hlt] at hslot
  cases hslot
  exact ⟨List.getElem_mem hlt, by simpa using hname⟩

/-- A parameter that cannot be placed shares its name with a slot of another kind, or with a slot
that is captured where it is not, or the reverse. -/
lemma place_error {site : Site} {p : Parameter} {e : Error} (h : a.place site p = .error e) :
    ∃ name, ∃ slot ∈ a.slots, slot.name = some name ∧ p.name = some name ∧
      (slot.kind ≠ p.kind ∧ e = .mismatch site (.parameter name) (.kind slot.kind) p.kind ∨
        slot.isRuntime ≠ p.isRuntime ∧ e = .refused site (.mixedParameter name)) := by
  unfold place at h
  split at h
  · cases h
  · rename_i name hname
    split at h
    · cases h
    · rename_i i slot hfind
      obtain ⟨hslot, hslotName⟩ := findName?_eq_some hfind
      refine ⟨name, slot, hslot, hslotName, hname, ?_⟩
      split at h
      · rename_i hkind
        cases h
        exact .inl ⟨hkind, rfl⟩
      · split at h
        · rename_i hruntime
          cases h
          exact .inr ⟨by simpa using hruntime, rfl⟩
        · cases h

end Arena

namespace Expr

/-! ## Errors of the nodes -/

section Errors

variable {x : Standing} {scope : Scope} {table : Table} {w : Workspace} {site : Site} {err : Error}

/-- A node has the fault if it expects another kind of an operand than this has. -/
lemma exhibits_of_misfits {node e : Expr} {t : Typed} {construct : Construct}
    {expected : Expectation} (hexpects : node.Expects x.current construct e expected)
    (hkind : e.HasKind x.current t.kind) (h : t.Misfits node.site construct expected err) :
    x.Exhibits node err := by
  obtain ⟨rfl, hadmits⟩ := h
  exact .operand hexpects hkind hadmits

/-- A literal that is refused is at fault itself. -/
lemma exhibits_of_literal_error {v : Cell} (h : Typed.literal site v = .error err) :
    x.Exhibits (.literal site v) err := by
  cases v with
  | null =>
    cases h
    exact .nullLiteral
  | real v =>
    obtain ⟨hfinite, rfl⟩ := except_check_error.mp h
    exact .realLiteral (by simpa using hfinite)
  | bool | int | text | blob => cases h

/-- A column that is refused is missing in the table that it stands for. -/
lemma exhibits_of_column_error (hx : StandsAt x scope table w) {name : String}
    (h : Typed.column site table name = .error err) : x.Exhibits (.column site name) err := by
  unfold Typed.column at h
  split at h
  · cases h
  · rename_i htruth
    split at h
    · cases h
    · rename_i hnone
      cases h
      rw [hx.table_name]
      exact .unknownColumn htruth (hx.ne_of_column?_eq_none hnone)

/-- A parameter that cannot be placed is in conflict with one of its name before it. -/
lemma exhibits_of_place_error (hx : StandsAt x scope table w) {p : Parameter}
    (h : w.arena.place site p = .error err) : x.Exhibits (.param site p) err := by
  obtain ⟨name, slot, hslot, hslotName, hname, h⟩ := Arena.place_error h
  obtain ⟨ns, hns⟩ := hx.reached.arena
  have hearlier : slot ∈ x.earlier := hns.mem_of_name hslot hslotName
  rcases h with ⟨hkind, rfl⟩ | ⟨hruntime, rfl⟩
  · exact .parameter hearlier hslotName hname hkind
  · exact .mixedParameter hearlier hslotName hname hruntime

/-- A negation that is refused has an operand that is no truth value. -/
lemma exhibits_of_not_error {e : Expr} {te : Typed} (he : e.HasKind x.current te.kind)
    (h : te.not site = .error err) : x.Exhibits (.not site e) err := by
  rcases except_bind_error.mp h with h | ⟨-, -, ⟨⟩⟩
  exact exhibits_of_misfits .not he (Typed.requireScalar_error rfl h)

/-- An operator that is refused has an operand that it does not take. -/
lemma exhibits_of_binary_error {op : BinaryOp} {l r : Expr} {tl tr : Typed}
    (hl : l.HasKind x.current tl.kind) (hr : r.HasKind x.current tr.kind)
    (h : Typed.binary site op tl tr = .error err) : x.Exhibits (.binary site op l r) err := by
  rcases except_bind_error.mp h with h | ⟨-, -, ⟨⟩⟩
  rcases Typed.checkOperands_error h with ⟨expected, hexpected, h | h⟩ | ⟨hcomparison, h⟩
  · exact exhibits_of_misfits (.operand hexpected (.inl rfl)) hl h
  · exact exhibits_of_misfits (.operand hexpected (.inr rfl)) hr h
  · exact exhibits_of_misfits (.comparison hcomparison hl) hr h

/-- A test for NULL that is refused has an operand that cannot be NULL. -/
lemma exhibits_of_nullTest_error {test : NullTest} {e : Expr} {te : Typed}
    (he : e.HasKind x.current te.kind) (h : te.nullTest site test = .error err) :
    x.Exhibits (.nullTest site test e) err := by
  obtain ⟨hnullable, rfl⟩ := except_check_error.mp h
  exact .notNullable he (by simpa using hnullable)

/-- A pattern that is refused has an operand that is no text. -/
lemma exhibits_of_like_error {negated : Bool} {e p : Expr} {te tp : Typed}
    (he : e.HasKind x.current te.kind) (hp : p.HasKind x.current tp.kind)
    (h : te.like site negated tp = .error err) : x.Exhibits (.like site negated e p) err := by
  rcases except_bind_error.mp h with h | ⟨-, -, h⟩
  · exact exhibits_of_misfits (.like (.inl rfl)) he (Typed.requireScalar_error rfl h)
  · rcases except_bind_error.mp h with h | ⟨-, -, ⟨⟩⟩
    exact exhibits_of_misfits (.like (.inr rfl)) hp (Typed.requireScalar_error rfl h)

/-- A range that is refused has an operand or a bound that does not fit. -/
lemma exhibits_of_between_error {negated : Bool} {e low high : Expr} {te tl th : Typed}
    (he : e.HasKind x.current te.kind) (hl : low.HasKind x.current tl.kind)
    (hh : high.HasKind x.current th.kind) (h : te.between site negated tl th = .error err) :
    x.Exhibits (.between site negated e low high) err := by
  rcases except_bind_error.mp h with h | ⟨-, -, h⟩
  · exact exhibits_of_misfits .between he (Typed.requireOrderable_error h)
  · rcases except_bind_error.mp h with h | ⟨-, -, h⟩
    · exact exhibits_of_misfits (.bound (.inl rfl) he) hl (Typed.requireComparable_error h)
    · rcases except_bind_error.mp h with h | ⟨-, -, ⟨⟩⟩
      exact exhibits_of_misfits (.bound (.inr rfl) he) hh (Typed.requireComparable_error h)

/-- A call that is refused has an argument that the function does not take. -/
lemma exhibits_of_call_error {f : ScalarFunction} {e : Expr} {te : Typed}
    (he : e.HasKind x.current te.kind) (h : te.call site f = .error err) :
    x.Exhibits (.call site f e) err := by
  cases f with
  | lower | upper =>
    rcases except_bind_error.mp h with h | ⟨-, -, ⟨⟩⟩
    exact exhibits_of_misfits .argument he (Typed.requireScalar_error rfl h)
  | length =>
    obtain ⟨hkind, rfl⟩ := except_check_error.mp h
    exact .operand .argument he hkind
  | abs =>
    rcases except_bind_error.mp h with h | ⟨-, -, ⟨⟩⟩
    exact exhibits_of_misfits .argument he (Typed.requireNumeric_error h)

/-- A complete filter fails because it is a lone truth value, or as the expression does, or because
this is not boolean. -/
lemma complete_blames (hx : StandsAt x scope table w) (hfilter : x.isFilter = true) {e : Expr}
    (he : RaisesOnly (Error.IsBlamedOn (e.nodes x)) (e.compile scope table) w) :
    RaisesOnly (Error.IsBlamedOn (e.nodes x))
      (Compiling.complete e (e.compile scope table)) w := by
  unfold Compiling.complete
  cases htruth : e.isTruthValue with
  | true => exact .bind (.throw (.self (.constantFilter hfilter htruth))) fun _ _ h => nomatch h
  | false =>
    refine .bind he fun t w₁ ht => .bind (.lift fun err h => .self ?_) fun _ _ _ => .pure t
    obtain ⟨hkind, rfl⟩ := except_check_error.mp h
    exact .filter hfilter (hx.hasKind ht) hkind

end Errors

mutual

/-- Every error of a compilation that points to a site states the fault of a node of the expression,
where it stands, and points to the site of this node. -/
theorem compile_blames : ∀ (e : Expr) {x : Standing} {scope : Scope} {table : Table}
    {w : Workspace}, StandsAt x scope table w →
    RaisesOnly (Error.IsBlamedOn (e.nodes x)) (e.compile scope table) w
  | .literal s v, x, scope, table, w, hx => by
    simp only [compile]
    exact .lift fun _ h => .self (exhibits_of_literal_error h)
  | .column s name, x, scope, table, w, hx => by
    simp only [compile]
    exact .lift fun _ h => .self (exhibits_of_column_error hx h)
  | .param s p, x, scope, table, w, hx => by
    simp only [compile]
    refine .bind (fun err w' h => .self (exhibits_of_place_error hx ?_)) fun _ _ _ => .pure _
    unfold Compiling.place at h
    split at h
    · cases h
    · rename_i hplace
      cases h
      exact hplace
  | .within s u e, x, scope, table, w, hx => by
    simp only [compile]
    cases hu : scope.find? u with
    | none => exact .throw (.self (.notAccessible (hx.not_mem_frames hu)))
    | some other =>
      exact (compile_blames e (hx.within hu)).of_part (by simp [nodes])
  | .not s e, x, scope, table, w, hx => by
    simp only [compile]
    have he := compile_blames e hx.operand
    exact .bind (he.of_part (by simp [nodes])) fun te _ hte =>
      .lift fun _ h => .self (exhibits_of_not_error (hx.hasKind hte) h)
  | .nullTest s test e, x, scope, table, w, hx => by
    simp only [compile]
    have he := compile_blames e hx.operand
    exact .bind (he.of_part (by simp [nodes])) fun te _ hte =>
      .lift fun _ h => .self (exhibits_of_nullTest_error (hx.hasKind hte) h)
  | .call s f e, x, scope, table, w, hx => by
    simp only [compile]
    have he := compile_blames e hx.operand
    exact .bind (he.of_part (by simp [nodes])) fun te _ hte =>
      .lift fun _ h => .self (exhibits_of_call_error (hx.hasKind hte) h)
  | .binary s op l r, x, scope, table, w, hx => by
    simp only [compile]
    have hl := compile_blames l hx.operand
    refine .bind (hl.of_part (by simp [nodes])) fun tl w₁ htl => ?_
    have hr := compile_blames r (hx.after htl)
    exact .bind (hr.of_part (by simp [nodes])) fun tr _ htr =>
      .lift fun _ h => .self (exhibits_of_binary_error (hx.hasKind htl)
        ((hx.after htl).hasKind htr) h)
  | .like s negated e p, x, scope, table, w, hx => by
    simp only [compile]
    have he := compile_blames e hx.operand
    refine .bind (he.of_part (by simp [nodes])) fun te w₁ hte => ?_
    have hp := compile_blames p (hx.after hte)
    exact .bind (hp.of_part (by simp [nodes])) fun tp _ htp =>
      .lift fun _ h => .self (exhibits_of_like_error (hx.hasKind hte)
        ((hx.after hte).hasKind htp) h)
  | .between s negated e low high, x, scope, table, w, hx => by
    simp only [compile]
    have he := compile_blames e hx.operand
    refine .bind (he.of_part (by simp [nodes])) fun te w₁ hte => ?_
    have hlow := compile_blames low (hx.after hte)
    refine .bind (hlow.of_part fun q hq => by simp [nodes, hq]) fun tl w₂ htl => ?_
    have hafter := (hx.after hte).after htl
    have hhigh := compile_blames high hafter
    exact .bind (hhigh.of_part fun q hq => by simp [nodes, hq]) fun th _ hth =>
      .lift fun _ h => .self (exhibits_of_between_error (hx.hasKind hte)
        ((hx.after hte).hasKind htl) (hafter.hasKind hth) h)
  | .inList s negated e [], x, scope, table, w, hx => by
    simp only [compile]
    exact .bind (.throw (.self .emptyList)) fun _ _ h => nomatch h
  | .inList s negated e (item :: items), x, scope, table, w, hx => by
    simp only [compile]
    have he := compile_blames e hx.operand
    refine .bind (he.of_part (by simp [nodes])) fun te w₁ hte => ?_
    have hitems := compileItems_blames (item :: items) s (.inList negated) te (hx.after hte)
    refine .bind (hitems.mono ?_) fun _ _ _ => .pure _
    rintro err (h | ⟨d, hd, td, htd, h⟩)
    · exact h.mono (by simp [nodes])
    · exact .self (exhibits_of_misfits (.item hd (hx.hasKind hte)) htd h)
  | .existsIn s u e, x, scope, table, w, hx => by
    simp only [compile]
    -- the error of a registration points to no site
    refine .bind ((Compiling.register_raises u w).mono fun _ => .of_site?_eq_none)
      fun inner w₁ hu => .bind ?_ fun _ _ _ => .pure _
    obtain ⟨r, hr, rfl⟩ := Compiling.register_ok.mp hu
    have hinner := hx.nested hr
    exact (complete_blames hinner rfl (compile_blames e hinner)).of_part (by simp [nodes])

/-- Every error of a list of items is blamed on a node of one of them, or is that one of them is not
comparable with the operand before the list. -/
theorem compileItems_blames : ∀ (items : List Expr) (site : Site) (construct : Construct)
    (operand : Typed) {x : Standing} {scope : Scope} {table : Table} {w : Workspace},
    StandsAt x scope table w →
    RaisesOnly (fun err => err.IsBlamedOn (itemNodes x items) ∨
        ∃ e ∈ items, ∃ t : Typed, e.HasKind x.current t.kind ∧
          t.Misfits site construct (.kind operand.kind.base) err)
      (compileItems scope table site construct operand items) w
  | [], site, construct, operand, x, scope, table, w, hx => by
    simp only [compileItems]
    exact .pure _
  | e :: es, site, construct, operand, x, scope, table, w, hx => by
    simp only [compileItems]
    refine .bind ((compile_blames e hx).mono fun _ h => .inl (h.mono (by simp [itemNodes])))
      fun te w₁ hte => .bind (.lift fun err h => .inr ?_) ?_
    · exact ⟨e, by simp, te, hx.hasKind hte, Typed.requireComparable_error h⟩
    · intro _ w₂ hrun
      obtain ⟨-, rfl⟩ := run_lift_ok.mp hrun
      have hes := compileItems_blames es site construct operand (hx.after hte)
      refine .bind (hes.mono ?_) fun _ _ _ => .pure _
      rintro err (h | ⟨d, hd, td, htd, h⟩)
      · exact .inl (h.mono (by simp [itemNodes]))
      · exact .inr ⟨d, List.mem_cons_of_mem e hd, td, htd, h⟩

end

end Expr

/-! ## Queries -/

namespace Query

variable {t : TableType} {filter : Expr} {r r' : Registry}

/-- The compilation of a query fails as the registration of its table or as that of its filter. -/
lemma compile_raises (hr : r.IsSound) (t : TableType) (filter : Expr) :
    RaisesOnly (Error.IsBlamedOn (filter.nodes (.start t))) (Query.compile t filter) r := by
  refine .bind ((Registry.register_raises t r).mono fun _ => .of_site?_eq_none)
    fun table r₁ ht => .bind ?_ fun q _ _ => .bind (fun _ _ h => nomatch h) fun _ _ _ => .pure q
  obtain ⟨htable, hr₁⟩ := Registry.register_ok hr ht
  have hstart := Expr.StandsAt.start htable hr₁
  have hfilter := Expr.complete_blames hstart rfl (Expr.compile_blames filter hstart)
  intro e r₂ h
  unfold compileOver Expr.compileFilter at h
  rcases hrun : Compiling.complete filter (filter.compile [⟨t, table⟩] table) ⟨r₁, {}⟩ with
    ⟨e' | tf, w⟩ <;> rw [hrun] at h <;> cases h
  exact hfilter e w hrun

/-- No node of a filter that compiles has a fault. -/
lemma not_exhibits_of_compile (hr : r.IsSound) {q : Query}
    (h : Query.compile t filter r = (.ok q, r')) (x : Standing) (node : Expr) (e : Error)
    (hmem : (x, node) ∈ filter.nodes (.start t)) : ¬ x.Exhibits node e := by
  obtain ⟨table, r₁, hregister, hguard, tf, w, hf, hk, -⟩ := compile_ok.mp h
  obtain ⟨htable, hr₁⟩ := Registry.register_ok hr hregister
  have hcompiles : Expr.CompilesAt (.start t) filter :=
    ⟨_, _, _, _, _, .start htable hr₁, hf, fun _ => ⟨hguard, hk⟩⟩
  exact (Expr.nodes_compileAt filter hcompiles _ hmem).not_exhibits e

/-- A filter over valid table types compiles if no node of it has a fault. -/
lemma exists_compile (hr : r.IsSound) (hvalid : ∀ u ∈ t :: filter.tables, u.IsValid)
    (hfaultless : ∀ x node e, (x, node) ∈ filter.nodes (.start t) → ¬ x.Exhibits node e) :
    ∃ q r', Query.compile t filter r = (.ok q, r') := by
  rcases hrun : Query.compile t filter r with ⟨e | q, r'⟩
  · cases hsite : e.site? with
    | some s =>
      obtain ⟨x, node, hmem, -, hexhibits⟩ := compile_raises hr t filter e r' hrun s hsite
      exact absurd hexhibits (hfaultless x node e hmem)
    | none =>
      obtain ⟨u, hu, fault, hfault, -⟩ := (compile_registers t filter).blames r e r' hrun hsite
      obtain ⟨table, htable⟩ := TableType.isValid_iff.mp (hvalid u hu)
      cases hfault.symm.trans htable
  · exact ⟨q, r', rfl⟩

/-- From every reachable registry, an error of a compilation that points to a site is the fault of
a node of the filter at that site, where this node stands; the error for a literal NULL arises only
if there is one. A filter compiles if and only if the table types in it are valid and no node of it
has a fault.

*Proof sketch.* The pass of the compiler keeps with every node the frames, the current table and the
parameters that stand before the node in the filter. By induction on the filter, an error is that of
a part or of the check at the node itself; and the operands that have been compiled by then have the
kinds that the signatures give them, and no other kinds. -/
theorem compile_error_exhibited (hr : r.IsReachable) (t : TableType) (filter : Expr) :
    (∀ e r' s, Query.compile t filter r = (.error e, r') → e.site? = some s →
      ∃ x node, (x, node) ∈ filter.nodes (.start t) ∧ node.site = s ∧ x.Exhibits node e) ∧
    ((∀ x s, (x, .literal s .null) ∉ filter.nodes (.start t)) →
      ∀ s r', Query.compile t filter r ≠ (.error (.refused s .nullLiteral), r')) ∧
    ((∃ q r', Query.compile t filter r = (.ok q, r')) ↔
      (∀ u ∈ t :: filter.tables, u.IsValid) ∧
        ∀ x node e, (x, node) ∈ filter.nodes (.start t) → ¬ x.Exhibits node e) := by
  have hblames : ∀ e r' s, Query.compile t filter r = (.error e, r') → e.site? = some s →
      ∃ x node, (x, node) ∈ filter.nodes (.start t) ∧ node.site = s ∧ x.Exhibits node e :=
    fun e r' s h => compile_raises hr.isSound t filter e r' h s
  refine ⟨hblames, fun hnull s r' h => ?_, ?_, ?_⟩
  · obtain ⟨x, node, hmem, -, hexhibits⟩ := hblames _ r' s h rfl
    cases hexhibits
    exact hnull x s hmem
  · rintro ⟨q, r', h⟩
    have hwell := (compile_ok_iff_isWellFormed hr t filter).mp ⟨q, r', h⟩
    exact ⟨hwell.valid, not_exhibits_of_compile hr.isSound h⟩
  · rintro ⟨hvalid, hfaultless⟩
    exact exists_compile hr.isSound hvalid hfaultless

end Query

namespace Sample

/-- The persons with a pet of their own, where the owner is looked up among the columns of the
person. -/
def strays : Expr :=
  Builder.existsRow <| Builder.filter pet <|
    .binary ⟨"eq"⟩ .equal (Builder.col "owner") (Builder.column person "owner")

/-- The pets have the column, the persons do not: the error points to the qualified column. The
nodes of a filter that compiles have no fault. -/
theorem strays_blamed :
    (∃ e r', Query.compile person strays {} = (.error e, r') ∧
      e = .unknownColumn ⟨"column"⟩ "owner" "person" ∧
      ∃ x node, (x, node) ∈ strays.nodes (.start person) ∧ node.site = ⟨"column"⟩ ∧
        x.Exhibits node e) ∧
    ∀ x node e, (x, node) ∈ owners.nodes (.start person) → ¬ x.Exhibits node e := by
  obtain ⟨r', h⟩ : ∃ r', Query.compile person strays {} =
      (.error (.unknownColumn ⟨"column"⟩ "owner" "person"), r') := ⟨_, rfl⟩
  obtain ⟨hblames, -⟩ := Query.compile_error_exhibited ⟨[], rfl⟩ person strays
  obtain ⟨-, -, hcompiles⟩ := Query.compile_error_exhibited ⟨[], rfl⟩ person owners
  exact ⟨⟨_, r', h, rfl, hblames _ r' _ h rfl⟩, (hcompiles.mp exists_compile_owners).2⟩

end Sample

end TypedSql
