import TypedSql.Proofs.Query.Arguments
import TypedSql.Proofs.Query.Faults

/-!
# Sources of NULL

Every operator takes the nullability of its result from its operands, each in its own way. This file
says what they amount to: the kind of a compiled expression is nullable exactly if that of one of
its columns and parameters is, apart from those in a test for NULL and in a nested query, whose
results are never NULL. And no operator nests nullable layers.

## Main definitions

* `Expr.sources` — the columns and parameters that are in no test for NULL and no nested query.
* `Expr.HasNullSource` — one of them is nullable.

## Main results

* `Expr.compile_isNullable_iff` — the kind of an expression is nullable if it has a source of NULL.
* `Expr.compile_isWellFormed` — no kind has more than one nullable layer.
* `Expr.nullable_from_sources` — both, at every node, and when a test for NULL compiles.
-/

set_option autoImplicit false

namespace TypedSql

/-! ## Joined kinds -/

namespace Kind

/-- A joined kind admits NULL if one of its parts does. -/
lemma isNullable_joined (s : Scalar) (ks : List Kind) :
    (joined s ks).isNullable = ks.any (·.isNullable) := by
  unfold joined nullableIf
  split
  · rename_i hany
    rw [isNullable_nullable, hany]
  · rename_i hany
    rw [isNullable_plain, Bool.eq_false_iff.mpr hany]

/-- A joined kind has one nullable layer at most, whatever it is joined from. -/
lemma isWellFormed_joined (s : Scalar) (ks : List Kind) :
    (joined s ks).isWellFormed = true := by
  unfold joined nullableIf
  split
  · exact isWellFormed_nullable rfl
  · rfl

end Kind

/-- A parameter that is made from a field type has one nullable layer at most. -/
lemma Parameter.IsTyped.isWellFormed_kind {p : Parameter} (h : p.IsTyped) :
    p.kind.isWellFormed = true := by
  obtain ⟨t, hkind, -⟩ := h
  rw [hkind]
  exact t.isWellFormed_kind

namespace Expr

/-! ## Sources -/

mutual

/-- The columns and parameters of an expression that are in no test for NULL and in no nested query,
each with its current table. -/
def sources (current : TableType) : Expr → List (TableType × Expr)
  | .literal _ _ | .nullTest _ _ _ | .existsIn _ _ _ => []
  | .column s name => [(current, .column s name)]
  | .param s p => [(current, .param s p)]
  | .within _ u e => e.sources u
  | .not _ e | .call _ _ e => e.sources current
  | .binary _ _ l r | .like _ _ l r => l.sources current ++ r.sources current
  | .between _ _ e low high => e.sources current ++ low.sources current ++ high.sources current
  | .inList _ _ e items => e.sources current ++ itemSources current items

/-- The same for the items of a list. -/
def itemSources (current : TableType) : List Expr → List (TableType × Expr)
  | [] => []
  | e :: es => e.sources current ++ itemSources current es

end

/-- Whether one of the expressions, each over its table, is of a nullable kind. -/
def AnyNullable (ps : List (TableType × Expr)) : Prop :=
  ∃ p ∈ ps, ∃ k, p.2.HasKind p.1 k ∧ k.isNullable = true

/-- Whether one of the sources of an expression is nullable. -/
def HasNullSource (current : TableType) (e : Expr) : Prop := AnyNullable (e.sources current)

/-- Without nodes there is no source of NULL. -/
lemma anyNullable_nil : ¬ AnyNullable [] := nofun

/-- A source of NULL in two lists of nodes is one in either. -/
lemma anyNullable_append {ps qs : List (TableType × Expr)} :
    AnyNullable (ps ++ qs) ↔ AnyNullable ps ∨ AnyNullable qs := by
  simp only [AnyNullable, List.mem_append, or_and_right, exists_or]

/-- An expression of a single kind alone is nullable if this kind is. -/
lemma anyNullable_singleton {current : TableType} {e : Expr} {k : Kind}
    (h : ∀ l, e.HasKind current l ↔ l = k) :
    AnyNullable [(current, e)] ↔ k.isNullable = true := by
  simp [AnyNullable, h]

mutual

/-- The kind of a compiled expression is nullable exactly if one of its sources is. -/
theorem compile_isNullable_iff : ∀ (e : Expr) {scope : Scope} {current : TableType} {table : Table}
    {w w' : Workspace} {t : Typed}, scope.IsSound → current.table = .ok table →
    e.compile scope table w = (.ok t, w') →
    (t.kind.isNullable = true ↔ AnyNullable (e.sources current))
  | .literal _ _, _, _, _, _, _, _, _, _, h => by
    obtain ⟨⟨⟨s, -, rfl⟩, -⟩, -⟩ := compile_literal_ok.mp h
    exact iff_of_false (by simp) anyNullable_nil
  | .column s name, _, current, table, _, _, _, _, hcurrent, h => by
    have hcolumn : ∀ c, table.column? name = some c ↔ c ∈ current.columns ∧ c.name = name := by
      intro c
      rw [Table.column?_eq_some_iff, (TableType.table_ok_iff.mp hcurrent).2]
    rw [sources]
    obtain ⟨⟨b, htruth, rfl⟩ | ⟨htruth, c, hc, rfl⟩, -⟩ := compile_column_ok.mp h
    · refine (anyNullable_singleton fun l => ?_).symm
      simp [HasKind, htruth]
    · refine (anyNullable_singleton fun l => ⟨?_, ?_⟩).symm
      · rintro (⟨b, hb, -⟩ | ⟨-, d, hmem, hname, rfl⟩)
        · cases htruth.symm.trans hb
        · cases hc.symm.trans ((hcolumn d).mpr ⟨hmem, hname⟩)
          rfl
      · rintro rfl
        obtain ⟨hmem, hname⟩ := (hcolumn c).mp hc
        exact .inr ⟨htruth, c, hmem, hname, rfl⟩
  | .param _ p, _, _, _, _, _, _, _, _, h => by
    obtain ⟨n, a, -, rfl, -⟩ := compile_param_ok.mp h
    rw [sources]
    exact (anyNullable_singleton fun _ => Iff.rfl).symm
  | .within _ u e, _, _, _, _, _, _, hscope, _, h => by
    obtain ⟨other, hu, he⟩ := compile_within_ok.mp h
    rw [sources]
    exact compile_isNullable_iff e hscope (hscope.table_of_find? hu) he
  | .not _ e, _, _, _, _, _, _, hscope, hcurrent, h => by
    obtain ⟨te, he, -, rfl⟩ := compile_not_ok.mp h
    rw [sources, ← compile_isNullable_iff e hscope hcurrent he, Kind.isNullable_joined]
    simp
  | .call _ _ e, _, _, _, _, _, _, hscope, hcurrent, h => by
    obtain ⟨te, he, -, rfl⟩ := compile_call_ok.mp h
    rw [sources, ← compile_isNullable_iff e hscope hcurrent he, Kind.isNullable_joined]
    simp
  | .nullTest _ _ _, _, _, _, _, _, _, _, _, h => by
    -- a test is never NULL, whatever stands in it, and has no sources
    obtain ⟨te, -, -, rfl⟩ := compile_nullTest_ok.mp h
    exact iff_of_false (by simp) anyNullable_nil
  | .existsIn _ _ _, _, _, _, _, _, _, _, _, h => by
    obtain ⟨inner, r, -, -, tf, -, -, rfl⟩ := compile_existsIn_ok.mp h
    exact iff_of_false (by simp [Typed.existsIn]) anyNullable_nil
  | .binary _ _ l r, _, _, _, _, _, _, hscope, hcurrent, h => by
    obtain ⟨tl, w₁, hl, tr, hr, -, rfl⟩ := compile_binary_ok.mp h
    rw [sources, anyNullable_append, ← compile_isNullable_iff l hscope hcurrent hl,
      ← compile_isNullable_iff r hscope hcurrent hr, Kind.isNullable_joined]
    simp
  | .like _ _ e p, _, _, _, _, _, _, hscope, hcurrent, h => by
    obtain ⟨te, w₁, he, tp, hp, -, rfl⟩ := compile_like_ok.mp h
    rw [sources, anyNullable_append, ← compile_isNullable_iff e hscope hcurrent he,
      ← compile_isNullable_iff p hscope hcurrent hp, Kind.isNullable_joined]
    simp
  | .between _ _ e low high, _, _, _, _, _, _, hscope, hcurrent, h => by
    obtain ⟨te, w₁, he, tl, w₂, hl, th, hh, -, rfl⟩ := compile_between_ok.mp h
    rw [sources, anyNullable_append, anyNullable_append,
      ← compile_isNullable_iff e hscope hcurrent he,
      ← compile_isNullable_iff low hscope hcurrent hl,
      ← compile_isNullable_iff high hscope hcurrent hh, Kind.isNullable_joined]
    simp [or_assoc]
  | .inList _ _ e items, _, _, _, _, _, _, hscope, hcurrent, h => by
    obtain ⟨-, te, w₁, he, ts, hs, rfl⟩ := compile_inList_ok.mp h
    rw [sources, anyNullable_append, ← compile_isNullable_iff e hscope hcurrent he,
      ← compileItems_isNullable_iff items hscope hcurrent hs, Typed.inList, Typed.resultKind_eq,
      Kind.isNullable_joined]
    simp

/-- One of the kinds of compiled items is nullable exactly if one of their sources is. -/
theorem compileItems_isNullable_iff : ∀ (items : List Expr) {scope : Scope} {current : TableType}
    {table : Table} {site : Site} {construct : Construct} {operand : Typed} {w w' : Workspace}
    {ts : List Typed}, scope.IsSound → current.table = .ok table →
    compileItems scope table site construct operand items w = (.ok ts, w') →
    ((∃ t ∈ ts, t.kind.isNullable = true) ↔ AnyNullable (itemSources current items))
  | [], _, _, _, _, _, _, _, _, _, _, _, h => by
    obtain ⟨rfl, -⟩ := compileItems_nil_ok.mp h
    exact iff_of_false nofun anyNullable_nil
  | e :: es, _, _, _, _, _, _, _, _, _, hscope, hcurrent, h => by
    obtain ⟨te, w₁, he, -, tes, hs, rfl⟩ := compileItems_cons_ok.mp h
    rw [itemSources, anyNullable_append, ← compile_isNullable_iff e hscope hcurrent he,
      ← compileItems_isNullable_iff es hscope hcurrent hs]
    simp

end

/-! ## Nullable layers -/

/-- The kind of a compiled expression has one nullable layer at most if those of its parameters
have. -/
theorem compile_isWellFormed : ∀ (e : Expr) {scope : Scope} {table : Table} {w w' : Workspace}
    {t : Typed}, (∀ p ∈ e.markers, p.kind.isWellFormed = true) →
    e.compile scope table w = (.ok t, w') → t.kind.isWellFormed = true
  | .literal _ _, _, _, _, _, _, _, h => by
    obtain ⟨⟨⟨s, -, rfl⟩, -⟩, -⟩ := compile_literal_ok.mp h
    rfl
  | .column _ _, _, table, _, _, _, _, h => by
    obtain ⟨⟨b, -, rfl⟩ | ⟨-, c, hc, rfl⟩, -⟩ := compile_column_ok.mp h
    · rfl
    · exact table.isWellFormed_kind (Table.column?_eq_some_iff.mp hc).1
  | .param _ p, _, _, _, _, _, hparams, h => by
    obtain ⟨n, a, -, rfl, -⟩ := compile_param_ok.mp h
    exact hparams p (by simp [markers])
  | .within _ u e, _, _, _, _, _, hparams, h => by
    obtain ⟨other, -, he⟩ := compile_within_ok.mp h
    rw [markers] at hparams
    exact compile_isWellFormed e hparams he
  | .not _ _, _, _, _, _, _, _, h => by
    obtain ⟨te, -, -, rfl⟩ := compile_not_ok.mp h
    exact Kind.isWellFormed_joined _ _
  | .call _ _ _, _, _, _, _, _, _, h => by
    obtain ⟨te, -, -, rfl⟩ := compile_call_ok.mp h
    exact Kind.isWellFormed_joined _ _
  | .nullTest _ _ _, _, _, _, _, _, _, h => by
    obtain ⟨te, -, -, rfl⟩ := compile_nullTest_ok.mp h
    rfl
  | .existsIn _ _ _, _, _, _, _, _, _, h => by
    obtain ⟨inner, r, -, -, tf, -, -, rfl⟩ := compile_existsIn_ok.mp h
    rfl
  | .binary _ _ _ _, _, _, _, _, _, _, h => by
    obtain ⟨tl, w₁, -, tr, -, -, rfl⟩ := compile_binary_ok.mp h
    exact Kind.isWellFormed_joined _ _
  | .like _ _ _ _, _, _, _, _, _, _, h => by
    obtain ⟨te, w₁, -, tp, -, -, rfl⟩ := compile_like_ok.mp h
    exact Kind.isWellFormed_joined _ _
  | .between _ _ _ _ _, _, _, _, _, _, _, h => by
    obtain ⟨te, w₁, -, tl, w₂, -, th, -, -, rfl⟩ := compile_between_ok.mp h
    exact Kind.isWellFormed_joined _ _
  | .inList _ _ _ _, _, _, _, _, _, _, h => by
    obtain ⟨-, te, w₁, -, ts, -, rfl⟩ := compile_inList_ok.mp h
    rw [Typed.inList, Typed.resultKind_eq]
    exact Kind.isWellFormed_joined _ _

mutual

/-- What holds of the parameters of an expression holds of those of its nodes. -/
theorem nodes_markers {P : Parameter → Prop} : ∀ (e : Expr) {x : Standing},
    (∀ m ∈ e.markers, P m) → ∀ p ∈ e.nodes x, ∀ m ∈ p.2.markers, P m
  | .literal _ _, _, h | .column _ _, _, h | .param _ _, _, h => by
    simpa only [nodes, List.forall_mem_singleton] using h
  | .within _ _ e, _, h | .not _ e, _, h | .nullTest _ _ e, _, h | .call _ _ e, _, h
  | .existsIn _ _ e, _, h => by
    simp only [nodes, List.forall_mem_cons]
    exact ⟨h, nodes_markers e h⟩
  | .binary _ _ l r, _, h | .like _ _ l r, _, h => by
    obtain ⟨hl, hr⟩ := List.forall_mem_append.mp h
    simp only [nodes, List.forall_mem_cons, List.forall_mem_append]
    exact ⟨h, nodes_markers l hl, nodes_markers r hr⟩
  | .between _ _ e low high, _, h => by
    obtain ⟨hrange, hhigh⟩ := List.forall_mem_append.mp h
    obtain ⟨he, hlow⟩ := List.forall_mem_append.mp hrange
    simp only [nodes, List.forall_mem_cons, List.forall_mem_append]
    exact ⟨h, ⟨nodes_markers e he, nodes_markers low hlow⟩, nodes_markers high hhigh⟩
  | .inList _ _ e items, _, h => by
    obtain ⟨he, hitems⟩ := List.forall_mem_append.mp h
    simp only [nodes, List.forall_mem_cons, List.forall_mem_append]
    exact ⟨h, nodes_markers e he, itemNodes_markers items hitems⟩

/-- The parameters of the nodes of items are parameters of the items. -/
theorem itemNodes_markers {P : Parameter → Prop} : ∀ (es : List Expr) {x : Standing},
    (∀ m ∈ itemMarkers es, P m) → ∀ p ∈ itemNodes x es, ∀ m ∈ p.2.markers, P m
  | [], _, _ => by simp [itemNodes]
  | e :: es, _, h => by
    obtain ⟨he, hes⟩ := List.forall_mem_append.mp h
    simp only [itemNodes, List.forall_mem_append]
    exact ⟨nodes_markers e he, itemNodes_markers es hes⟩

end

/-! ## Where NULL comes from -/

/-- **The kind of an expression is nullable exactly if a source of NULL reaches it.** Wherever an
expression compiles, its kind is nullable if and only if it has a column or a parameter of a
nullable kind that is in no test for NULL and in no nested query of it. If the parameters so far are
made from field types, then every parameter in the arena and every node of the expression, where it
stands, has a kind with one nullable layer at most. So a test for NULL of the expression compiles if
and only if it has such a source.

Proof sketch. By induction on the expression: each operator joins the nullability of all its
operands, and its sources are those of all its operands; a test for NULL and a nested query have
neither. The nodes compile where they stand, and the slots of the arena are parameters placed so
far. -/
theorem nullable_from_sources {x : Standing} {scope : Scope} {table : Table} {w w' : Workspace}
    {e : Expr} {t : Typed} (hx : StandsAt x scope table w)
    (h : e.compile scope table w = (.ok t, w')) :
    (t.kind.isNullable = true ↔ e.HasNullSource x.current) ∧
      ((∀ p ∈ x.earlier ++ e.markers, p.IsTyped) →
        (∀ slot ∈ w'.arena.slots, slot.kind.isWellFormed = true) ∧
          ∀ p ∈ e.nodes x.operand, ∃ scope table w t w', StandsAt p.1 scope table w ∧
            p.2.compile scope table w = (.ok t, w') ∧ t.kind.isWellFormed = true ∧
            (t.kind.isNullable = true ↔ p.2.HasNullSource p.1.current)) ∧
      ∀ site test, (∃ t' w'', (nullTest site test e).compile scope table w = (.ok t', w'')) ↔
        e.HasNullSource x.current := by
  have hnullable : t.kind.isNullable = true ↔ e.HasNullSource x.current :=
    compile_isNullable_iff e hx.reached.scope hx.reached.current h
  refine ⟨hnullable, fun htyped => ⟨fun slot hslot => ?_, fun p hp => ?_⟩, fun site test => ?_⟩
  · obtain ⟨ns, hnumbering⟩ := (hx.after h).reached.arena
    exact (htyped slot (hnumbering.mem hslot)).isWellFormed_kind
  · have hoperand : ¬ x.operand.isFilter = true := Bool.false_ne_true
    have hcompiles : CompilesAt x.operand e :=
      ⟨_, _, _, _, _, hx.operand, h, fun hfilter => absurd hfilter hoperand⟩
    obtain ⟨scope', table', w₁, tp, w₂, hstands, hcompile, -⟩ := nodes_compileAt e hcompiles p hp
    have hparams : ∀ m ∈ e.markers, m.kind.isWellFormed = true := fun m hm =>
      (htyped m (List.mem_append_right _ hm)).isWellFormed_kind
    exact ⟨scope', table', w₁, tp, w₂, hstands, hcompile,
      compile_isWellFormed p.2 (nodes_markers e hparams p hp) hcompile,
      compile_isNullable_iff p.2 hstands.reached.scope hstands.reached.current hcompile⟩
  · rw [← hnullable]
    constructor
    · rintro ⟨t', w'', htest⟩
      obtain ⟨te, he, hkind, -⟩ := compile_nullTest_ok.mp htest
      cases h.symm.trans he
      exact hkind
    · exact fun hkind => ⟨_, w', compile_nullTest_ok.mpr ⟨t, h, hkind, rfl⟩⟩

end Expr

namespace Sample

/-- The persons at least of an age `limit`. -/
def ofAge : Expr := .binary ⟨"ge"⟩ .greaterEqual (Builder.col "age") limit

/-- The age may be unknown, so that the comparison may be NULL and may be tested for it; the result
of the test may not. -/
theorem ofAge_nullable :
    ∃ t w, ofAge.compile [⟨person, persons⟩] persons ⟨{}, {}⟩ = (.ok t, w) ∧
      (∀ p ∈ ofAge.markers, p.IsTyped) ∧ ofAge.HasNullSource person ∧ t.kind.isNullable = true ∧
      (∀ slot ∈ w.arena.slots, slot.kind.isWellFormed = true) ∧
      (∃ t' w', (Expr.nullTest ⟨"is_null"⟩ .isNull ofAge).compile [⟨person, persons⟩] persons
        ⟨{}, {}⟩ = (.ok t', w')) ∧
      ¬ (Expr.nullTest ⟨"is_null"⟩ .isNull ofAge).HasNullSource person := by
  have hempty : Registry.IsReachable {} := ⟨[], rfl⟩
  have hx : Expr.StandsAt (.start person) [⟨person, persons⟩] persons ⟨{}, {}⟩ :=
    .start (TableType.table_ok_iff.mpr ⟨rfl, rfl⟩) hempty.isSound
  have htyped : ∀ p ∈ ofAge.markers, p.IsTyped := by
    show ∀ p ∈ ([_] : List Parameter), p.IsTyped
    rw [List.forall_mem_singleton]
    exact ⟨.required (.integer .int64), rfl, nofun⟩
  obtain ⟨t, w, h⟩ : ∃ t w, ofAge.compile [⟨person, persons⟩] persons ⟨{}, {}⟩ = (.ok t, w) :=
    ⟨_, _, rfl⟩
  have hsource : ofAge.HasNullSource person := by
    refine ⟨(person, Builder.col "age"), .head _, .optional .integer, ?_, rfl⟩
    exact .inr ⟨rfl, .new "age" (.optional .integer), by decide, rfl, rfl⟩
  obtain ⟨hnullable, hslots, htest⟩ := Expr.nullable_from_sources hx h
  exact ⟨t, w, h, htyped, hsource, hnullable.mpr hsource, (hslots htyped).1,
    (htest ⟨"is_null"⟩ .isNull).mpr hsource, Expr.anyNullable_nil⟩

end Sample

end TypedSql
