import TypedSql.Query.Basic
import TypedSql.Proofs.Computation
import TypedSql.Proofs.Query.Signature

/-!
# Runs of the compiler

What a compilation does, said once for each kind of expression: when it succeeds, from which
compilations of its parts, and what every run does to the workspace, whether it succeeds or not.

## Main definitions

* `Compiling.IsPath` — a relation between workspaces along which every step of a compilation moves.

## Main results

* `Expr.compile_binary_ok`, … — an expression compiles if and only if its parts do and fit.
* `Expr.compile_moves` — every run of the compiler moves the workspace along a path.
* `Query.compile_ok` — a query compiles if and only if its filter does.
-/

set_option autoImplicit false

namespace TypedSql

/-! ## Steps on the workspace -/

namespace Compiling

/-- A preorder on workspaces along which each of the two steps that change a workspace moves. -/
structure IsPath (R : Workspace → Workspace → Prop) : Prop where
  refl : ∀ w, R w w
  trans : ∀ w₁ w₂ w₃, R w₁ w₂ → R w₂ w₃ → R w₁ w₃
  register : ∀ t, Moves R (register t)
  place : ∀ site p, Moves R (place site p)

variable {w w' : Workspace}

/-- A registration in a compilation changes the registry of the workspace only. -/
lemma register_ok {t : TableType} {table : Table} :
    register t w = (.ok table, w') ↔
      ∃ r, Registry.register t w.registry = (.ok table, r) ∧ w' = { w with registry := r } := by
  unfold register
  rcases Registry.register t w.registry with ⟨result, r⟩
  constructor
  · rintro ⟨⟩
    exact ⟨r, rfl, rfl⟩
  · rintro ⟨r', ⟨⟩, rfl⟩
    rfl

/-- Placing a parameter changes the arena of the workspace only. -/
lemma place_ok {site : Site} {p : Parameter} {n : Nat} :
    place site p w = (.ok n, w') ↔
      ∃ a, w.arena.place site p = .ok (n, a) ∧ w' = { w with arena := a } := by
  unfold place
  cases w.arena.place site p with
  | error e =>
    constructor
    · rintro ⟨⟩
    · rintro ⟨a, ⟨⟩, -⟩
  | ok r =>
    constructor
    · rintro ⟨⟩
      exact ⟨r.2, rfl, rfl⟩
    · rintro ⟨a, ⟨⟩, rfl⟩
      rfl

/-- A complete filter compiles if it is no lone truth value and compiles to a boolean. -/
lemma complete_ok {filter : Expr} {x : Compiling Typed} {t : Typed} :
    complete filter x w = (.ok t, w') ↔
      filter.isTruthValue = false ∧ x w = (.ok t, w') ∧ t.kind.scalar = .boolean := by
  unfold complete
  cases filter.isTruthValue with
  | true => simp [run_throw_ok]
  | false =>
    simp only [Bool.false_eq_true, if_false, run_bind_ok, run_lift_ok, run_pure_ok, true_and]
    constructor
    · rintro ⟨_, _, hx, _, _, ⟨hk, rfl⟩, rfl, rfl⟩
      exact ⟨hx, Typed.requireScalar_ok.1 hk⟩
    · rintro ⟨hx, hk⟩
      exact ⟨_, _, hx, _, _, ⟨Typed.requireScalar_ok.2 hk, rfl⟩, rfl, rfl⟩

/-- A compilation is completed along the steps that it takes itself. -/
lemma complete_moves {R : Workspace → Workspace → Prop} (h : IsPath R) (filter : Expr)
    {x : Compiling Typed} (hx : Moves R x) : Moves R (complete filter x) := by
  have rest : Moves R (x >>= fun t => do
      t.requireScalar filter.site .filter .boolean
      return t) :=
    Moves.bind h.trans hx fun _ => Moves.bind h.trans (Moves.lift h.refl _) fun _ =>
      Moves.pure h.refl _
  unfold complete
  split
  · exact Moves.bind h.trans (Moves.throw h.refl _) fun _ => rest
  · exact rest

end Compiling

namespace Expr

/-! ## Every run -/

section Moves

variable {R : Workspace → Workspace → Prop}

mutual

/-- Every run of the compiler, whether it succeeds or fails at any point, moves the workspace along
a path. -/
theorem compile_moves (h : Compiling.IsPath R) :
    ∀ (e : Expr) (scope : Scope) (current : Table), Moves R (e.compile scope current)
  | .literal _ _, _, _ => by
    rw [compile]
    exact Moves.lift h.refl _
  | .column _ _, _, _ => by
    rw [compile]
    exact Moves.lift h.refl _
  | .within _ t inner, scope, _ => by
    rw [compile]
    cases scope.find? t with
    | none => exact Moves.throw h.refl _
    | some table => exact compile_moves h inner scope table
  | .param site p, _, _ => by
    rw [compile]
    exact Moves.bind h.trans (h.place site p) fun _ => Moves.pure h.refl _
  | .not _ e, scope, current | .nullTest _ _ e, scope, current | .call _ _ e, scope, current => by
    rw [compile]
    exact Moves.bind h.trans (compile_moves h e scope current) fun _ => Moves.lift h.refl _
  | .binary _ _ e₁ e₂, scope, current | .like _ _ e₁ e₂, scope, current => by
    rw [compile]
    exact Moves.bind h.trans (compile_moves h e₁ scope current) fun _ =>
      Moves.bind h.trans (compile_moves h e₂ scope current) fun _ => Moves.lift h.refl _
  | .between _ _ e low high, scope, current => by
    rw [compile]
    exact Moves.bind h.trans (compile_moves h e scope current) fun _ =>
      Moves.bind h.trans (compile_moves h low scope current) fun _ =>
      Moves.bind h.trans (compile_moves h high scope current) fun _ => Moves.lift h.refl _
  | .inList site negated e items, scope, current => by
    have rest : Moves R (e.compile scope current >>= fun t => do
        let ts ← compileItems scope current site (.inList negated) t items
        return t.inList negated ts) :=
      Moves.bind h.trans (compile_moves h e scope current) fun _ =>
        Moves.bind h.trans (compileItems_moves h items scope current _ _ _) fun _ =>
        Moves.pure h.refl _
    rw [compile]
    split
    · exact Moves.bind h.trans (Moves.throw h.refl _) fun _ => rest
    · exact rest
  | .existsIn _ t filter, scope, current => by
    rw [compile]
    exact Moves.bind h.trans (h.register t) fun table =>
      Moves.bind h.trans (Compiling.complete_moves h filter
        (compile_moves h filter (⟨t, table⟩ :: scope) table)) fun _ => Moves.pure h.refl _

/-- The items of a list are compiled along steps of the workspace. -/
theorem compileItems_moves (h : Compiling.IsPath R) :
    ∀ (items : List Expr) (scope : Scope) (current : Table) (site : Site)
      (construct : Construct) (operand : Typed),
      Moves R (compileItems scope current site construct operand items)
  | [], _, _, _, _, _ => by
    rw [compileItems]
    exact Moves.pure h.refl _
  | e :: es, scope, current, site, construct, operand => by
    rw [compileItems]
    exact Moves.bind h.trans (compile_moves h e scope current) fun _ =>
      Moves.bind h.trans (Moves.lift h.refl _) fun _ =>
      Moves.bind h.trans (compileItems_moves h es scope current site construct operand) fun _ =>
      Moves.pure h.refl _

end

/-- Every run of the compiler on a complete filter moves the workspace along a path. -/
lemma compileFilter_moves (h : Compiling.IsPath R) (scope : Scope) (table : Table)
    (filter : Expr) : Moves R (filter.compileFilter scope table) :=
  Compiling.complete_moves h filter (compile_moves h filter scope table)

end Moves

/-! ## Successful runs -/

section Ok

variable {scope : Scope} {current : Table} {site : Site} {w w' : Workspace} {t : Typed}

/-- A literal compiles to itself if it has a kind and is a finite number, if a number. -/
lemma compile_literal_ok {v : Cell} :
    (Expr.literal site v).compile scope current w = (.ok t, w') ↔
      ((∃ s, v.scalar? = some s ∧ ⟨.literal v, .plain s⟩ = t) ∧
        ∀ x, v = .real x → x.isFinite = true) ∧ w = w' := by
  rw [compile, run_lift_ok, Typed.literal_ok]

/-- A column compiles to a truth value if it has the name of one, else to the column of the current
table. -/
lemma compile_column_ok {name : String} :
    (Expr.column site name).compile scope current w = (.ok t, w') ↔
      ((∃ b, truthName? name = some b ∧ ⟨.literal (.bool b), .plain .boolean⟩ = t) ∨
        truthName? name = none ∧ ∃ c, current.column? name = some c ∧
          ⟨.column current.name name, c.kind⟩ = t) ∧ w = w' := by
  rw [compile, run_lift_ok, Typed.column_ok]

/-- A qualified expression compiles as it does over the table in scope. -/
lemma compile_within_ok {u : TableType} {inner : Expr} :
    (Expr.within site u inner).compile scope current w = (.ok t, w') ↔
      ∃ table, scope.find? u = some table ∧ inner.compile scope table w = (.ok t, w') := by
  rw [compile]
  cases scope.find? u with
  | none => simp [run_throw_ok]
  | some table => simp

/-- A parameter compiles to the placeholder of the slot in which it is placed. -/
lemma compile_param_ok {p : Parameter} :
    (Expr.param site p).compile scope current w = (.ok t, w') ↔
      ∃ n a, w.arena.place site p = .ok (n, a) ∧ ⟨.placeholder n, p.kind⟩ = t ∧
        w' = { w with arena := a } := by
  simp only [compile, run_bind_ok, run_pure_ok, Compiling.place_ok]
  constructor
  · rintro ⟨n, _, ⟨a, ha, rfl⟩, ht, rfl⟩
    exact ⟨n, a, ha, ht, rfl⟩
  · rintro ⟨n, a, ha, ht, rfl⟩
    exact ⟨n, _, ⟨a, ha, rfl⟩, ht, rfl⟩

/-- A negation compiles if its operand compiles to a truth value. -/
lemma compile_not_ok {e : Expr} :
    (Expr.not site e).compile scope current w = (.ok t, w') ↔
      ∃ te, e.compile scope current w = (.ok te, w') ∧ te.kind.scalar = .boolean ∧
        ⟨.not te.condition, Kind.joined .boolean [te.kind]⟩ = t := by
  simp only [compile, run_bind_ok, run_lift_ok, Typed.not_ok]
  constructor
  · rintro ⟨te, _, he, ht, rfl⟩
    exact ⟨te, he, ht⟩
  · rintro ⟨te, he, ht⟩
    exact ⟨te, _, he, ht, rfl⟩

/-- An operator compiles if its operands do, from left to right, to kinds that it takes. -/
theorem compile_binary_ok {op : BinaryOp} {l r : Expr} :
    (Expr.binary site op l r).compile scope current w = (.ok t, w') ↔
      ∃ tl w₁, l.compile scope current w = (.ok tl, w₁) ∧
        ∃ tr, r.compile scope current w₁ = (.ok tr, w') ∧ op.Accepts tl.kind tr.kind ∧
          ⟨.binary op tl.condition tr.condition,
            Kind.joined (op.resultScalar tl.kind tr.kind) [tl.kind, tr.kind]⟩ = t := by
  simp only [compile, run_bind_ok, run_lift_ok, Typed.binary_ok]
  constructor
  · rintro ⟨tl, w₁, hl, tr, _, hr, ht, rfl⟩
    exact ⟨tl, w₁, hl, tr, hr, ht⟩
  · rintro ⟨tl, w₁, hl, tr, hr, ht⟩
    exact ⟨tl, w₁, hl, tr, _, hr, ht, rfl⟩

/-- A test for NULL compiles if its operand does to a kind that admits NULL. -/
lemma compile_nullTest_ok {test : NullTest} {e : Expr} :
    (Expr.nullTest site test e).compile scope current w = (.ok t, w') ↔
      ∃ te, e.compile scope current w = (.ok te, w') ∧ te.kind.isNullable = true ∧
        ⟨.isNull test.negated te.condition, .plain .boolean⟩ = t := by
  simp only [compile, run_bind_ok, run_lift_ok, Typed.nullTest_ok]
  constructor
  · rintro ⟨te, _, he, ht, rfl⟩
    exact ⟨te, he, ht⟩
  · rintro ⟨te, he, ht⟩
    exact ⟨te, _, he, ht, rfl⟩

/-- A pattern test compiles if both sides do, from left to right, to texts. -/
lemma compile_like_ok {negated : Bool} {e p : Expr} :
    (Expr.like site negated e p).compile scope current w = (.ok t, w') ↔
      ∃ te w₁, e.compile scope current w = (.ok te, w₁) ∧
        ∃ tp, p.compile scope current w₁ = (.ok tp, w') ∧
          (te.kind.scalar = .text ∧ tp.kind.scalar = .text) ∧
          ⟨.like negated te.condition tp.condition,
            Kind.joined .boolean [te.kind, tp.kind]⟩ = t := by
  simp only [compile, run_bind_ok, run_lift_ok, Typed.like_ok]
  constructor
  · rintro ⟨te, w₁, he, tp, _, hp, ht, rfl⟩
    exact ⟨te, w₁, he, tp, hp, ht⟩
  · rintro ⟨te, w₁, he, tp, hp, ht⟩
    exact ⟨te, w₁, he, tp, _, hp, ht, rfl⟩

/-- A range compiles if its operand and its bounds do, in this order, to kinds that are ordered. -/
lemma compile_between_ok {negated : Bool} {e low high : Expr} :
    (Expr.between site negated e low high).compile scope current w = (.ok t, w') ↔
      ∃ te w₁, e.compile scope current w = (.ok te, w₁) ∧
        ∃ tl w₂, low.compile scope current w₁ = (.ok tl, w₂) ∧
          ∃ th, high.compile scope current w₂ = (.ok th, w') ∧
            (BinaryOp.lessEqual.Accepts te.kind tl.kind ∧
              BinaryOp.lessEqual.Accepts te.kind th.kind) ∧
            ⟨.between negated te.condition tl.condition th.condition,
              Kind.joined .boolean [te.kind, tl.kind, th.kind]⟩ = t := by
  simp only [compile, run_bind_ok, run_lift_ok, Typed.between_ok]
  constructor
  · rintro ⟨te, w₁, he, tl, w₂, hl, th, _, hh, ht, rfl⟩
    exact ⟨te, w₁, he, tl, w₂, hl, th, hh, ht⟩
  · rintro ⟨te, w₁, he, tl, w₂, hl, th, hh, ht⟩
    exact ⟨te, w₁, he, tl, w₂, hl, th, _, hh, ht, rfl⟩

/-- A test for membership compiles if its list is not empty and its operand and its items do. -/
lemma compile_inList_ok {negated : Bool} {e : Expr} {items : List Expr} :
    (Expr.inList site negated e items).compile scope current w = (.ok t, w') ↔
      items ≠ [] ∧ ∃ te w₁, e.compile scope current w = (.ok te, w₁) ∧
        ∃ ts, compileItems scope current site (.inList negated) te items w₁ = (.ok ts, w') ∧
          Typed.inList negated te ts = t := by
  cases items with
  | nil => simp [compile, run_throw_ok]
  | cons item items =>
    simp only [compile, List.isEmpty_cons, Bool.false_eq_true, if_false, run_bind_ok,
      run_pure_ok, ne_eq, reduceCtorEq, not_false_eq_true, true_and]
    constructor
    · rintro ⟨te, w₁, he, ts, _, hs, ht, rfl⟩
      exact ⟨te, w₁, he, ts, hs, ht⟩
    · rintro ⟨te, w₁, he, ts, hs, ht⟩
      exact ⟨te, w₁, he, ts, _, hs, ht, rfl⟩

/-- A call compiles if its argument does to a kind that the function takes. -/
lemma compile_call_ok {f : ScalarFunction} {e : Expr} :
    (Expr.call site f e).compile scope current w = (.ok t, w') ↔
      ∃ te, e.compile scope current w = (.ok te, w') ∧ f.Accepts te.kind ∧
        ⟨.call f te.condition, Kind.joined (f.resultScalar te.kind) [te.kind]⟩ = t := by
  simp only [compile, run_bind_ok, run_lift_ok, Typed.call_ok]
  constructor
  · rintro ⟨te, _, he, ht, rfl⟩
    exact ⟨te, he, ht⟩
  · rintro ⟨te, he, ht⟩
    exact ⟨te, _, he, ht, rfl⟩

/-- A nested query compiles if its table is registered and its filter, which is no truth value by
itself, compiles over it. -/
lemma compile_existsIn_ok {u : TableType} {filter : Expr} :
    (Expr.existsIn site u filter).compile scope current w = (.ok t, w') ↔
      ∃ table r, Registry.register u w.registry = (.ok table, r) ∧
        filter.isTruthValue = false ∧
        ∃ tf, filter.compile (⟨u, table⟩ :: scope) table { w with registry := r } = (.ok tf, w') ∧
          tf.kind.scalar = .boolean ∧ Typed.existsIn table tf = t := by
  simp only [compile, run_bind_ok, run_pure_ok, Compiling.register_ok, Compiling.complete_ok]
  constructor
  · rintro ⟨table, _, ⟨r, hr, rfl⟩, tf, _, ⟨hg, hf, hk⟩, ht, rfl⟩
    exact ⟨table, r, hr, hg, tf, hf, hk, ht⟩
  · rintro ⟨table, r, hr, hg, tf, hf, hk, ht⟩
    exact ⟨table, _, ⟨r, hr, rfl⟩, tf, _, ⟨hg, hf, hk⟩, ht, rfl⟩

variable {construct : Construct} {operand : Typed} {ts : List Typed}

/-- An empty list of items compiles without a change. -/
lemma compileItems_nil_ok :
    compileItems scope current site construct operand [] w = (.ok ts, w') ↔ [] = ts ∧ w = w' := by
  rw [compileItems, run_pure_ok]

/-- A list of items compiles if the first does, comparable to the operand, and then the others. -/
lemma compileItems_cons_ok {e : Expr} {es : List Expr} :
    compileItems scope current site construct operand (e :: es) w = (.ok ts, w') ↔
      ∃ te w₁, e.compile scope current w = (.ok te, w₁) ∧ operand.kind.IsComparable te.kind ∧
        ∃ tes, compileItems scope current site construct operand es w₁ = (.ok tes, w') ∧
          te :: tes = ts := by
  simp only [compileItems, run_bind_ok, run_lift_ok, run_pure_ok]
  constructor
  · rintro ⟨te, w₁, he, _, _, ⟨hc, rfl⟩, tes, _, hs, ht, rfl⟩
    exact ⟨te, w₁, he, Typed.requireComparable_ok.1 hc, tes, hs, ht⟩
  · rintro ⟨te, w₁, he, hc, tes, hs, ht⟩
    exact ⟨te, w₁, he, (), _, ⟨Typed.requireComparable_ok.2 hc, rfl⟩, tes, _, hs, ht, rfl⟩

end Ok

end Expr

/-! ## Queries -/

section Query

variable {t : TableType} {table : Table} {filter : Expr} {r r' : Registry} {q : Query}

/-- A filter compiles over a registered table if it is no lone truth value and compiles to a
boolean. -/
lemma Query.compileOver_ok :
    Query.compileOver t table filter r = (.ok q, r') ↔
      filter.isTruthValue = false ∧
        ∃ tf w, filter.compile [⟨t, table⟩] table ⟨r, {}⟩ = (.ok tf, w) ∧
          tf.kind.scalar = .boolean ∧ ⟨t, table, tf.condition, w.arena, []⟩ = q ∧
          w.registry = r' := by
  have hcomplete : ∀ tf w, filter.compileFilter [⟨t, table⟩] table ⟨r, {}⟩ = (.ok tf, w) ↔ _ :=
    fun tf w => Compiling.complete_ok
  unfold Query.compileOver
  generalize filter.compileFilter [⟨t, table⟩] table ⟨r, {}⟩ = run at hcomplete ⊢
  rcases run with ⟨e | tf, w⟩
  · constructor
    · rintro ⟨⟩
    · rintro ⟨hguard, tf, w', h, hkind, -, -⟩
      cases (hcomplete tf w').mpr ⟨hguard, h, hkind⟩
  · constructor
    · rintro ⟨⟩
      obtain ⟨hguard, h, hkind⟩ := (hcomplete tf w).mp rfl
      exact ⟨hguard, tf, w, h, hkind, rfl, rfl⟩
    · rintro ⟨hguard, tf', w', h, hkind, rfl, rfl⟩
      cases (hcomplete tf' w').mpr ⟨hguard, h, hkind⟩
      rfl

/-- A query compiles if and only if its table is accepted and its filter compiles over it. -/
theorem Query.compile_ok :
    Query.compile t filter r = (.ok q, r') ↔
      ∃ table r₁, Registry.register t r = (.ok table, r₁) ∧ filter.isTruthValue = false ∧
        ∃ tf w, filter.compile [⟨t, table⟩] table ⟨r₁, {}⟩ = (.ok tf, w) ∧
          tf.kind.scalar = .boolean ∧ ⟨t, table, tf.condition, w.arena, []⟩ = q ∧
          w.registry.record (.compiled table.name q.conditionText q.arena.size) = r' := by
  unfold Query.compile
  simp only [run_bind_ok, run_pure_ok, compileOver_ok]
  constructor
  · rintro ⟨table, r₁, hr, q', _, ⟨hguard, tf, w, h, hkind, rfl, rfl⟩, _, _, hlog, rfl, rfl⟩
    cases hlog
    exact ⟨table, r₁, hr, hguard, tf, w, h, hkind, rfl, rfl⟩
  · rintro ⟨table, r₁, hr, hguard, tf, w, h, hkind, rfl, rfl⟩
    exact ⟨table, r₁, hr, _, _, ⟨hguard, tf, w, h, hkind, rfl, rfl⟩, (), _, rfl, rfl, rfl⟩

end Query

end TypedSql
