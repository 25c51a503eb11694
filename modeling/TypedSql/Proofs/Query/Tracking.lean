import Mathlib.Data.List.Forall2
import TypedSql.Proofs.Query.Compile
import TypedSql.Proofs.Schema.Reachable

/-!
# Two compilations side by side

Two expressions are alike if they differ in their parameters alone. Compiled from related
workspaces, they have the same condition and the same kind, or fail for the same cause, as long as
placing their parameters does; for the rest of the compilation does not look at a parameter.

## Main definitions

* `Expr.Alike` — two expressions that differ in their parameters alone, which are related.
* `Error.parameter?` — the name of a parameter that an error mentions.
* `Compiling.IsTracking` — the two steps that change a workspace keep side by side.

## Main results

* `Expr.compile_tracks` — the compilations of alike expressions keep side by side.
* `Query.compile_alike` — alike filters compile to queries that differ in their arenas alone.
-/

set_option autoImplicit false

namespace TypedSql

/-! ## Expressions that are alike -/

namespace Expr

mutual

/-- Whether two expressions differ in their parameters alone, and these are related in pairs. -/
inductive Alike (R : Parameter → Parameter → Prop) : Expr → Expr → Prop where
  | literal (s : Site) (v : Cell) : Alike R (.literal s v) (.literal s v)
  | column (s : Site) (name : String) : Alike R (.column s name) (.column s name)
  | within (s : Site) (u : TableType) {e e' : Expr} : Alike R e e' →
      Alike R (.within s u e) (.within s u e')
  | param (s : Site) {p p' : Parameter} : R p p' → Alike R (.param s p) (.param s p')
  | not (s : Site) {e e' : Expr} : Alike R e e' → Alike R (.not s e) (.not s e')
  | binary (s : Site) (op : BinaryOp) {l l' r r' : Expr} : Alike R l l' → Alike R r r' →
      Alike R (.binary s op l r) (.binary s op l' r')
  | nullTest (s : Site) (test : NullTest) {e e' : Expr} : Alike R e e' →
      Alike R (.nullTest s test e) (.nullTest s test e')
  | like (s : Site) (negated : Bool) {e e' p p' : Expr} : Alike R e e' → Alike R p p' →
      Alike R (.like s negated e p) (.like s negated e' p')
  | between (s : Site) (negated : Bool) {e e' low low' high high' : Expr} : Alike R e e' →
      Alike R low low' → Alike R high high' →
      Alike R (.between s negated e low high) (.between s negated e' low' high')
  | inList (s : Site) (negated : Bool) {e e' : Expr} {items items' : List Expr} : Alike R e e' →
      ItemsAlike R items items' → Alike R (.inList s negated e items) (.inList s negated e' items')
  | call (s : Site) (f : ScalarFunction) {e e' : Expr} : Alike R e e' →
      Alike R (.call s f e) (.call s f e')
  | existsIn (s : Site) (u : TableType) {e e' : Expr} : Alike R e e' →
      Alike R (.existsIn s u e) (.existsIn s u e')

/-- The same for two lists of expressions. -/
inductive ItemsAlike (R : Parameter → Parameter → Prop) : List Expr → List Expr → Prop where
  | nil : ItemsAlike R [] []
  | cons {e e' : Expr} {es es' : List Expr} : Alike R e e' → ItemsAlike R es es' →
      ItemsAlike R (e :: es) (e' :: es')

end

variable {R : Parameter → Parameter → Prop}

/-- Alike expressions are built at one site. -/
lemma Alike.site_eq {e d : Expr} (h : Alike R e d) : d.site = e.site := by
  cases h <;> rfl

/-- Of two alike expressions both or neither are truth values. -/
lemma Alike.isTruthValue_eq : ∀ {e d : Expr}, Alike R e d → d.isTruthValue = e.isTruthValue
  | .within _ _ _, _, h => by
    cases h with
    | within _ _ h => exact h.isTruthValue_eq
  | .literal _ _, _, .literal _ _ | .column _ _, _, .column _ _ => rfl
  | .param _ _, _, .param _ _ | .not _ _, _, .not _ _ | .binary _ _ _ _, _, .binary _ _ _ _
  | .nullTest _ _ _, _, .nullTest _ _ _ | .like _ _ _ _, _, .like _ _ _ _
  | .between _ _ _ _ _, _, .between _ _ _ _ _ | .inList _ _ _ _, _, .inList _ _ _ _
  | .call _ _ _, _, .call _ _ _ | .existsIn _ _ _, _, .existsIn _ _ _ => rfl

/-- Lists that are alike are both empty or neither. -/
lemma ItemsAlike.isEmpty_eq {es ds : List Expr} (h : ItemsAlike R es ds) :
    ds.isEmpty = es.isEmpty := by
  cases h <;> rfl

end Expr

/-! ## Errors that point to a site -/

/-- The name of a parameter that a construct is. -/
def Construct.parameter? : Construct → Option String
  | .parameter name => some name
  | _ => none

/-- The name of a parameter that an error mentions. -/
def Error.parameter? : Error → Option String
  | .mismatch _ construct _ _ => construct.parameter?
  | .refused _ (.mixedParameter name) => some name
  | _ => none

/-- Whether a computation fails with errors alone that point to a site and mention no parameter. -/
def Located {α : Type} (x : Except Error α) : Prop :=
  ∀ e, x = .error e → e.site?.isSome ∧ e.parameter? = none

namespace Located

variable {α β : Type}

/-- A success is located. -/
lemma ok (a : α) : Located (.ok a) := fun _ h => nomatch h

/-- An error at a site, and not about a parameter, is located. -/
lemma error {e : Error} (hsite : e.site?.isSome) (h : e.parameter? = none) :
    Located (.error e : Except Error α) := by
  rintro _ ⟨⟩
  exact ⟨hsite, h⟩

/-- A choice between two located outcomes is located. -/
lemma ite {c : Prop} [Decidable c] {x y : Except Error α} (hx : Located x) (hy : Located y) :
    Located (if c then x else y) := by
  split
  · exact hx
  · exact hy

/-- The errors of a sequence are those of its halves. -/
lemma bind {x : Except Error α} {f : α → Except Error β} (hx : Located x)
    (hf : ∀ a, Located (f a)) : Located (x >>= f) := by
  cases x with
  | error e => exact error (hx e rfl).1 (hx e rfl).2
  | ok a => exact hf a

/-- A function that leaves the errors without a parameter as they are does not change the result. -/
lemma mapError {x : Except Error α} (hx : Located x) {f : Error → Error}
    (hf : ∀ e : Error, e.parameter? = none → f e = e) : x = x.mapError f := by
  cases x with
  | error e => exact congrArg Except.error (hf e (hx e rfl).2).symm
  | ok a => rfl

end Located

namespace Typed

variable {site : Site} {construct : Construct} (hc : construct.parameter? = none)

section Checks

include hc

/-- An operand of a wrong scalar kind is refused at the site. -/
lemma located_requireScalar (s : Scalar) (t : Typed) :
    Located (t.requireScalar site construct s) := .ite (.ok ()) (.error rfl hc)

/-- An operand that is no number is refused at the site. -/
lemma located_requireNumeric (t : Typed) : Located (t.requireNumeric site construct) :=
  .ite (.ok ()) (.error rfl hc)

/-- An operand that is not orderable is refused at the site. -/
lemma located_requireOrderable (t : Typed) : Located (t.requireOrderable site construct) :=
  .ite (.ok ()) (.error rfl hc)

/-- Operands that are not comparable are refused at the site. -/
lemma located_requireComparable (l r : Typed) :
    Located (requireComparable site construct l r) := .ite (.ok ()) (.error rfl hc)

end Checks

/-- A literal is refused at the site. -/
lemma located_literal (v : Cell) : Located (literal site v) := by
  cases v with
  | null => exact .error rfl rfl
  | real x => exact .ite (.ok _) (.error rfl rfl)
  | _ => exact .ok _

/-- A column is refused at the site. -/
lemma located_column (table : Table) (name : String) : Located (column site table name) := by
  unfold column
  split
  · exact located_literal _
  · split
    · exact .ok _
    · exact .error rfl rfl

/-- A negation is refused at the site. -/
lemma located_not (e : Typed) : Located (e.not site) :=
  .bind (located_requireScalar rfl _ e) fun _ => .ok _

/-- The operands of an operator are refused at the site. -/
lemma located_checkOperands (op : BinaryOp) (l r : Typed) :
    Located (checkOperands site op l r) := by
  cases op with
  | equal | notEqual => exact located_requireComparable rfl l r
  | less | lessEqual | greater | greaterEqual =>
    exact .bind (located_requireOrderable rfl l) fun _ => located_requireComparable rfl l r
  | and | or | concat =>
    exact .bind (located_requireScalar rfl _ l) fun _ => located_requireScalar rfl _ r
  | add | sub | mul | div | rem =>
    exact .bind (located_requireNumeric rfl l) fun _ => located_requireNumeric rfl r

/-- An operator is refused at the site. -/
lemma located_binary (op : BinaryOp) (l r : Typed) : Located (binary site op l r) :=
  .bind (located_checkOperands op l r) fun _ => .ok _

/-- A test for NULL is refused at the site. -/
lemma located_nullTest (test : NullTest) (e : Typed) : Located (e.nullTest site test) :=
  .ite (.ok _) (.error rfl rfl)

/-- A pattern test is refused at the site. -/
lemma located_like (negated : Bool) (e p : Typed) : Located (e.like site negated p) :=
  .bind (located_requireScalar rfl _ e) fun _ => .bind (located_requireScalar rfl _ p) fun _ =>
    .ok _

/-- A range is refused at the site. -/
lemma located_between (negated : Bool) (e low high : Typed) :
    Located (e.between site negated low high) :=
  .bind (located_requireOrderable rfl e) fun _ =>
    .bind (located_requireComparable rfl e low) fun _ =>
    .bind (located_requireComparable rfl e high) fun _ => .ok _

/-- A call is refused at the site. -/
lemma located_call (f : ScalarFunction) (e : Typed) : Located (e.call site f) := by
  cases f with
  | lower | upper => exact .bind (located_requireScalar rfl _ e) fun _ => .ok _
  | length => exact .ite (.ok _) (.error rfl rfl)
  | abs => exact .bind (located_requireNumeric rfl e) fun _ => .ok _

end Typed

/-! ## Compilations -/

/-- Both steps that change a workspace keep side by side from related workspaces. Related parameters
have one kind, and an error that mentions no parameter stays as it is. -/
structure Compiling.IsTracking (S : Workspace → Workspace → Prop) (R : Parameter → Parameter → Prop)
    (f : Error → Error) : Prop where
  register : ∀ t, Tracks S f (register t) (register t)
  place : ∀ site p p', R p p' → Tracks S f (place site p) (place site p')
  kind_eq : ∀ p p', R p p' → p'.kind = p.kind
  fixes : ∀ e : Error, e.parameter? = none → f e = e

namespace Expr

variable {S : Workspace → Workspace → Prop} {R : Parameter → Parameter → Prop} {f : Error → Error}

/-- The compilations of two alike filters keep side by side if those of the expressions do. -/
lemma complete_tracks (h : Compiling.IsTracking S R f) {filter filter' : Expr}
    (halike : Alike R filter filter') {x x' : Compiling Typed} (hx : Tracks S f x x') :
    Tracks S f (Compiling.complete filter x) (Compiling.complete filter' x') := by
  have rest : Tracks S f (x >>= fun t => do
      t.requireScalar filter.site .filter .boolean
      return t) (x' >>= fun t => do
      t.requireScalar filter.site .filter .boolean
      return t) :=
    Tracks.bind hx fun t => Tracks.bind
      (Tracks.lift ((Typed.located_requireScalar rfl _ t).mapError h.fixes)) fun _ => Tracks.pure _
  unfold Compiling.complete
  rw [halike.isTruthValue_eq, halike.site_eq]
  split
  · exact Tracks.bind (Tracks.throw (h.fixes _ rfl).symm) fun _ => rest
  · exact rest

mutual

/-- The compilations of two alike expressions keep side by side.

Proof sketch. By induction on the expressions. What is computed from the typed operands is the same
on both sides, and its errors mention no parameter; the two steps that read the workspace keep side
by side by assumption. -/
theorem compile_tracks (h : Compiling.IsTracking S R f) :
    ∀ {e e' : Expr} (scope : Scope) (current : Table), Alike R e e' →
      Tracks S f (e.compile scope current) (e'.compile scope current)
  | _, _, _, current, .literal s v => by
    simp only [compile]
    exact Tracks.lift ((Typed.located_literal v).mapError h.fixes)
  | _, _, _, current, .column s name => by
    simp only [compile]
    exact Tracks.lift ((Typed.located_column current name).mapError h.fixes)
  | _, _, scope, _, .within s u he => by
    simp only [compile]
    cases scope.find? u with
    | none => exact Tracks.throw (h.fixes _ rfl).symm
    | some table => exact compile_tracks h scope table he
  | _, _, _, _, .param s hp => by
    simp only [compile, h.kind_eq _ _ hp]
    exact Tracks.bind (h.place s _ _ hp) fun _ => Tracks.pure _
  | _, _, scope, current, .not s he => by
    simp only [compile]
    exact Tracks.bind (compile_tracks h scope current he) fun t =>
      Tracks.lift ((Typed.located_not t).mapError h.fixes)
  | _, _, scope, current, .binary s op hl hr => by
    simp only [compile]
    exact Tracks.bind (compile_tracks h scope current hl) fun l =>
      Tracks.bind (compile_tracks h scope current hr) fun r =>
      Tracks.lift ((Typed.located_binary op l r).mapError h.fixes)
  | _, _, scope, current, .nullTest s test he => by
    simp only [compile]
    exact Tracks.bind (compile_tracks h scope current he) fun t =>
      Tracks.lift ((Typed.located_nullTest test t).mapError h.fixes)
  | _, _, scope, current, .like s negated he hp => by
    simp only [compile]
    exact Tracks.bind (compile_tracks h scope current he) fun e =>
      Tracks.bind (compile_tracks h scope current hp) fun p =>
      Tracks.lift ((Typed.located_like negated e p).mapError h.fixes)
  | _, _, scope, current, .between s negated he hlow hhigh => by
    simp only [compile]
    exact Tracks.bind (compile_tracks h scope current he) fun e =>
      Tracks.bind (compile_tracks h scope current hlow) fun low =>
      Tracks.bind (compile_tracks h scope current hhigh) fun high =>
      Tracks.lift ((Typed.located_between negated e low high).mapError h.fixes)
  | _, _, scope, current, .inList s negated he hitems => by
    have rest := Tracks.bind (compile_tracks h scope current he) fun t =>
      Tracks.bind (compileItems_tracks h scope current s (.inList negated) rfl t hitems) fun ts =>
      Tracks.pure (S := S) (f := f) (t.inList negated ts)
    simp only [compile]
    rw [hitems.isEmpty_eq]
    split
    · exact Tracks.bind (Tracks.throw (h.fixes _ rfl).symm) fun _ => rest
    · exact rest
  | _, _, scope, current, .call s f he => by
    simp only [compile]
    exact Tracks.bind (compile_tracks h scope current he) fun t =>
      Tracks.lift ((Typed.located_call f t).mapError h.fixes)
  | _, _, scope, current, .existsIn s u he => by
    simp only [compile]
    exact Tracks.bind (h.register u) fun table =>
      Tracks.bind (complete_tracks h he (compile_tracks h (⟨u, table⟩ :: scope) table he)) fun t =>
      Tracks.pure _

/-- The items of lists that are alike compile side by side. -/
theorem compileItems_tracks (h : Compiling.IsTracking S R f) {es es' : List Expr} (scope : Scope)
    (current : Table) (site : Site) (construct : Construct) (hc : construct.parameter? = none)
    (operand : Typed) : ItemsAlike R es es' →
    Tracks S f (compileItems scope current site construct operand es)
      (compileItems scope current site construct operand es')
  | .nil => by
    simp only [compileItems]
    exact Tracks.pure []
  | .cons he hes => by
    simp only [compileItems]
    exact Tracks.bind (compile_tracks h scope current he) fun t => Tracks.bind
      (Tracks.lift ((Typed.located_requireComparable hc operand t).mapError h.fixes)) fun _ =>
      Tracks.bind (compileItems_tracks h scope current site construct hc operand hes) fun _ =>
      Tracks.pure _

end

/-- The compilations of two alike filters keep side by side. -/
lemma compileFilter_tracks (h : Compiling.IsTracking S R f) {filter filter' : Expr}
    (scope : Scope) (table : Table) (halike : Alike R filter filter') :
    Tracks S f (filter.compileFilter scope table) (filter'.compileFilter scope table) :=
  complete_tracks h halike (compile_tracks h scope table halike)

end Expr

/-! ## Queries -/

/-- Whether the registries are sound, and the slots of the arenas are related in pairs. -/
structure Workspace.Related (R : Parameter → Parameter → Prop) (w w' : Workspace) : Prop where
  left : w.registry.IsSound
  right : w'.registry.IsSound
  slots : List.Forall₂ R w.arena.slots w'.arena.slots

/-- Whether two parameters have been placed alike: at one position of related arenas, or with one
error up to a function. -/
def Arena.PlacedAlike (R : Parameter → Parameter → Prop) (f : Error → Error)
    (x y : Except Error (Nat × Arena)) : Prop :=
  (∃ n a a', x = .ok (n, a) ∧ y = .ok (n, a') ∧ List.Forall₂ R a.slots a'.slots) ∨
    ∃ e, x = .error e ∧ y = .error (f e)

section Queries

variable {R : Parameter → Parameter → Prop} {f : Error → Error}

/-- Compilations from sound registries keep side by side if placing parameters does. -/
lemma Compiling.isTracking_related
    (hplace : ∀ (a a' : Arena) (site : Site) (p p' : Parameter),
      List.Forall₂ R a.slots a'.slots → R p p' →
      Arena.PlacedAlike R f (a.place site p) (a'.place site p'))
    (hkind : ∀ p p', R p p' → p'.kind = p.kind)
    (hfixes : ∀ e : Error, e.parameter? = none → f e = e) :
    IsTracking (Workspace.Related R) R f where
  register t w w' hw := by
    obtain ⟨r, hrun, hr⟩ := Registry.register_eq hw.left t
    obtain ⟨r', hrun', hr'⟩ := Registry.register_eq hw.right t
    simp only [Compiling.register, hrun, hrun']
    refine ⟨?_, hr, hr', hw.slots⟩
    cases t.table with
    | error fault => exact congrArg Except.error (hfixes _ rfl).symm
    | ok table => rfl
  place site p p' hp w w' hw := by
    rcases hplace w.arena w'.arena site p p' hw.slots hp with
      ⟨n, a, a', hx, hy, hslots⟩ | ⟨e, hx, hy⟩
    · simp only [Compiling.place, hx, hy]
      exact ⟨rfl, hw.left, hw.right, hslots⟩
    · simp only [Compiling.place, hx, hy]
      exact ⟨rfl, hw⟩
  kind_eq := hkind
  fixes := hfixes

end Queries

namespace Query

variable {t : TableType} {table : Table} {filter : Expr} {r : Registry} {w : Workspace}

/-- A query over a registered table fails as its filter does. -/
lemma compileOver_of_error {e : Error}
    (h : filter.compileFilter [⟨t, table⟩] table ⟨r, {}⟩ = (.error e, w)) :
    compileOver t table filter r = (.error e, w.registry) := by
  simp only [compileOver, h]
  rfl

/-- A query over a registered table takes its condition from the compiled filter, and its arena from
the workspace. -/
lemma compileOver_of_ok {tf : Typed}
    (h : filter.compileFilter [⟨t, table⟩] table ⟨r, {}⟩ = (.ok tf, w)) :
    compileOver t table filter r = (.ok ⟨t, table, tf.condition, w.arena, []⟩, w.registry) := by
  simp only [compileOver, h]
  rfl

end Query

/-- Two alike filters compile from any two sound registries to queries that differ in their arenas
alone, the slots of which are related in pairs, or fail for one cause. -/
theorem Query.compile_alike {R : Parameter → Parameter → Prop} {f : Error → Error}
    (h : Compiling.IsTracking (Workspace.Related R) R f) {filter filter' : Expr}
    (halike : Expr.Alike R filter filter') {r r' : Registry} (hr : r.IsSound) (hr' : r'.IsSound)
    (t : TableType) :
    (∃ q q' s s', Query.compile t filter r = (.ok q, s) ∧
      Query.compile t filter' r' = (.ok q', s') ∧ q' = { q with arena := q'.arena } ∧
      List.Forall₂ R q.arena.slots q'.arena.slots) ∨
    ∃ e s s', Query.compile t filter r = (.error e, s) ∧
      Query.compile t filter' r' = (.error (f e), s') := by
  obtain ⟨r₁, hrun, hr₁⟩ := Registry.register_eq hr t
  obtain ⟨r₁', hrun', hr₁'⟩ := Registry.register_eq hr' t
  unfold Query.compile
  cases htable : t.table with
  | error fault =>
    rw [htable] at hrun hrun'
    refine .inr ⟨_, r₁, r₁', run_bind_of_error hrun, ?_⟩
    rw [h.fixes _ rfl]
    exact run_bind_of_error hrun'
  | ok table =>
    rw [htable] at hrun hrun'
    rw [run_bind_of_ok hrun, run_bind_of_ok hrun']
    obtain ⟨hresult, hw⟩ := Expr.compileFilter_tracks h [⟨t, table⟩] table halike ⟨r₁, {}⟩ ⟨r₁', {}⟩
      ⟨hr₁, hr₁', .nil⟩
    rcases hx : filter.compileFilter [⟨t, table⟩] table ⟨r₁, {}⟩ with ⟨e | tf, w⟩ <;>
      rcases hx' : filter'.compileFilter [⟨t, table⟩] table ⟨r₁', {}⟩ with ⟨result, w'⟩ <;>
      rw [hx, hx'] at hresult hw <;> cases hresult
    · exact .inr ⟨e, _, _, run_bind_of_error (compileOver_of_error hx),
        run_bind_of_error (compileOver_of_error hx')⟩
    · rw [run_bind_of_ok (compileOver_of_ok hx), run_bind_of_ok (compileOver_of_ok hx')]
      exact .inl ⟨_, _, _, _, rfl, rfl, rfl, hw.slots⟩

end TypedSql
