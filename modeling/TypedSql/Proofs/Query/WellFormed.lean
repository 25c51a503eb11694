import Mathlib.Data.List.Pairwise
import Mathlib.Tactic.MkIffOfInductiveProp
import Mathlib.Tactic.Tauto
import TypedSql.Proofs.Query.Numbering

/-!
# Well-formed filters

Which filters compile is said here without any order of evaluation: the tables are valid, names are
in scope, kinds fit from the leaves up, parameters of one name agree, and nothing is written that
has no meaning. The compiler makes one pass over a filter, registers tables and places parameters on
the way, and stops at the first fault; it accepts exactly the well-formed filters.

## Main definitions

* `Expr.InScope` — qualifications lie inside a frame of their table and columns exist.
* `Expr.HasKind` — the kind of an expression under the signatures of the operators.
* `Expr.IsMeaningful` — no NULL, no infinite real, no empty list, no constant filter.
* `Expr.IsWellFormed` — all the conditions on a complete filter.

## Main results

* `Expr.fits_of_compile` — what compiles fits.
* `Expr.compile_of_fits` — what fits compiles.
* `Query.compile_ok_iff_isWellFormed` — exactly the well-formed filters compile.
-/

set_option autoImplicit false

namespace TypedSql

namespace Expr

/-! ## The conditions -/

mutual

/-- Whether every qualification lies inside a frame of its table, and every column other than the
truth values exists in its current table. A nested query opens a frame of its table, which is the
current table inside. -/
def InScope (frames : List TableType) (current : TableType) : Expr → Prop
  | .literal _ _ | .param _ _ => True
  | .column _ name => truthName? name = none → ∃ c ∈ current.columns, c.name = name
  | .within _ u e => u ∈ frames ∧ e.InScope frames u
  | .not _ e | .nullTest _ _ e | .call _ _ e => e.InScope frames current
  | .binary _ _ l r | .like _ _ l r => l.InScope frames current ∧ r.InScope frames current
  | .between _ _ e low high =>
    e.InScope frames current ∧ low.InScope frames current ∧ high.InScope frames current
  | .inList _ _ e items => e.InScope frames current ∧ ItemsInScope frames current items
  | .existsIn _ u e => e.InScope (u :: frames) u

/-- Whether every item of a list is in scope. -/
def ItemsInScope (frames : List TableType) (current : TableType) : List Expr → Prop
  | [] => True
  | e :: es => e.InScope frames current ∧ ItemsInScope frames current es

end

mutual

/-- The kind of an expression over a table, from the leaves up. -/
def HasKind (current : TableType) : Expr → Kind → Prop
  | .literal _ v, k => ∃ s, v.scalar? = some s ∧ k = .plain s
  | .column _ name, k =>
    (∃ b, truthName? name = some b ∧ k = .plain .boolean) ∨
      truthName? name = none ∧ ∃ c ∈ current.columns, c.name = name ∧ k = c.kind
  | .within _ u e, k => e.HasKind u k
  | .param _ p, k => k = p.kind
  | .not _ e, k => ∃ l, e.HasKind current l ∧ l.scalar = .boolean ∧ k = .joined .boolean [l]
  | .binary _ op e₁ e₂, k =>
    ∃ l₁ l₂, e₁.HasKind current l₁ ∧ e₂.HasKind current l₂ ∧ op.Accepts l₁ l₂ ∧
      k = .joined (op.resultScalar l₁ l₂) [l₁, l₂]
  | .nullTest _ _ e, k =>
    ∃ l, e.HasKind current l ∧ l.isNullable = true ∧ k = .plain .boolean
  | .like _ _ e p, k =>
    ∃ l₁ l₂, e.HasKind current l₁ ∧ p.HasKind current l₂ ∧ l₁.scalar = .text ∧
      l₂.scalar = .text ∧ k = .joined .boolean [l₁, l₂]
  | .between _ _ e low high, k =>
    ∃ l l₁ l₂, e.HasKind current l ∧ low.HasKind current l₁ ∧ high.HasKind current l₂ ∧
      BinaryOp.lessEqual.Accepts l l₁ ∧ BinaryOp.lessEqual.Accepts l l₂ ∧
      k = .joined .boolean [l, l₁, l₂]
  | .inList _ _ e items, k =>
    ∃ l ls, e.HasKind current l ∧ ItemsHaveKinds current items ls ∧
      (∀ m ∈ ls, l.IsComparable m) ∧ k = .joined .boolean (l :: ls)
  | .call _ f e, k =>
    ∃ l, e.HasKind current l ∧ f.Accepts l ∧ k = .joined (f.resultScalar l) [l]
  | .existsIn _ u e, k => (∃ l, e.HasKind u l ∧ l.scalar = .boolean) ∧ k = .plain .boolean

/-- The kinds of the items of a list. -/
def ItemsHaveKinds (current : TableType) : List Expr → List Kind → Prop
  | [], ls => ls = []
  | e :: es, ls => ∃ m ms, e.HasKind current m ∧ ItemsHaveKinds current es ms ∧ ls = m :: ms

end

mutual

/-- Whether no literal is NULL or a real without a spelling, no list is empty, and no nested filter
is a lone truth value. -/
def IsMeaningful : Expr → Prop
  | .literal _ v => v ≠ .null ∧ ∀ x, v = .real x → x.isFinite = true
  | .column _ _ | .param _ _ => True
  | .within _ _ e | .not _ e | .nullTest _ _ e | .call _ _ e => e.IsMeaningful
  | .binary _ _ l r | .like _ _ l r => l.IsMeaningful ∧ r.IsMeaningful
  | .between _ _ e low high => e.IsMeaningful ∧ low.IsMeaningful ∧ high.IsMeaningful
  | .inList _ _ e items => items ≠ [] ∧ e.IsMeaningful ∧ AreMeaningful items
  | .existsIn _ _ e => e.isTruthValue = false ∧ e.IsMeaningful

/-- Whether every item of a list is meaningful. -/
def AreMeaningful : List Expr → Prop
  | [] => True
  | e :: es => e.IsMeaningful ∧ AreMeaningful es

end

/-- The conditions on a complete filter over a table type. -/
structure IsWellFormed (t : TableType) (filter : Expr) : Prop where
  /-- The declarations of the table and of the tables of nested queries have no fault. -/
  valid : ∀ u ∈ t :: filter.tables, u.IsValid
  /-- Qualifications lie inside a frame of their table, and columns exist. -/
  inScope : filter.InScope [t] t
  /-- The kinds fit, and that of the filter is boolean up to NULL. -/
  hasKind : ∃ k, filter.HasKind t k ∧ k.scalar = .boolean
  /-- Parameters of one name have one kind, and all or none of them are captured. -/
  agree : ∀ p ∈ filter.markers, ∀ q ∈ filter.markers, p.Agrees q
  /-- The filter is no lone truth value, and nothing in it lacks a meaning. -/
  isMeaningful : filter.isTruthValue = false ∧ filter.IsMeaningful

/-- What the compiler asks of an expression apart from its kind: of the frames around it, of the
current table, and of the parameters placed before it. -/
@[mk_iff]
structure Fits (frames : List TableType) (current : TableType) (ps : List Parameter) (e : Expr) :
    Prop where
  valid : ∀ u ∈ e.tables, u.IsValid
  inScope : e.InScope frames current
  agree : (ps ++ e.markers).Pairwise Parameter.Agrees
  isMeaningful : e.IsMeaningful

/-- What the compiler asks of the items of a list apart from their kinds. -/
@[mk_iff]
structure ItemsFit (frames : List TableType) (current : TableType) (ps : List Parameter)
    (items : List Expr) : Prop where
  valid : ∀ u ∈ itemTables items, u.IsValid
  inScope : ItemsInScope frames current items
  agree : (ps ++ itemMarkers items).Pairwise Parameter.Agrees
  areMeaningful : AreMeaningful items

/-! ## Fitting, part by part -/

section Fits

variable {frames : List TableType} {current : TableType} {ps : List Parameter} {site : Site}

/-- Agreement is said of the parameters of the first part, and then of those of both. -/
lemma agrees_append {qs rs : List Parameter} :
    (ps ++ (qs ++ rs)).Pairwise Parameter.Agrees ↔
      (ps ++ qs).Pairwise Parameter.Agrees ∧ (ps ++ qs ++ rs).Pairwise Parameter.Agrees := by
  rw [← List.append_assoc]
  exact ⟨fun h => ⟨(List.pairwise_append.mp h).1, h⟩, fun h => h.2⟩

/-- An operator fits if its operands do, the right one behind the parameters of the left. -/
lemma fits_binary {op : BinaryOp} {l r : Expr} :
    (binary site op l r).Fits frames current ps ↔
      l.Fits frames current ps ∧ r.Fits frames current (ps ++ l.markers) := by
  simp only [fits_iff, tables, InScope, markers, IsMeaningful, List.forall_mem_append,
    agrees_append]
  tauto

/-- A pattern test fits if both sides do, the pattern behind the parameters of the operand. -/
lemma fits_like {negated : Bool} {e p : Expr} :
    (like site negated e p).Fits frames current ps ↔
      e.Fits frames current ps ∧ p.Fits frames current (ps ++ e.markers) := by
  simp only [fits_iff, tables, InScope, markers, IsMeaningful, List.forall_mem_append,
    agrees_append]
  tauto

/-- A range fits if its operand and its bounds do, each behind the parameters of those before. -/
lemma fits_between {negated : Bool} {e low high : Expr} :
    (between site negated e low high).Fits frames current ps ↔
      e.Fits frames current ps ∧ low.Fits frames current (ps ++ e.markers) ∧
        high.Fits frames current (ps ++ e.markers ++ low.markers) := by
  have hagree : (ps ++ (e.markers ++ low.markers ++ high.markers)).Pairwise Parameter.Agrees ↔
      (ps ++ e.markers).Pairwise Parameter.Agrees ∧
        (ps ++ e.markers ++ low.markers).Pairwise Parameter.Agrees ∧
        (ps ++ e.markers ++ low.markers ++ high.markers).Pairwise Parameter.Agrees := by
    rw [agrees_append, agrees_append, and_assoc, ← List.append_assoc ps]
  simp only [fits_iff, tables, InScope, markers, IsMeaningful, List.forall_mem_append, hagree]
  tauto

/-- A test for membership fits if its list is not empty and its operand and its items do. -/
lemma fits_inList {negated : Bool} {e : Expr} {items : List Expr} :
    (inList site negated e items).Fits frames current ps ↔
      items ≠ [] ∧ e.Fits frames current ps ∧
        ItemsFit frames current (ps ++ e.markers) items := by
  simp only [fits_iff, itemsFit_iff, tables, InScope, markers, IsMeaningful,
    List.forall_mem_append, agrees_append]
  tauto

/-- Items fit if the first does, and the others do behind its parameters. -/
lemma itemsFit_cons {e : Expr} {es : List Expr} :
    ItemsFit frames current ps (e :: es) ↔
      e.Fits frames current ps ∧ ItemsFit frames current (ps ++ e.markers) es := by
  simp only [fits_iff, itemsFit_iff, itemTables, ItemsInScope, itemMarkers, AreMeaningful,
    List.forall_mem_append, agrees_append]
  tauto

/-- A nested query fits if its table is valid and its filter, which is no truth value by itself,
fits there. -/
lemma fits_existsIn {u : TableType} {e : Expr} :
    (existsIn site u e).Fits frames current ps ↔
      u.IsValid ∧ e.isTruthValue = false ∧ e.Fits (u :: frames) u ps := by
  simp only [fits_iff, tables, InScope, markers, IsMeaningful, List.forall_mem_cons]
  tauto

end Fits

/-! ## The pass of the compiler -/

/-- The state of the compiler at an expression: the frames around it and the current table are those
of valid declarations, and the arena numbers the parameters placed so far. -/
structure Reached (scope : Scope) (current : TableType) (table : Table) (ps : List Parameter)
    (w : Workspace) : Prop where
  scope : scope.IsSound
  current : current.table = .ok table
  registry : w.registry.IsSound
  arena : ∃ ns, w.arena.IsNumbering ps ns

namespace Reached

variable {scope : Scope} {current : TableType} {table : Table} {ps : List Parameter}
  {w w' : Workspace}

/-- The state at the start of a filter. -/
lemma start {r : Registry} (ht : current.table = .ok table) (hr : r.IsSound) :
    Reached [⟨current, table⟩] current table [] ⟨r, {}⟩ :=
  ⟨.singleton ht, ht, hr, [], .empty⟩

/-- The state after an expression that compiles. -/
lemma after (h : Reached scope current table ps w) {scope' : Scope} {table' : Table} {e : Expr}
    {t : Typed} (he : e.compile scope' table' w = (.ok t, w')) :
    Reached scope current table (ps ++ e.markers) w' := by
  obtain ⟨ns, hns⟩ := h.arena
  exact ⟨h.scope, h.current, compile_isSound he h.registry, _, compile_numbering e hns he⟩

/-- The state inside a nested query. -/
lemma nested (h : Reached scope current table ps w) {u : TableType} {inner : Table}
    {r : Registry} (hu : Registry.register u w.registry = (.ok inner, r)) :
    Reached (⟨u, inner⟩ :: scope) u inner ps { w with registry := r } := by
  obtain ⟨hinner, hr⟩ := Registry.register_ok h.registry hu
  exact ⟨h.scope.cons hinner, hinner, hr, h.arena⟩

/-- The state inside a qualification. -/
lemma within (h : Reached scope current table ps w) {u : TableType} {other : Table}
    (hu : scope.find? u = some other) : Reached scope u other ps w :=
  ⟨h.scope, h.scope.table_of_find? hu, h.registry, h.arena⟩

/-- The columns of the current table are those of its declaration. -/
lemma column?_iff (h : Reached scope current table ps w) {name : String} {c : Column} :
    table.column? name = some c ↔ c ∈ current.columns ∧ c.name = name := by
  rw [Table.column?_eq_some_iff, (TableType.table_ok_iff.mp h.current).2]

end Reached

mutual

/-- What compiles fits, and has the kind that the compiler gives it. -/
theorem fits_of_compile : ∀ (e : Expr) {scope : Scope} {current : TableType} {table : Table}
    {ps : List Parameter} {w w' : Workspace} {t : Typed}, Reached scope current table ps w →
    ps.Pairwise Parameter.Agrees → e.compile scope table w = (.ok t, w') →
    e.Fits (scope.map (·.type)) current ps ∧ e.HasKind current t.kind
  | .literal _ v, scope, current, table, ps, w, w', t, hw, hps, h => by
    obtain ⟨⟨⟨s, hs, rfl⟩, hreal⟩, -⟩ := compile_literal_ok.mp h
    refine ⟨⟨by simp [tables], trivial, by simpa [markers] using hps, ?_, hreal⟩, s, hs, rfl⟩
    rintro rfl
    cases hs
  | .column _ name, scope, current, table, ps, w, w', t, hw, hps, h => by
    obtain ⟨hcolumn, -⟩ := compile_column_ok.mp h
    refine ⟨⟨by simp [tables], ?_, by simpa [markers] using hps, trivial⟩, ?_⟩
    · intro htruth
      obtain ⟨b, hb, -⟩ | ⟨-, c, hc, -⟩ := hcolumn
      · cases htruth.symm.trans hb
      · obtain ⟨hmem, hname⟩ := hw.column?_iff.mp hc
        exact ⟨c, hmem, hname⟩
    · obtain ⟨b, hb, rfl⟩ | ⟨htruth, c, hc, rfl⟩ := hcolumn
      · exact .inl ⟨b, hb, rfl⟩
      · obtain ⟨hmem, hname⟩ := hw.column?_iff.mp hc
        exact .inr ⟨htruth, c, hmem, hname, rfl⟩
  | .within _ u e, scope, current, table, ps, w, w', t, hw, hps, h => by
    obtain ⟨other, hu, h⟩ := compile_within_ok.mp h
    obtain ⟨he, hk⟩ := fits_of_compile e (hw.within hu) hps h
    exact ⟨⟨he.valid, ⟨Scope.exists_find?_iff.mp ⟨other, hu⟩, he.inScope⟩, he.agree,
      he.isMeaningful⟩, hk⟩
  | .param _ p, scope, current, table, ps, w, w', t, hw, hps, h => by
    -- the arena has a place for it exactly if it agrees with all parameters before it
    obtain ⟨n, a, hplace, rfl, -⟩ := compile_param_ok.mp h
    obtain ⟨ns, hns⟩ := hw.arena
    have hagrees := (hns.exists_place_iff _).mp ⟨_, hplace⟩
    refine ⟨⟨by simp [tables], trivial, ?_, trivial⟩, rfl⟩
    rw [markers, List.pairwise_append]
    refine ⟨hps, List.pairwise_singleton _ _, fun q hq other hother => ?_⟩
    exact List.mem_singleton.mp hother ▸ hagrees q hq
  | .not _ e, scope, current, table, ps, w, w', t, hw, hps, h => by
    obtain ⟨te, he, hk, rfl⟩ := compile_not_ok.mp h
    obtain ⟨he, hkind⟩ := fits_of_compile e hw hps he
    exact ⟨⟨he.valid, he.inScope, he.agree, he.isMeaningful⟩, _, hkind, hk, rfl⟩
  | .nullTest _ _ e, scope, current, table, ps, w, w', t, hw, hps, h => by
    obtain ⟨te, he, hk, rfl⟩ := compile_nullTest_ok.mp h
    obtain ⟨he, hkind⟩ := fits_of_compile e hw hps he
    exact ⟨⟨he.valid, he.inScope, he.agree, he.isMeaningful⟩, _, hkind, hk, rfl⟩
  | .call _ f e, scope, current, table, ps, w, w', t, hw, hps, h => by
    obtain ⟨te, he, hk, rfl⟩ := compile_call_ok.mp h
    obtain ⟨he, hkind⟩ := fits_of_compile e hw hps he
    exact ⟨⟨he.valid, he.inScope, he.agree, he.isMeaningful⟩, _, hkind, hk, rfl⟩
  | .binary _ op l r, scope, current, table, ps, w, w', t, hw, hps, h => by
    obtain ⟨tl, w₁, hl, tr, hr, hk, rfl⟩ := compile_binary_ok.mp h
    obtain ⟨fl, kl⟩ := fits_of_compile l hw hps hl
    obtain ⟨fr, kr⟩ := fits_of_compile r (hw.after hl) fl.agree hr
    exact ⟨fits_binary.mpr ⟨fl, fr⟩, _, _, kl, kr, hk, rfl⟩
  | .like _ _ e p, scope, current, table, ps, w, w', t, hw, hps, h => by
    obtain ⟨te, w₁, he, tp, hp, hk, rfl⟩ := compile_like_ok.mp h
    obtain ⟨fe, ke⟩ := fits_of_compile e hw hps he
    obtain ⟨fp, kp⟩ := fits_of_compile p (hw.after he) fe.agree hp
    exact ⟨fits_like.mpr ⟨fe, fp⟩, _, _, ke, kp, hk.1, hk.2, rfl⟩
  | .between _ _ e low high, scope, current, table, ps, w, w', t, hw, hps, h => by
    obtain ⟨te, w₁, he, tl, w₂, hl, th, hh, hk, rfl⟩ := compile_between_ok.mp h
    obtain ⟨fe, ke⟩ := fits_of_compile e hw hps he
    obtain ⟨fl, kl⟩ := fits_of_compile low (hw.after he) fe.agree hl
    obtain ⟨fh, kh⟩ := fits_of_compile high ((hw.after he).after hl) fl.agree hh
    exact ⟨fits_between.mpr ⟨fe, fl, fh⟩, _, _, _, ke, kl, kh, hk.1, hk.2, rfl⟩
  | .inList _ _ e items, scope, current, table, ps, w, w', t, hw, hps, h => by
    obtain ⟨hne, te, w₁, he, ts, hs, rfl⟩ := compile_inList_ok.mp h
    obtain ⟨fe, ke⟩ := fits_of_compile e hw hps he
    obtain ⟨fs, ks, hc⟩ := itemsFit_of_compile items (hw.after he) fe.agree hs
    refine ⟨fits_inList.mpr ⟨hne, fe, fs⟩, _, _, ke, ks, hc, ?_⟩
    simp only [Typed.inList, Typed.resultKind_eq, List.map_cons]
  | .existsIn _ u e, scope, current, table, ps, w, w', t, hw, hps, h => by
    obtain ⟨inner, r, hu, hguard, tf, hf, hk, rfl⟩ := compile_existsIn_ok.mp h
    have hinner := hw.nested hu
    obtain ⟨fe, ke⟩ := fits_of_compile e hinner hps hf
    exact ⟨fits_existsIn.mpr ⟨TableType.isValid_iff.mpr ⟨inner, hinner.current⟩, hguard, fe⟩,
      ⟨_, ke, hk⟩, rfl⟩

/-- The items of a list that compile fit, and have the kinds that they are compiled to. -/
theorem itemsFit_of_compile : ∀ (items : List Expr) {scope : Scope} {current : TableType}
    {table : Table} {site : Site} {construct : Construct} {operand : Typed} {ps : List Parameter}
    {w w' : Workspace} {ts : List Typed}, Reached scope current table ps w →
    ps.Pairwise Parameter.Agrees →
    compileItems scope table site construct operand items w = (.ok ts, w') →
    ItemsFit (scope.map (·.type)) current ps items ∧
      ItemsHaveKinds current items (ts.map (·.kind)) ∧
      ∀ k ∈ ts.map (·.kind), operand.kind.IsComparable k
  | [], scope, current, table, site, construct, operand, ps, w, w', ts, hw, hps, h => by
    obtain ⟨rfl, -⟩ := compileItems_nil_ok.mp h
    exact ⟨⟨by simp [itemTables], trivial, by simpa [itemMarkers] using hps, trivial⟩, rfl,
      by simp⟩
  | e :: es, scope, current, table, site, construct, operand, ps, w, w', ts, hw, hps, h => by
    obtain ⟨te, w₁, he, hc, tes, hs, rfl⟩ := compileItems_cons_ok.mp h
    obtain ⟨fe, ke⟩ := fits_of_compile e hw hps he
    obtain ⟨fs, ks, hcs⟩ := itemsFit_of_compile es (hw.after he) fe.agree hs
    exact ⟨itemsFit_cons.mpr ⟨fe, fs⟩, ⟨_, _, ke, ks, rfl⟩, List.forall_mem_cons.mpr ⟨hc, hcs⟩⟩

end

mutual

/-- What fits and has a kind compiles, to a condition of that kind. -/
theorem compile_of_fits : ∀ (e : Expr) {scope : Scope} {current : TableType} {table : Table}
    {ps : List Parameter} {w : Workspace} {k : Kind}, Reached scope current table ps w →
    e.Fits (scope.map (·.type)) current ps → e.HasKind current k →
    ∃ t w', e.compile scope table w = (.ok t, w') ∧ t.kind = k
  | .literal _ v, scope, current, table, ps, w, k, hw, he, hk => by
    obtain ⟨s, hs, rfl⟩ := hk
    exact ⟨_, w, compile_literal_ok.mpr ⟨⟨⟨s, hs, rfl⟩, he.isMeaningful.2⟩, rfl⟩, rfl⟩
  | .column _ name, scope, current, table, ps, w, k, hw, he, hk => by
    obtain ⟨b, hb, rfl⟩ | ⟨htruth, c, hc, hname, rfl⟩ := hk
    · exact ⟨_, w, compile_column_ok.mpr ⟨.inl ⟨b, hb, rfl⟩, rfl⟩, rfl⟩
    · have hfound := hw.column?_iff.mpr ⟨hc, hname⟩
      exact ⟨_, w, compile_column_ok.mpr ⟨.inr ⟨htruth, c, hfound, rfl⟩, rfl⟩, rfl⟩
  | .within _ u e, scope, current, table, ps, w, k, hw, he, hk => by
    obtain ⟨other, hu⟩ := Scope.exists_find?_iff.mpr he.inScope.1
    have inner : e.Fits (scope.map (·.type)) u ps :=
      ⟨he.valid, he.inScope.2, he.agree, he.isMeaningful⟩
    obtain ⟨t, w', h, hkind⟩ := compile_of_fits e (hw.within hu) inner hk
    exact ⟨t, w', compile_within_ok.mpr ⟨other, hu, h⟩, hkind⟩
  | .param site p, scope, current, table, ps, w, k, hw, he, hk => by
    obtain ⟨ns, hns⟩ := hw.arena
    have hagree := (List.pairwise_append.mp he.agree).2.2
    obtain ⟨⟨n, a⟩, hplace⟩ := (hns.exists_place_iff site).mpr fun q hq =>
      hagree q hq p (List.mem_singleton.mpr rfl)
    exact ⟨_, _, compile_param_ok.mpr ⟨n, a, hplace, rfl, rfl⟩, hk.symm⟩
  | .not _ e, scope, current, table, ps, w, k, hw, he, hk => by
    obtain ⟨l, hl, hboolean, rfl⟩ := hk
    obtain ⟨t, w', h, rfl⟩ := compile_of_fits e hw
      ⟨he.valid, he.inScope, he.agree, he.isMeaningful⟩ hl
    exact ⟨_, w', compile_not_ok.mpr ⟨t, h, hboolean, rfl⟩, rfl⟩
  | .nullTest _ _ e, scope, current, table, ps, w, k, hw, he, hk => by
    obtain ⟨l, hl, hnullable, rfl⟩ := hk
    obtain ⟨t, w', h, rfl⟩ := compile_of_fits e hw
      ⟨he.valid, he.inScope, he.agree, he.isMeaningful⟩ hl
    exact ⟨_, w', compile_nullTest_ok.mpr ⟨t, h, hnullable, rfl⟩, rfl⟩
  | .call _ f e, scope, current, table, ps, w, k, hw, he, hk => by
    obtain ⟨l, hl, haccepts, rfl⟩ := hk
    obtain ⟨t, w', h, rfl⟩ := compile_of_fits e hw
      ⟨he.valid, he.inScope, he.agree, he.isMeaningful⟩ hl
    exact ⟨_, w', compile_call_ok.mpr ⟨t, h, haccepts, rfl⟩, rfl⟩
  | .binary _ op l r, scope, current, table, ps, w, k, hw, he, hk => by
    obtain ⟨k₁, k₂, hk₁, hk₂, haccepts, rfl⟩ := hk
    obtain ⟨fl, fr⟩ := fits_binary.mp he
    obtain ⟨tl, w₁, hl, rfl⟩ := compile_of_fits l hw fl hk₁
    obtain ⟨tr, w₂, hr, rfl⟩ := compile_of_fits r (hw.after hl) fr hk₂
    exact ⟨_, w₂, compile_binary_ok.mpr ⟨tl, w₁, hl, tr, hr, haccepts, rfl⟩, rfl⟩
  | .like _ _ e p, scope, current, table, ps, w, k, hw, he, hk => by
    obtain ⟨k₁, k₂, hk₁, hk₂, htext₁, htext₂, rfl⟩ := hk
    obtain ⟨fe, fp⟩ := fits_like.mp he
    obtain ⟨te, w₁, he, rfl⟩ := compile_of_fits e hw fe hk₁
    obtain ⟨tp, w₂, hp, rfl⟩ := compile_of_fits p (hw.after he) fp hk₂
    exact ⟨_, w₂, compile_like_ok.mpr ⟨te, w₁, he, tp, hp, ⟨htext₁, htext₂⟩, rfl⟩, rfl⟩
  | .between _ _ e low high, scope, current, table, ps, w, k, hw, he, hk => by
    obtain ⟨k₁, k₂, k₃, hk₁, hk₂, hk₃, hlow, hhigh, rfl⟩ := hk
    obtain ⟨fe, fl, fh⟩ := fits_between.mp he
    obtain ⟨te, w₁, he, rfl⟩ := compile_of_fits e hw fe hk₁
    have hw₁ := hw.after he
    obtain ⟨tl, w₂, hl, rfl⟩ := compile_of_fits low hw₁ fl hk₂
    obtain ⟨th, w₃, hh, rfl⟩ := compile_of_fits high (hw₁.after hl) fh hk₃
    exact ⟨_, w₃, compile_between_ok.mpr
      ⟨te, w₁, he, tl, w₂, hl, th, hh, ⟨hlow, hhigh⟩, rfl⟩, rfl⟩
  | .inList site negated e items, scope, current, table, ps, w, k, hw, he, hk => by
    obtain ⟨l, ls, hl, hls, hc, rfl⟩ := hk
    obtain ⟨hne, fe, fs⟩ := fits_inList.mp he
    obtain ⟨te, w₁, he, rfl⟩ := compile_of_fits e hw fe hl
    obtain ⟨ts, w₂, hs, rfl⟩ := compileItems_of_fits items site (.inList negated) (hw.after he) fs
      hls hc
    refine ⟨_, w₂, compile_inList_ok.mpr ⟨hne, te, w₁, he, ts, hs, rfl⟩, ?_⟩
    simp only [Typed.inList, Typed.resultKind_eq, List.map_cons]
  | .existsIn _ u e, scope, current, table, ps, w, k, hw, he, hk => by
    obtain ⟨⟨l, hl, hboolean⟩, rfl⟩ := hk
    obtain ⟨hvalid, hguard, fe⟩ := fits_existsIn.mp he
    obtain ⟨inner, r, hu⟩ := Registry.register_of_isValid w.registry hvalid
    obtain ⟨tf, w', hf, rfl⟩ := compile_of_fits e (hw.nested hu) fe hl
    exact ⟨_, w', compile_existsIn_ok.mpr ⟨inner, r, hu, hguard, tf, hf, hboolean, rfl⟩, rfl⟩

/-- Items that fit, of kinds that are comparable to the operand, compile to these kinds. -/
theorem compileItems_of_fits : ∀ (items : List Expr) (site : Site) (construct : Construct)
    {scope : Scope} {current : TableType} {table : Table} {operand : Typed} {ps : List Parameter}
    {w : Workspace} {ls : List Kind}, Reached scope current table ps w →
    ItemsFit (scope.map (·.type)) current ps items → ItemsHaveKinds current items ls →
    (∀ m ∈ ls, operand.kind.IsComparable m) →
    ∃ ts w', compileItems scope table site construct operand items w = (.ok ts, w') ∧
      ts.map (·.kind) = ls
  | [], _, _, scope, current, table, operand, ps, w, ls, hw, hitems, hls, hc =>
    ⟨[], w, compileItems_nil_ok.mpr ⟨rfl, rfl⟩, hls.symm⟩
  | e :: es, site, construct, scope, current, table, operand, ps, w, ls, hw, hitems, hls, hc => by
    obtain ⟨m, ms, hm, hms, rfl⟩ := hls
    obtain ⟨fe, fs⟩ := itemsFit_cons.mp hitems
    rw [List.forall_mem_cons] at hc
    obtain ⟨te, w₁, he, rfl⟩ := compile_of_fits e hw fe hm
    obtain ⟨ts, w₂, hs, rfl⟩ := compileItems_of_fits es site construct (hw.after he) fs hms hc.2
    exact ⟨_, w₂, compileItems_cons_ok.mpr ⟨te, w₁, he, hc.1, ts, hs, rfl⟩, rfl⟩

end

end Expr

/-- Agreement does not depend on the order of two parameters. -/
instance : Std.Symm Parameter.Agrees where
  symm _ _ h name hq hp := ⟨(h name hp hq).1.symm, (h name hp hq).2.symm⟩

/-- All parameters of a list agree if and only if each agrees with those after it. -/
lemma Parameter.pairwise_agrees_iff {ps : List Parameter} :
    ps.Pairwise Parameter.Agrees ↔ ∀ p ∈ ps, ∀ q ∈ ps, p.Agrees q := by
  constructor
  · intro h p hp q hq
    exact List.Pairwise.forall_of_forall (fun p _ _ _ _ => ⟨rfl, rfl⟩) h hp hq
  · intro h
    exact List.pairwise_of_forall_mem_list h

/-- From every reachable registry, exactly the well-formed filters compile.

Proof sketch. The pass of the compiler keeps its scope and its registry sound and its arena a
numbering of the parameters placed so far. In such a state, by induction on the filter, an
expression compiles if and only if it fits; and a parameter can be placed if and only if it agrees
with all before it, whatever their order. -/
theorem Query.compile_ok_iff_isWellFormed {r : Registry} (hr : r.IsReachable) (t : TableType)
    (filter : Expr) :
    (∃ q r', Query.compile t filter r = (.ok q, r')) ↔ filter.IsWellFormed t := by
  constructor
  · rintro ⟨q, r', h⟩
    obtain ⟨table, r₁, hregister, hguard, tf, w, hf, hboolean, -, -⟩ := compile_ok.mp h
    obtain ⟨htable, hr₁⟩ := Registry.register_ok hr.isSound hregister
    have hstart := Expr.Reached.start htable hr₁
    obtain ⟨fits, hkind⟩ := Expr.fits_of_compile filter hstart .nil hf
    exact ⟨List.forall_mem_cons.mpr ⟨TableType.isValid_iff.mpr ⟨table, htable⟩, fits.valid⟩,
      fits.inScope, ⟨_, hkind, hboolean⟩, Parameter.pairwise_agrees_iff.mp fits.agree,
      hguard, fits.isMeaningful⟩
  · intro h
    obtain ⟨hvalid, htables⟩ := List.forall_mem_cons.mp h.valid
    obtain ⟨table, r₁, hregister⟩ := Registry.register_of_isValid r hvalid
    obtain ⟨htable, hr₁⟩ := Registry.register_ok hr.isSound hregister
    have hstart := Expr.Reached.start htable hr₁
    obtain ⟨k, hkind, hboolean⟩ := h.hasKind
    obtain ⟨tf, w, hf, rfl⟩ := Expr.compile_of_fits filter hstart
      ⟨htables, h.inScope, Parameter.pairwise_agrees_iff.mpr h.agree, h.isMeaningful.2⟩ hkind
    exact ⟨_, _, compile_ok.mpr
      ⟨table, r₁, hregister, h.isMeaningful.1, tf, w, hf, hboolean, rfl, rfl⟩⟩

/-- A filter with a nested query compiles from the empty registry, so that it is well-formed. -/
theorem Sample.owners_isWellFormed :
    (∃ q r', Query.compile person owners {} = (.ok q, r')) ∧ owners.IsWellFormed person := by
  have hwell := Query.compile_ok_iff_isWellFormed ⟨[], rfl⟩ person owners
  exact ⟨exists_compile_owners, hwell.mp exists_compile_owners⟩

end TypedSql
