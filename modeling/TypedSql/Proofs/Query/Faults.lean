import TypedSql.Proofs.Query.WellFormed

/-!
# Faults of the nodes of a filter

Whether a node of a filter has a fault depends on where it stands: a column exists or not in the
current table there, a qualification is that of one of the frames there or not, and a parameter
meets those before it. This file says which faults a node may have, and shows that no node has one
in a filter that compiles.

## Main definitions

* `Expr.Expects` — what a construct expects of the kind of an operand.
* `Standing` — where a node of a filter stands.
* `Expr.nodes` — the nodes of an expression from left to right.
* `Standing.Exhibits` — a node has the fault that an error states.
* `Expr.CompilesAt` — an expression compiles where it stands.

## Main results

* `BinaryOp.accepts_iff` — the expectations of an operator are its signature.
* `Expr.nodes_compileAt` — the nodes of what compiles compile where they stand.
* `Expr.CompilesAt.not_exhibits` — what compiles has no fault.
-/

set_option autoImplicit false

namespace TypedSql

/-! ## Expectations -/

/-- Whether a kind meets an expectation. -/
def Expectation.Admits : Expectation → Kind → Prop
  | .kind l, k => l.IsComparable k
  | .numeric, k => k.isNumeric = true
  | .orderable, k => k.isOrderable = true
  | .textOrBlob, k => k.scalar = .text ∨ k.scalar = .blob

/-- What an operator expects of both its operands, whatever the other one is. -/
def BinaryOp.expectation? : BinaryOp → Option Expectation
  | .equal | .notEqual => none
  | .less | .lessEqual | .greater | .greaterEqual => some .orderable
  | .and | .or => some (.kind (.plain .boolean))
  | .add | .sub | .mul | .div | .rem => some .numeric
  | .concat => some (.kind (.plain .text))

/-- Whether an operator expects its operands to be comparable. -/
def BinaryOp.isComparison : BinaryOp → Bool
  | .equal | .notEqual | .less | .lessEqual | .greater | .greaterEqual => true
  | _ => false

/-- What a function expects of its argument. -/
def ScalarFunction.expectation : ScalarFunction → Expectation
  | .lower | .upper => .kind (.plain .text)
  | .length => .textOrBlob
  | .abs => .numeric

/-- A scalar kind that is no number is comparable with itself alone. -/
lemma Expectation.admits_plain {s : Scalar} (hs : s.isNumeric = false) {k : Kind} :
    (Expectation.kind (.plain s)).Admits k ↔ k.scalar = s := by
  constructor
  · rintro (heq | ⟨hnumeric, -⟩)
    · exact heq.symm
    · cases hs.symm.trans hnumeric
  · exact fun heq => .inl heq.symm

/-- The expectations of an operator are its signature. -/
theorem BinaryOp.accepts_iff {op : BinaryOp} {k l : Kind} :
    op.Accepts k l ↔
      (∀ expected, op.expectation? = some expected → expected.Admits k ∧ expected.Admits l) ∧
        (op.isComparison = true → (Expectation.kind k.base).Admits l) := by
  cases op with
  | equal | notEqual => exact ⟨fun h => ⟨nofun, fun _ => h⟩, fun h => h.2 rfl⟩
  | less | lessEqual | greater | greaterEqual =>
    constructor
    · rintro ⟨hk, hl, hcomparable⟩
      refine ⟨?_, fun _ => hcomparable⟩
      rintro _ ⟨⟩
      exact ⟨hk, hl⟩
    · rintro ⟨hordered, hcomparable⟩
      obtain ⟨hk, hl⟩ := hordered _ rfl
      exact ⟨hk, hl, hcomparable rfl⟩
  | and | or | concat =>
    constructor
    · rintro ⟨hk, hl⟩
      refine ⟨?_, nofun⟩
      rintro _ ⟨⟩
      exact ⟨(Expectation.admits_plain rfl).mpr hk, (Expectation.admits_plain rfl).mpr hl⟩
    · rintro ⟨h, -⟩
      obtain ⟨hk, hl⟩ := h _ rfl
      exact ⟨(Expectation.admits_plain rfl).mp hk, (Expectation.admits_plain rfl).mp hl⟩
  | add | sub | mul | div | rem =>
    constructor
    · intro hnumeric
      refine ⟨?_, nofun⟩
      rintro _ ⟨⟩
      exact hnumeric
    · exact fun h => h.1 _ rfl

/-- The expectation of a function is its signature. -/
lemma ScalarFunction.accepts_iff {f : ScalarFunction} {k : Kind} :
    f.Accepts k ↔ f.expectation.Admits k := by
  cases f with
  | lower | upper => exact (Expectation.admits_plain rfl).symm
  | length | abs => exact Iff.rfl

/-- What the construct at a node expects of the kind of one of its operands; of an operand that is
compared with the first one it expects the kind of that one. -/
inductive Expr.Expects (current : TableType) : Expr → Construct → Expr → Expectation → Prop where
  | not {s : Site} {e : Expr} :
    Expects current (.not s e) .not e (.kind (.plain .boolean))
  | operand {s : Site} {op : BinaryOp} {l r e : Expr} {expected : Expectation} :
    op.expectation? = some expected → e = l ∨ e = r →
    Expects current (.binary s op l r) (.operator op) e expected
  | comparison {s : Site} {op : BinaryOp} {l r : Expr} {k : Kind} :
    op.isComparison = true → l.HasKind current k →
    Expects current (.binary s op l r) (.operator op) r (.kind k.base)
  | like {s : Site} {negated : Bool} {e p d : Expr} : d = e ∨ d = p →
    Expects current (.like s negated e p) (.like negated) d (.kind (.plain .text))
  | between {s : Site} {negated : Bool} {e low high : Expr} :
    Expects current (.between s negated e low high) (.between negated) e .orderable
  | bound {s : Site} {negated : Bool} {e low high d : Expr} {k : Kind} : d = low ∨ d = high →
    e.HasKind current k →
    Expects current (.between s negated e low high) (.between negated) d (.kind k.base)
  | item {s : Site} {negated : Bool} {e d : Expr} {items : List Expr} {k : Kind} : d ∈ items →
    e.HasKind current k →
    Expects current (.inList s negated e items) (.inList negated) d (.kind k.base)
  | argument {s : Site} {f : ScalarFunction} {e : Expr} :
    Expects current (.call s f e) (.call f) e f.expectation

/-! ## Nodes and where they stand -/

/-- Where a node of a filter stands. -/
structure Standing where
  /-- The table types of the frames around it, the innermost first. -/
  frames : List TableType
  current : TableType
  /-- The parameters to the left of it. -/
  earlier : List Parameter
  /-- Whether the node is a complete filter. -/
  isFilter : Bool

namespace Standing

/-- A filter over a table type. -/
def start (t : TableType) : Standing := ⟨[t], t, [], true⟩

/-- The filter of a nested query. -/
def nested (x : Standing) (u : TableType) : Standing := ⟨u :: x.frames, u, x.earlier, true⟩

/-- The expression inside a qualification. -/
def within (x : Standing) (u : TableType) : Standing :=
  { x with current := u, isFilter := false }

/-- The first operand. -/
def operand (x : Standing) : Standing := { x with isFilter := false }

/-- The operand after another one. -/
def after (x : Standing) (e : Expr) : Standing :=
  { x with earlier := x.earlier ++ e.markers, isFilter := false }

end Standing

namespace Expr

mutual

/-- The nodes of an expression from left to right, each with where it stands; the expression itself
stands at `x`. -/
def nodes (x : Standing) : Expr → List (Standing × Expr)
  | .literal s v => [(x, .literal s v)]
  | .column s name => [(x, .column s name)]
  | .param s p => [(x, .param s p)]
  | .within s u e => (x, .within s u e) :: e.nodes (x.within u)
  | .not s e => (x, .not s e) :: e.nodes x.operand
  | .nullTest s test e => (x, .nullTest s test e) :: e.nodes x.operand
  | .call s f e => (x, .call s f e) :: e.nodes x.operand
  | .binary s op l r => (x, .binary s op l r) :: (l.nodes x.operand ++ r.nodes (x.after l))
  | .like s negated e p => (x, .like s negated e p) :: (e.nodes x.operand ++ p.nodes (x.after e))
  | .between s negated e low high =>
    (x, .between s negated e low high) ::
      (e.nodes x.operand ++ low.nodes (x.after e) ++ high.nodes ((x.after e).after low))
  | .inList s negated e items =>
    (x, .inList s negated e items) :: (e.nodes x.operand ++ itemNodes (x.after e) items)
  | .existsIn s u e => (x, .existsIn s u e) :: e.nodes (x.nested u)

/-- The nodes of the items of a list, the first of which stands at `x`. -/
def itemNodes (x : Standing) : List Expr → List (Standing × Expr)
  | [] => []
  | e :: es => e.nodes x ++ itemNodes (x.after e) es

end

/-- An expression is one of its nodes, in its own standing. -/
lemma self_mem_nodes (x : Standing) (e : Expr) : (x, e) ∈ e.nodes x := by
  cases e <;> simp [nodes]

end Expr

/-! ## Faults -/

/-- Whether a node that stands at `x` has the fault that an error states. -/
inductive Standing.Exhibits (x : Standing) : Expr → Error → Prop where
  /-- A column that is no truth value and that the current table does not have. -/
  | unknownColumn {s : Site} {name : String} : truthName? name = none →
    (∀ c ∈ x.current.columns, c.name ≠ name) →
    Exhibits x (.column s name) (.unknownColumn s name x.current.name)
  /-- A qualification with a table type that no frame has. -/
  | notAccessible {s : Site} {u : TableType} {e : Expr} : u ∉ x.frames →
    Exhibits x (.within s u e) (.notAccessible s u.name)
  /-- A test for NULL of what is never NULL. -/
  | notNullable {s : Site} {test : NullTest} {e : Expr} {k : Kind} {subject : String} :
    e.HasKind x.current k → k.isNullable = false →
    Exhibits x (.nullTest s test e) (.notNullable s subject)
  /-- An operand of another kind than expected. -/
  | operand {node e : Expr} {construct : Construct} {expected : Expectation} {found : Kind} :
    node.Expects x.current construct e expected → e.HasKind x.current found →
    ¬ expected.Admits found → Exhibits x node (.mismatch node.site construct expected found)
  /-- A complete filter that is not boolean. -/
  | filter {node : Expr} {found : Kind} : x.isFilter = true → node.HasKind x.current found →
    found.scalar ≠ .boolean →
    Exhibits x node (.mismatch node.site .filter (.kind (.plain .boolean)) found)
  /-- A parameter of another kind than an earlier one of its name. -/
  | parameter {s : Site} {p q : Parameter} {name : String} : q ∈ x.earlier → q.name = some name →
    p.name = some name → q.kind ≠ p.kind →
    Exhibits x (.param s p) (.mismatch s (.parameter name) (.kind q.kind) p.kind)
  /-- A complete filter that is a lone truth value. -/
  | constantFilter {node : Expr} : x.isFilter = true → node.isTruthValue = true →
    Exhibits x node (.refused node.site .constantFilter)
  /-- A literal of a real that is infinite or not a number. -/
  | realLiteral {s : Site} {v : Number.Binary64} : v.isFinite = false →
    Exhibits x (.literal s (.real v)) (.refused s (.realLiteral v))
  | nullLiteral {s : Site} : Exhibits x (.literal s .null) (.refused s .nullLiteral)
  | emptyList {s : Site} {negated : Bool} {e : Expr} :
    Exhibits x (.inList s negated e []) (.refused s (.emptyList negated))
  /-- A parameter that is captured where an earlier one of its name is not, or the reverse. -/
  | mixedParameter {s : Site} {p q : Parameter} {name : String} : q ∈ x.earlier →
    q.name = some name → p.name = some name → q.isRuntime ≠ p.isRuntime →
    Exhibits x (.param s p) (.refused s (.mixedParameter name))

/-- The error points to the site of the node that has the fault. -/
lemma Standing.Exhibits.site?_eq {x : Standing} {node : Expr} {e : Error}
    (h : x.Exhibits node e) : e.site? = some node.site := by
  cases h <;> rfl

namespace Expr

/-! ## The pass of the compiler -/

/-- The state of the compiler at a node: its frames, its current table and the parameters before it
are those of the scope, the table and the arena at hand. -/
structure StandsAt (x : Standing) (scope : Scope) (table : Table) (w : Workspace) : Prop where
  frames : scope.map (·.type) = x.frames
  reached : Reached scope x.current table x.earlier w
  agree : x.earlier.Pairwise Parameter.Agrees

namespace StandsAt

variable {x : Standing} {scope : Scope} {table : Table} {w w' : Workspace}

/-- The filter of a query stands in its table, over a sound registry. -/
lemma start {t : TableType} {r : Registry} (ht : t.table = .ok table) (hr : r.IsSound) :
    StandsAt (.start t) [⟨t, table⟩] table ⟨r, {}⟩ :=
  ⟨rfl, .start ht hr, .nil⟩

/-- An operand stands where its expression does. -/
lemma operand (h : StandsAt x scope table w) : StandsAt x.operand scope table w :=
  ⟨h.frames, h.reached, h.agree⟩

/-- A qualified expression stands in the table in scope that it names. -/
lemma within (h : StandsAt x scope table w) {u : TableType} {other : Table}
    (hu : scope.find? u = some other) : StandsAt (x.within u) scope other w :=
  ⟨h.frames, h.reached.within hu, h.agree⟩

/-- The filter of a nested query stands in the table that has been registered for it. -/
lemma nested (h : StandsAt x scope table w) {u : TableType} {inner : Table} {r : Registry}
    (hu : Registry.register u w.registry = (.ok inner, r)) :
    StandsAt (x.nested u) (⟨u, inner⟩ :: scope) inner { w with registry := r } :=
  ⟨congrArg (u :: ·) h.frames, h.reached.nested hu, h.agree⟩

/-- What compiles has the kind that the compiler gives it. -/
lemma hasKind (h : StandsAt x scope table w) {e : Expr} {t : Typed}
    (he : e.compile scope table w = (.ok t, w')) : e.HasKind x.current t.kind :=
  (fits_of_compile e h.reached h.agree he).2

/-- What is compiled after an expression stands where this has left the workspace. -/
lemma after (h : StandsAt x scope table w) {e : Expr} {t : Typed}
    (he : e.compile scope table w = (.ok t, w')) : StandsAt (x.after e) scope table w' :=
  ⟨h.frames, h.reached.after he, (fits_of_compile e h.reached h.agree he).1.agree⟩

/-- A column that is not found is none of the declaration. -/
lemma ne_of_column?_eq_none (h : StandsAt x scope table w) {name : String}
    (hnone : table.column? name = none) : ∀ c ∈ x.current.columns, c.name ≠ name := by
  intro c hc hname
  cases hnone.symm.trans (h.reached.column?_iff.mpr ⟨hc, hname⟩)

/-- The current table has the name of its table type. -/
lemma table_name (h : StandsAt x scope table w) : table.name = x.current.name :=
  (TableType.table_ok_iff.mp h.reached.current).1

/-- A table type that is not found is that of no frame. -/
lemma not_mem_frames (h : StandsAt x scope table w) {u : TableType}
    (hnone : scope.find? u = none) : u ∉ x.frames := by
  rw [← h.frames]
  intro hmem
  obtain ⟨other, hother⟩ := Scope.exists_find?_iff.mpr hmem
  cases hnone.symm.trans hother

end StandsAt

/-! ## What compiles has no fault -/

/-- Whether the expression compiles from a state of the compiler where it stands, to a boolean if it
is a complete filter. -/
def CompilesAt (x : Standing) (e : Expr) : Prop :=
  ∃ scope table w t w', StandsAt x scope table w ∧ e.compile scope table w = (.ok t, w') ∧
    (x.isFilter = true → e.isTruthValue = false ∧ t.kind.scalar = .boolean)

mutual

/-- The nodes of what compiles compile where they stand. -/
theorem nodes_compileAt : ∀ (e : Expr) {x : Standing}, CompilesAt x e →
    ∀ p ∈ e.nodes x, CompilesAt p.1 p.2
  | .literal _ _, x, h | .column _ _, x, h | .param _ _, x, h => by
    simpa only [nodes, List.forall_mem_singleton] using h
  | .within s u e, x, h => by
    have ⟨scope, table, w, t, w', hx, hc, _⟩ := h
    obtain ⟨other, hu, he⟩ := compile_within_ok.mp hc
    simp only [nodes, List.forall_mem_cons]
    exact ⟨h, nodes_compileAt e ⟨_, _, _, _, _, hx.within hu, he, nofun⟩⟩
  | .not s e, x, h => by
    have ⟨scope, table, w, t, w', hx, hc, _⟩ := h
    obtain ⟨te, he, -⟩ := compile_not_ok.mp hc
    simp only [nodes, List.forall_mem_cons]
    exact ⟨h, nodes_compileAt e ⟨_, _, _, _, _, hx.operand, he, nofun⟩⟩
  | .nullTest s test e, x, h => by
    have ⟨scope, table, w, t, w', hx, hc, _⟩ := h
    obtain ⟨te, he, -⟩ := compile_nullTest_ok.mp hc
    simp only [nodes, List.forall_mem_cons]
    exact ⟨h, nodes_compileAt e ⟨_, _, _, _, _, hx.operand, he, nofun⟩⟩
  | .call s f e, x, h => by
    have ⟨scope, table, w, t, w', hx, hc, _⟩ := h
    obtain ⟨te, he, -⟩ := compile_call_ok.mp hc
    simp only [nodes, List.forall_mem_cons]
    exact ⟨h, nodes_compileAt e ⟨_, _, _, _, _, hx.operand, he, nofun⟩⟩
  | .binary s op l r, x, h => by
    have ⟨scope, table, w, t, w', hx, hc, _⟩ := h
    obtain ⟨tl, w₁, hl, tr, hr, -⟩ := compile_binary_ok.mp hc
    simp only [nodes, List.forall_mem_cons, List.forall_mem_append]
    exact ⟨h, nodes_compileAt l ⟨_, _, _, _, _, hx.operand, hl, nofun⟩,
      nodes_compileAt r ⟨_, _, _, _, _, hx.after hl, hr, nofun⟩⟩
  | .like s negated e p, x, h => by
    have ⟨scope, table, w, t, w', hx, hc, _⟩ := h
    obtain ⟨te, w₁, he, tp, hp, -⟩ := compile_like_ok.mp hc
    simp only [nodes, List.forall_mem_cons, List.forall_mem_append]
    exact ⟨h, nodes_compileAt e ⟨_, _, _, _, _, hx.operand, he, nofun⟩,
      nodes_compileAt p ⟨_, _, _, _, _, hx.after he, hp, nofun⟩⟩
  | .between s negated e low high, x, h => by
    have ⟨scope, table, w, t, w', hx, hc, _⟩ := h
    obtain ⟨te, w₁, he, tl, w₂, hl, th, hh, -⟩ := compile_between_ok.mp hc
    simp only [nodes, List.forall_mem_cons, List.forall_mem_append]
    exact ⟨h, ⟨nodes_compileAt e ⟨_, _, _, _, _, hx.operand, he, nofun⟩,
      nodes_compileAt low ⟨_, _, _, _, _, hx.after he, hl, nofun⟩⟩,
      nodes_compileAt high ⟨_, _, _, _, _, (hx.after he).after hl, hh, nofun⟩⟩
  | .inList s negated e items, x, h => by
    have ⟨scope, table, w, t, w', hx, hc, _⟩ := h
    obtain ⟨-, te, w₁, he, ts, hs, -⟩ := compile_inList_ok.mp hc
    simp only [nodes, List.forall_mem_cons, List.forall_mem_append]
    exact ⟨h, nodes_compileAt e ⟨_, _, _, _, _, hx.operand, he, nofun⟩,
      itemNodes_compileAt items (hx.after he) rfl hs⟩
  | .existsIn s u e, x, h => by
    have ⟨scope, table, w, t, w', hx, hc, _⟩ := h
    obtain ⟨inner, r, hu, hguard, tf, hf, hk, -⟩ := compile_existsIn_ok.mp hc
    simp only [nodes, List.forall_mem_cons]
    exact ⟨h, nodes_compileAt e ⟨_, _, _, _, _, hx.nested hu, hf, fun _ => ⟨hguard, hk⟩⟩⟩

/-- The nodes of items that compile do so in their standing. -/
theorem itemNodes_compileAt : ∀ (items : List Expr) {x : Standing} {scope : Scope} {table : Table}
    {site : Site} {construct : Construct} {operand : Typed} {w w' : Workspace} {ts : List Typed},
    StandsAt x scope table w → x.isFilter = false →
    compileItems scope table site construct operand items w = (.ok ts, w') →
    ∀ p ∈ itemNodes x items, CompilesAt p.1 p.2
  | [], _, _, _, _, _, _, _, _, _, _, _, _ => by simp [itemNodes]
  | e :: es, x, scope, table, site, construct, operand, w, w', ts, hx, hfilter, h => by
    obtain ⟨te, w₁, he, -, tes, hes, -⟩ := compileItems_cons_ok.mp h
    have hnone : x.isFilter = true → e.isTruthValue = false ∧ te.kind.scalar = .boolean :=
      fun htrue => nomatch hfilter.symm.trans htrue
    simp only [itemNodes, List.forall_mem_append]
    exact ⟨nodes_compileAt e ⟨_, _, _, _, _, hx, he, hnone⟩,
      itemNodes_compileAt es (hx.after he) rfl hes⟩

end

section Faultless

variable {x : Standing} {scope : Scope} {table : Table} {w w' : Workspace} {t : Typed} {k : Kind}

/-- What compiles has no other kind than the compiler gives it. -/
lemma StandsAt.kind_eq (hx : StandsAt x scope table w) {e : Expr}
    (he : e.compile scope table w = (.ok t, w')) (hk : e.HasKind x.current k) : k = t.kind := by
  have hfits := (fits_of_compile e hx.reached hx.agree he).1
  obtain ⟨t', w'', he', rfl⟩ := compile_of_fits e hx.reached hfits hk
  cases he.symm.trans he'
  rfl

/-- Each item of a list that compiles is comparable with the operand before the list. -/
lemma isComparable_of_mem {site : Site} {construct : Construct} {operand : Typed} {d : Expr} :
    ∀ {items : List Expr} {x : Standing} {w : Workspace} {ts : List Typed},
      StandsAt x scope table w →
      compileItems scope table site construct operand items w = (.ok ts, w') → d ∈ items →
      d.HasKind x.current k → operand.kind.IsComparable k
  | e :: es, x, w, ts, hx, h, hd, hk => by
    obtain ⟨te, w₁, he, hcomparable, tes, hes, -⟩ := compileItems_cons_ok.mp h
    rcases List.mem_cons.mp hd with rfl | hd
    · rwa [hx.kind_eq he hk]
    · exact isComparable_of_mem (hx.after he) hes hd hk

/-- The operands of what compiles have the kinds that it expects. -/
lemma admits_of_expects (hx : StandsAt x scope table w) {node e : Expr} {construct : Construct}
    {expected : Expectation} (hc : node.compile scope table w = (.ok t, w'))
    (h : node.Expects x.current construct e expected) (hk : e.HasKind x.current k) :
    expected.Admits k := by
  cases h with
  | not =>
    obtain ⟨te, he, hkind, -⟩ := compile_not_ok.mp hc
    cases hx.kind_eq he hk
    exact (Expectation.admits_plain rfl).mpr hkind
  | operand hexpected hside =>
    obtain ⟨tl, w₁, hl, tr, hr, haccepts, -⟩ := compile_binary_ok.mp hc
    have hadmits := (BinaryOp.accepts_iff.mp haccepts).1 _ hexpected
    rcases hside with rfl | rfl
    · cases hx.kind_eq hl hk
      exact hadmits.1
    · cases (hx.after hl).kind_eq hr hk
      exact hadmits.2
  | comparison hcomparison hl' =>
    obtain ⟨tl, w₁, hl, tr, hr, haccepts, -⟩ := compile_binary_ok.mp hc
    cases hx.kind_eq hl hl'
    cases (hx.after hl).kind_eq hr hk
    exact (BinaryOp.accepts_iff.mp haccepts).2 hcomparison
  | like hside =>
    obtain ⟨te, w₁, he, tp, hp, ⟨hke, hkp⟩, -⟩ := compile_like_ok.mp hc
    rcases hside with rfl | rfl
    · cases hx.kind_eq he hk
      exact (Expectation.admits_plain rfl).mpr hke
    · cases (hx.after he).kind_eq hp hk
      exact (Expectation.admits_plain rfl).mpr hkp
  | between =>
    obtain ⟨te, w₁, he, tl, w₂, hl, th, hh, ⟨hlow, -⟩, -⟩ := compile_between_ok.mp hc
    cases hx.kind_eq he hk
    exact hlow.1
  | bound hside he' =>
    obtain ⟨te, w₁, he, tl, w₂, hl, th, hh, ⟨hlow, hhigh⟩, -⟩ := compile_between_ok.mp hc
    cases hx.kind_eq he he'
    rcases hside with rfl | rfl
    · cases (hx.after he).kind_eq hl hk
      exact hlow.2.2
    · cases ((hx.after he).after hl).kind_eq hh hk
      exact hhigh.2.2
  | item hd he' =>
    obtain ⟨-, te, w₁, he, ts, hs, -⟩ := compile_inList_ok.mp hc
    cases hx.kind_eq he he'
    exact isComparable_of_mem (hx.after he) hs hd hk
  | argument =>
    obtain ⟨te, he, haccepts, -⟩ := compile_call_ok.mp hc
    cases hx.kind_eq he hk
    exact ScalarFunction.accepts_iff.mp haccepts

/-- What compiles where it stands has no fault there. -/
theorem CompilesAt.not_exhibits {e : Expr} (h : CompilesAt x e) (err : Error) :
    ¬ x.Exhibits e err := by
  obtain ⟨scope, table, w, t, w', hx, hc, hfilter⟩ := h
  intro hexhibits
  have hagrees : ∀ {site : Site} {p q : Parameter}, e = .param site p → q ∈ x.earlier →
      q.Agrees p := by
    rintro site p q rfl hq
    obtain ⟨n, a, hplace, -⟩ := compile_param_ok.mp hc
    obtain ⟨ns, hns⟩ := hx.reached.arena
    exact (hns.exists_place_iff site).mp ⟨_, hplace⟩ q hq
  cases hexhibits with
  | unknownColumn htruth hnone =>
    obtain ⟨⟨b, hb, -⟩ | ⟨-, c, hc, -⟩, -⟩ := compile_column_ok.mp hc
    · cases htruth.symm.trans hb
    · obtain ⟨hmem, hname⟩ := hx.reached.column?_iff.mp hc
      exact hnone c hmem hname
  | notAccessible hu =>
    obtain ⟨other, hother, -⟩ := compile_within_ok.mp hc
    exact hu (hx.frames ▸ Scope.exists_find?_iff.mp ⟨other, hother⟩)
  | notNullable hk hnull =>
    obtain ⟨te, he, hnullable, -⟩ := compile_nullTest_ok.mp hc
    cases hx.kind_eq he hk
    cases hnull.symm.trans hnullable
  | operand hexpects hk hadmits => exact hadmits (admits_of_expects hx hc hexpects hk)
  | filter hcomplete hk hne =>
    cases hx.kind_eq hc hk
    exact hne (hfilter hcomplete).2
  | parameter hq hqname hpname hkind => exact hkind (hagrees rfl hq _ hqname hpname).1
  | constantFilter hcomplete htruth => cases htruth.symm.trans (hfilter hcomplete).1
  | realLiteral hfinite =>
    obtain ⟨⟨-, hreal⟩, -⟩ := compile_literal_ok.mp hc
    cases hfinite.symm.trans (hreal _ rfl)
  | nullLiteral =>
    obtain ⟨⟨⟨s, hs, -⟩, -⟩, -⟩ := compile_literal_ok.mp hc
    cases hs
  | emptyList =>
    obtain ⟨hne, -⟩ := compile_inList_ok.mp hc
    exact hne rfl
  | mixedParameter hq hqname hpname hruntime =>
    exact hruntime (hagrees rfl hq _ hqname hpname).2

end Faultless

end Expr

end TypedSql
