import TypedSql.Proofs.Query.WellFormed
import TypedSql.Proofs.Store.Names

/-!
# What column references bind to

A filter means each of its columns as one of a frame: of the innermost frame if it is bare, of the
innermost frame of a table type if it is qualified. The text knows frames by the names of their
tables only, and a name binds to the innermost frame that has it. So a reference is captured if a
frame further inside has a table of the same name, and only then; this takes two table types that
share a name.

## Main definitions

* `Reference` — a place in a filter with the frame that is meant there.
* `Expr.references` — the column references of a filter from left to right.
* `Condition.bindings` — the levels that the columns of a condition bind to.

## Main results

* `Expr.compile_bindings` — what the columns of a compiled condition bind to.
* `Query.bindings_meant_iff` — a reference binds to the frame that is meant unless it is captured.
-/

set_option autoImplicit false

namespace TypedSql

/-! ## References -/

/-- A place in a filter: the frame that is meant there, those inside it and those around it, each
list from the inside out. -/
structure Reference where
  inner : List TableType
  target : TableType
  outer : List TableType

namespace Reference

/-- All frames at a place. -/
def frames (ρ : Reference) : List TableType := ρ.inner ++ ρ.target :: ρ.outer

/-- The level of the frame that is meant, counted from the outermost one. -/
def level (ρ : Reference) : Nat := ρ.outer.length

/-- Whether a frame inside the one that is meant has a table of the same name. -/
def IsCaptured (ρ : Reference) : Prop := ∃ u ∈ ρ.inner, sameName u.name ρ.target.name = true

/-- The innermost frame of a table type is meant at the same place. -/
def within (ρ : Reference) (u : TableType) : Reference :=
  ⟨ρ.frames.takeWhile (· ≠ u), u, (ρ.frames.dropWhile (· ≠ u)).tail⟩

/-- The only frame of a filter is meant at its start. -/
def start (t : TableType) : Reference := ⟨[], t, []⟩

/-- A new frame at a place is meant inside it. -/
def nested (ρ : Reference) (u : TableType) : Reference := ⟨[], u, ρ.frames⟩

end Reference

namespace Expr

mutual

/-- The column references of an expression from left to right, each with the frame that is meant: at
the start of the expression, this is the one of `ρ`. -/
def references (ρ : Reference) : Expr → List Reference
  | .literal _ _ | .param _ _ => []
  | .column _ name => if (truthName? name).isSome then [] else [ρ]
  | .within _ u e => e.references (ρ.within u)
  | .not _ e | .nullTest _ _ e | .call _ _ e => e.references ρ
  | .binary _ _ l r | .like _ _ l r => l.references ρ ++ r.references ρ
  | .between _ _ e low high => e.references ρ ++ low.references ρ ++ high.references ρ
  | .inList _ _ e items => e.references ρ ++ itemReferences ρ items
  | .existsIn _ u e => e.references (ρ.nested u)

/-- The column references of the items of a list. -/
def itemReferences (ρ : Reference) : List Expr → List Reference
  | [] => []
  | e :: es => e.references ρ ++ itemReferences ρ es

end

end Expr

/-! ## Bindings -/

/-- The level of the innermost frame whose table has a name, counted from the outermost frame. The
names of the tables are given from the inside out. -/
def level? (name : String) : List String → Option Nat
  | [] => none
  | f :: rest => if sameName f name then some rest.length else level? name rest

namespace Condition

mutual

/-- The levels that the columns of a condition bind to, in the order of its text. -/
def bindings (froms : List String) : Condition → List (Option Nat)
  | .literal _ | .placeholder _ => []
  | .column table _ => [level? table froms]
  | .not e | .isNull _ e | .call _ e => e.bindings froms
  | .binary _ l r | .like _ l r => l.bindings froms ++ r.bindings froms
  | .between _ e low high => e.bindings froms ++ low.bindings froms ++ high.bindings froms
  | .inList _ e items => e.bindings froms ++ itemBindings froms items
  | .existsIn table e => e.bindings (table :: froms)

/-- The levels that the columns of the items of a list bind to. -/
def itemBindings (froms : List String) : List Condition → List (Option Nat)
  | [] => []
  | e :: es => e.bindings froms ++ itemBindings froms es

end

end Condition

/-- A name binds to a given frame of that name if and only if no frame further inside has it. -/
lemma level?_eq_iff (name : String) (inner outer : List String) :
    level? name (inner ++ name :: outer) = some outer.length ↔
      ∀ f ∈ inner, sameName f name = false := by
  induction inner with
  | nil => simp [level?, sameName_self]
  | cons f inner ih =>
    rw [List.cons_append, level?, List.forall_mem_cons]
    cases hf : sameName f name with
    | false => simpa using ih
    | true =>
      -- the frame at the front is further inside than the one that is meant
      simp only [if_true, Option.some.injEq, List.length_append, List.length_cons, reduceCtorEq,
        false_and, iff_false]
      omega

namespace Reference

/-- What the name of the frame that is meant binds to. -/
def binding (ρ : Reference) : Option Nat := level? ρ.target.name (ρ.frames.map (·.name))

/-- A reference binds to the frame that is meant unless it is captured. -/
lemma binding_eq_iff (ρ : Reference) : ρ.binding = some ρ.level ↔ ¬ ρ.IsCaptured := by
  have h := level?_eq_iff ρ.target.name (ρ.inner.map (·.name)) (ρ.outer.map (·.name))
  rw [List.length_map, List.forall_mem_map] at h
  unfold binding frames level IsCaptured
  rw [List.map_append, List.map_cons, h]
  simp

/-- The innermost frame of a table type in scope is one of the frames. -/
lemma frames_within {ρ : Reference} {u : TableType} (h : u ∈ ρ.frames) :
    (ρ.within u).frames = ρ.frames := by
  have hne : ρ.frames.dropWhile (· ≠ u) ≠ [] := by
    intro hnil
    have := List.dropWhile_eq_nil_iff.mp hnil u h
    simp at this
  have hhead : (ρ.frames.dropWhile (· ≠ u)).head hne = u := by
    simpa using List.head_dropWhile_not _ hne
  have hcons : u :: (ρ.frames.dropWhile (· ≠ u)).tail = ρ.frames.dropWhile (· ≠ u) := by
    calc u :: (ρ.frames.dropWhile (· ≠ u)).tail
        = (ρ.frames.dropWhile (· ≠ u)).head hne :: (ρ.frames.dropWhile (· ≠ u)).tail :=
          congrArg (· :: _) hhead.symm
      _ = ρ.frames.dropWhile (· ≠ u) := List.cons_head_tail hne
  show ρ.frames.takeWhile (· ≠ u) ++ u :: (ρ.frames.dropWhile (· ≠ u)).tail = ρ.frames
  rw [hcons, List.takeWhile_append_dropWhile]

end Reference

/-! ## Compiled conditions -/

namespace Expr

mutual

/-- The columns of a compiled condition bind as the names of the frames that are meant do. -/
theorem compile_bindings : ∀ (e : Expr) {scope : Scope} {current : Table} {w w' : Workspace}
    {t : Typed} {ρ : Reference}, scope.map (·.type) = ρ.frames → scope.IsSound →
    ρ.target.table = .ok current → w.registry.IsSound →
    e.compile scope current w = (.ok t, w') →
    t.condition.bindings (ρ.frames.map (·.name)) = (e.references ρ).map Reference.binding
  | .literal _ _, scope, current, w, w', t, ρ, _, _, _, _, h => by
    obtain ⟨⟨⟨s, -, rfl⟩, -⟩, -⟩ := compile_literal_ok.mp h
    rfl
  | .column _ name, scope, current, w, w', t, ρ, _, _, hcurrent, _, h => by
    have hname := (TableType.table_ok_iff.mp hcurrent).1
    obtain ⟨⟨b, hb, rfl⟩ | ⟨hb, c, -, rfl⟩, -⟩ := compile_column_ok.mp h
    · simp [Condition.bindings, references, hb]
    · simp [Condition.bindings, references, hb, Reference.binding, hname]
  | .within _ u e, scope, current, w, w', t, ρ, hframes, hscope, _, hw, h => by
    -- a qualification moves the target, and leaves the frames as they are
    obtain ⟨other, hu, h⟩ := compile_within_ok.mp h
    have hmem : u ∈ ρ.frames := hframes ▸ Scope.exists_find?_iff.mp ⟨other, hu⟩
    have hwithin := Reference.frames_within hmem
    have he := compile_bindings e (hframes.trans hwithin.symm) hscope
      (hscope.table_of_find? hu) hw h
    rwa [hwithin] at he
  | .param _ p, scope, current, w, w', t, ρ, _, _, _, _, h => by
    obtain ⟨n, a, -, rfl, -⟩ := compile_param_ok.mp h
    rfl
  | .not _ e, scope, current, w, w', t, ρ, hframes, hscope, hcurrent, hw, h => by
    obtain ⟨te, he, -, rfl⟩ := compile_not_ok.mp h
    rw [Condition.bindings, references]
    exact compile_bindings e hframes hscope hcurrent hw he
  | .nullTest _ _ e, scope, current, w, w', t, ρ, hframes, hscope, hcurrent, hw, h => by
    obtain ⟨te, he, -, rfl⟩ := compile_nullTest_ok.mp h
    rw [Condition.bindings, references]
    exact compile_bindings e hframes hscope hcurrent hw he
  | .call _ f e, scope, current, w, w', t, ρ, hframes, hscope, hcurrent, hw, h => by
    obtain ⟨te, he, -, rfl⟩ := compile_call_ok.mp h
    rw [Condition.bindings, references]
    exact compile_bindings e hframes hscope hcurrent hw he
  | .binary _ _ l r, scope, current, w, w', t, ρ, hframes, hscope, hcurrent, hw, h => by
    obtain ⟨tl, w₁, hl, tr, hr, -, rfl⟩ := compile_binary_ok.mp h
    rw [Condition.bindings, references, List.map_append,
      compile_bindings l hframes hscope hcurrent hw hl,
      compile_bindings r hframes hscope hcurrent (compile_isSound hl hw) hr]
  | .like _ _ e p, scope, current, w, w', t, ρ, hframes, hscope, hcurrent, hw, h => by
    obtain ⟨te, w₁, he, tp, hp, -, rfl⟩ := compile_like_ok.mp h
    rw [Condition.bindings, references, List.map_append,
      compile_bindings e hframes hscope hcurrent hw he,
      compile_bindings p hframes hscope hcurrent (compile_isSound he hw) hp]
  | .between _ _ e low high, scope, current, w, w', t, ρ, hframes, hscope, hcurrent, hw, h => by
    obtain ⟨te, w₁, he, tl, w₂, hl, th, hh, -, rfl⟩ := compile_between_ok.mp h
    have hw₁ := compile_isSound he hw
    rw [Condition.bindings, references, List.map_append, List.map_append,
      compile_bindings e hframes hscope hcurrent hw he,
      compile_bindings low hframes hscope hcurrent hw₁ hl,
      compile_bindings high hframes hscope hcurrent (compile_isSound hl hw₁) hh]
  | .inList _ _ e items, scope, current, w, w', t, ρ, hframes, hscope, hcurrent, hw, h => by
    obtain ⟨-, te, w₁, he, ts, hs, rfl⟩ := compile_inList_ok.mp h
    rw [Typed.inList, Condition.bindings, references, List.map_append,
      compile_bindings e hframes hscope hcurrent hw he,
      compileItems_bindings items hframes hscope hcurrent (compile_isSound he hw) hs]
  | .existsIn _ u e, scope, current, w, w', t, ρ, hframes, hscope, _, hw, h => by
    obtain ⟨inner, r, hu, -, tf, hf, -, rfl⟩ := compile_existsIn_ok.mp h
    obtain ⟨hinner, hr⟩ := Registry.register_ok hw hu
    have hnested : (⟨u, inner⟩ :: scope : Scope).map (·.type) = (ρ.nested u).frames :=
      congrArg (u :: ·) hframes
    have he := compile_bindings e hnested (hscope.cons hinner) hinner hr hf
    rw [Typed.existsIn, Condition.bindings, references, (TableType.table_ok_iff.mp hinner).1]
    exact he

/-- The columns of the items of a list are bound as those of an expression are. -/
theorem compileItems_bindings : ∀ (items : List Expr) {scope : Scope} {current : Table}
    {site : Site} {construct : Construct} {operand : Typed} {w w' : Workspace} {ts : List Typed}
    {ρ : Reference}, scope.map (·.type) = ρ.frames → scope.IsSound →
    ρ.target.table = .ok current → w.registry.IsSound →
    compileItems scope current site construct operand items w = (.ok ts, w') →
    Condition.itemBindings (ρ.frames.map (·.name)) (ts.map (·.condition)) =
      (itemReferences ρ items).map Reference.binding
  | [], scope, current, site, construct, operand, w, w', ts, ρ, _, _, _, _, h => by
    obtain ⟨rfl, -⟩ := compileItems_nil_ok.mp h
    rfl
  | e :: es, scope, current, site, construct, operand, w, w', ts, ρ, hframes, hscope, hcurrent,
      hw, h => by
    obtain ⟨te, w₁, he, -, tes, hs, rfl⟩ := compileItems_cons_ok.mp h
    rw [List.map_cons, Condition.itemBindings, itemReferences, List.map_append,
      compile_bindings e hframes hscope hcurrent hw he,
      compileItems_bindings es hframes hscope hcurrent (compile_isSound he hw) hs]

end

end Expr

/-! ## Captured references -/

namespace Reference

/-- A frame that is meant is the innermost one of its table type, and all frames around the place
are among the given table types. -/
structure IsRegular (ts : List TableType) (ρ : Reference) : Prop where
  innermost : ρ.target ∉ ρ.inner
  frames : ∀ u ∈ ρ.frames, u ∈ ts

variable {ts : List TableType} {ρ : Reference} {u : TableType}

/-- A reference in regular standing stays so when it is qualified by a table in scope. -/
lemma IsRegular.within (h : ρ.IsRegular ts) (hu : u ∈ ρ.frames) : (ρ.within u).IsRegular ts where
  innermost hmem := by simpa [Reference.within] using List.mem_takeWhile_imp hmem
  frames := by
    rw [frames_within hu]
    exact h.frames

/-- A reference in regular standing stays so in a nested query. -/
lemma IsRegular.nested (h : ρ.IsRegular ts) (hu : u ∈ ts) : (ρ.nested u).IsRegular ts where
  innermost := List.not_mem_nil
  frames := List.forall_mem_cons.mpr ⟨hu, h.frames⟩

/-- Where no two of the table types share a name, no reference is captured. -/
lemma IsRegular.not_isCaptured (h : ρ.IsRegular ts)
    (hnames : ∀ u ∈ ts, ∀ v ∈ ts, sameName u.name v.name = true → u = v) : ¬ ρ.IsCaptured := by
  rintro ⟨u, hu, hname⟩
  have htarget := h.frames ρ.target (by simp [Reference.frames])
  have heq := hnames u (h.frames u (by simp [Reference.frames, hu])) ρ.target htarget hname
  exact h.innermost (heq ▸ hu)

end Reference

namespace Expr

mutual

/-- The references of an expression in scope are regular. -/
theorem references_isRegular {ts : List TableType} : ∀ (e : Expr) {ρ : Reference},
    e.InScope ρ.frames ρ.target → ρ.IsRegular ts → (∀ u ∈ e.tables, u ∈ ts) →
    ∀ σ ∈ e.references ρ, σ.IsRegular ts
  | .literal _ _, _, _, _, _ | .param _ _, _, _, _, _ => by simp [references]
  | .column _ name, ρ, _, hρ, _ => by
    rw [references]
    split
    · simp
    · simpa using hρ
  | .within _ u e, ρ, he, hρ, hts => by
    have hwithin := hρ.within he.1
    rw [references]
    refine references_isRegular e ?_ hwithin hts
    rw [Reference.frames_within he.1]
    exact he.2
  | .not _ e, ρ, he, hρ, hts | .nullTest _ _ e, ρ, he, hρ, hts | .call _ _ e, ρ, he, hρ, hts => by
    rw [references]
    exact references_isRegular e he hρ hts
  | .binary _ _ l r, ρ, he, hρ, hts | .like _ _ l r, ρ, he, hρ, hts => by
    rw [tables, List.forall_mem_append] at hts
    rw [references, List.forall_mem_append]
    exact ⟨references_isRegular l he.1 hρ hts.1, references_isRegular r he.2 hρ hts.2⟩
  | .between _ _ e low high, ρ, he, hρ, hts => by
    rw [tables, List.forall_mem_append, List.forall_mem_append] at hts
    rw [references, List.forall_mem_append, List.forall_mem_append]
    exact ⟨⟨references_isRegular e he.1 hρ hts.1.1, references_isRegular low he.2.1 hρ hts.1.2⟩,
      references_isRegular high he.2.2 hρ hts.2⟩
  | .inList _ _ e items, ρ, he, hρ, hts => by
    rw [tables, List.forall_mem_append] at hts
    rw [references, List.forall_mem_append]
    exact ⟨references_isRegular e he.1 hρ hts.1, itemReferences_areRegular items he.2 hρ hts.2⟩
  | .existsIn _ u e, ρ, he, hρ, hts => by
    rw [tables, List.forall_mem_cons] at hts
    rw [references]
    exact references_isRegular e he (hρ.nested hts.1) hts.2

/-- The references in the items of a list are in regular standing. -/
theorem itemReferences_areRegular {ts : List TableType} : ∀ (items : List Expr) {ρ : Reference},
    ItemsInScope ρ.frames ρ.target items → ρ.IsRegular ts → (∀ u ∈ itemTables items, u ∈ ts) →
    ∀ σ ∈ itemReferences ρ items, σ.IsRegular ts
  | [], _, _, _, _ => by simp [itemReferences]
  | e :: es, ρ, he, hρ, hts => by
    rw [itemTables, List.forall_mem_append] at hts
    rw [itemReferences, List.forall_mem_append]
    exact ⟨references_isRegular e he.1 hρ hts.1, itemReferences_areRegular es he.2 hρ hts.2⟩

end

end Expr

namespace Query

/-- A reference of a compiled filter binds to the frame that is meant if and only if it is not
captured; and if no two table types of the filter share a name, then all of them bind to the frames
that are meant.

Proof sketch. By induction on the filter, its columns bind as the names of the frames that are meant
do, and a name binds to the innermost frame that has it. The frame that is meant is the innermost
one of its table type, so that only another table type of the same name can stand further inside. -/
theorem bindings_meant_iff {r r' : Registry} {t : TableType} {filter : Expr} {q : Query}
    (hr : r.IsReachable) (h : Query.compile t filter r = (.ok q, r')) :
    List.Forall₂ (fun ρ binding => binding = some ρ.level ↔ ¬ ρ.IsCaptured)
      (filter.references (.start t)) (q.condition.bindings [q.table.name]) ∧
    ((∀ u ∈ t :: filter.tables, ∀ v ∈ t :: filter.tables,
        sameName u.name v.name = true → u = v) →
      q.condition.bindings [q.table.name] =
        (filter.references (.start t)).map fun ρ => some ρ.level) := by
  obtain ⟨table, r₁, hregister, -, tf, w, hf, -, rfl, -⟩ := compile_ok.mp h
  obtain ⟨htable, hr₁⟩ := Registry.register_ok hr.isSound hregister
  have hbindings : tf.condition.bindings [table.name] =
      (filter.references (.start t)).map Reference.binding := by
    rw [(TableType.table_ok_iff.mp htable).1]
    have hframes : ([⟨t, table⟩] : Scope).map (·.type) = (Reference.start t).frames := rfl
    exact Expr.compile_bindings filter hframes (.singleton htable) htable hr₁ hf
  have hinScope : filter.InScope (Reference.start t).frames (Reference.start t).target :=
    (Expr.fits_of_compile filter (.start htable hr₁) .nil hf).1.inScope
  constructor
  · rw [hbindings, List.forall₂_map_right_iff, List.forall₂_same]
    exact fun ρ _ => ρ.binding_eq_iff
  · intro hnames
    have hstart : (Reference.start t).IsRegular (t :: filter.tables) :=
      ⟨List.not_mem_nil, by simp [Reference.frames, Reference.start]⟩
    have hregular := Expr.references_isRegular filter hinScope hstart (by simp_all)
    rw [hbindings]
    exact List.map_congr_left fun ρ hρ =>
      ρ.binding_eq_iff.mpr ((hregular ρ hρ).not_isCaptured hnames)

end Query

namespace Sample

/-- Another declaration over the table of the persons. -/
def personAlias : TableType where
  label := "PersonAlias"
  name := "person"
  columns := [(Column.new "name" (.plain .text)).asKey, .new "age" (.plain .text)]

/-- The persons whose name differs from that of some other row. -/
def namesakes : Expr :=
  Builder.existsRow <| Builder.filter personAlias <|
    .binary ⟨"ne"⟩ .notEqual (Builder.col "name") (Builder.column person "name")

/-- The references of a filter whose table types have different names bind to the frames that are
meant. -/
theorem owners_bindings :
    ∃ q r', Query.compile person owners {} = (.ok q, r') ∧
      q.condition.bindings [q.table.name] =
        (owners.references (.start person)).map fun ρ => some ρ.level := by
  obtain ⟨q, r', h⟩ := exists_compile_owners
  have hnames : ∀ u ∈ person :: owners.tables, ∀ v ∈ person :: owners.tables,
      sameName u.name v.name = true → u = v := by
    simp only [sameName_iff]
    decide
  exact ⟨q, r', h, (Query.bindings_meant_iff ⟨[], rfl⟩ h).2 hnames⟩

/-- A filter with two table types of one name compiles, but its second column binds to the inner
frame, although the outer one is meant: every name is compared with itself. -/
theorem namesakes_captured :
    ∃ q r', Query.compile person namesakes {} = (.ok q, r') ∧
      q.conditionText = "EXISTS(SELECT 1 FROM person WHERE person.name != person.name LIMIT 1)" ∧
      (namesakes.references (.start person)).map Reference.level = [1, 0] ∧
      q.condition.bindings [q.table.name] = [some 1, some 1] := by
  have hlevel : level? "person" ["person", "person"] = some 1 :=
    (level?_eq_iff "person" [] ["person"]).mpr (by simp)
  refine ⟨_, _, rfl, by decide, by decide, ?_⟩
  show [level? "person" ["person", "person"], level? "person" ["person", "person"]] = _
  rw [hlevel]

end Sample

end TypedSql
