import TypedSql.Proofs.Query.Spelling
import TypedSql.Proofs.Query.Tracking

/-!
# What a compilation registers

A compilation finds tables in a registry that earlier work has filled, and fills it further. This
file shows that none of it can be seen in the result: the registry is a cache of what the
declarations say. What is new in the registry afterwards are the table types of the query and of its
nested queries, all of them if the filter compiles, else those that were met before the error.

## Main definitions

* `Registry.registered` — the table types of a registry.
* `Registers` — what a computation registers, and the errors that come of it.

## Main results

* `Registers.bind` — a sequence registers what its halves register.
* `Expr.compile_registers` — a compilation registers the table types of its nested queries.
* `Query.compile_transparent` — the earlier work cannot be seen in the result of a compilation.
-/

set_option autoImplicit false

namespace TypedSql

/-- The table types of a registry. -/
def Registry.registered (r : Registry) : Set TableType := {t | (r.find? t).isSome}

/-! ## What a computation registers -/

variable {σ α β : Type}

/-- What a computation registers, in the registry that is a part of its state: some of the given
table types that are valid, and all of them if it succeeds. An error that points to no site is the
fault of the declaration of one of them. -/
structure Registers (registry : σ → Registry) (us : List TableType)
    (x : ExceptT Error (StateM σ) α) : Prop where
  keeps : ∀ s, (registry s).registered ⊆ (registry (x s).2).registered
  adds : ∀ s, ∀ u ∈ (registry (x s).2).registered,
    u ∈ (registry s).registered ∨ u ∈ us ∧ u.IsValid
  all : ∀ s a s', x s = (.ok a, s') → ∀ u ∈ us, u ∈ (registry s').registered
  blames : ∀ s e s', x s = (.error e, s') → e.site? = none →
    ∃ u ∈ us, ∃ fault, u.table = .error fault ∧ e = .schema u.name fault

namespace Registers

variable {registry : σ → Registry} {us vs : List TableType}

/-- A plain value registers nothing. -/
lemma pure (a : α) : Registers registry [] (Pure.pure a : ExceptT Error (StateM σ) α) where
  keeps _ _ := id
  adds _ _ := .inl
  all _ _ _ _ _ hu := nomatch hu
  blames _ _ _ h _ := nomatch h

/-- A computation without a state registers nothing. -/
lemma lift {x : Except Error α} (h : Located x) :
    Registers registry [] (liftM x : ExceptT Error (StateM σ) α) where
  keeps _ _ := id
  adds _ _ := .inl
  all _ _ _ _ _ hu := nomatch hu
  blames s e s' hrun hsite := by
    obtain ⟨rfl, -⟩ := Prod.mk.inj (show (x, s) = (.error e, s') from hrun)
    simpa [hsite] using (h e rfl).1

/-- An error at a site registers nothing. -/
lemma throw (us : List TableType) {e : Error} (h : e.site?.isSome) :
    Registers registry us (MonadExcept.throw e : ExceptT Error (StateM σ) α) where
  keeps _ _ := id
  adds _ _ := .inl
  all _ _ _ h _ _ := nomatch h
  blames _ _ _ hrun hsite := by
    cases hrun
    simp [hsite] at h

/-- A sequence registers what its halves register. -/
theorem bind {x : ExceptT Error (StateM σ) α} {f : α → ExceptT Error (StateM σ) β}
    (hx : Registers registry us x) (hf : ∀ a, Registers registry vs (f a)) :
    Registers registry (us ++ vs) (x >>= f) where
  keeps s := by
    rcases hrun : x s with ⟨e | a, s₁⟩
    · rw [run_bind_of_error hrun]
      simpa [hrun] using hx.keeps s
    · rw [run_bind_of_ok hrun]
      exact Set.Subset.trans (by simpa [hrun] using hx.keeps s) ((hf a).keeps s₁)
  adds s u hu := by
    have hfirst := hx.adds s u
    rcases hrun : x s with ⟨e | a, s₁⟩ <;> rw [hrun] at hfirst
    · rw [run_bind_of_error hrun] at hu
      exact (hfirst hu).imp_right fun h => ⟨List.mem_append_left vs h.1, h.2⟩
    · rw [run_bind_of_ok hrun] at hu
      rcases (hf a).adds s₁ u hu with h | h
      · exact (hfirst h).imp_right fun h => ⟨List.mem_append_left vs h.1, h.2⟩
      · exact .inr ⟨List.mem_append_right us h.1, h.2⟩
  all s b s' hrun u hu := by
    obtain ⟨a, s₁, ha, hb⟩ := run_bind_ok.mp hrun
    rcases List.mem_append.mp hu with hu | hu
    · have hkeeps := (hf a).keeps s₁
      rw [hb] at hkeeps
      exact hkeeps (hx.all s a s₁ ha u hu)
    · exact (hf a).all s₁ b s' hb u hu
  blames s e s' hrun hsite := by
    rcases hfirst : x s with ⟨e₁ | a, s₁⟩
    · rw [run_bind_of_error hfirst] at hrun
      cases hrun
      obtain ⟨u, hu, h⟩ := hx.blames s _ _ hfirst hsite
      exact ⟨u, List.mem_append_left vs hu, h⟩
    · rw [run_bind_of_ok hfirst] at hrun
      obtain ⟨u, hu, h⟩ := (hf a).blames s₁ e s' hrun hsite
      exact ⟨u, List.mem_append_right us hu, h⟩

/-- What is done with the result of a computation without a look at the state registers nothing. -/
lemma bind_lift {x : ExceptT Error (StateM σ) α} {f : α → Except Error β}
    (hx : Registers registry us x) (hf : ∀ a, Located (f a)) :
    Registers registry us (x >>= fun a => liftM (f a)) := by
  have hlift : ∀ a, Registers registry [] (liftM (f a) : ExceptT Error (StateM σ) β) :=
    fun a => lift (hf a)
  simpa using hx.bind hlift

end Registers

/-! ## Registrations -/

namespace Registry

/-- What a registration does: it finds the table, or adds the declared one, or fails with the fault
of the declaration. -/
lemma register_cases (t : TableType) (r : Registry) :
    (∃ table, r.find? t = some table ∧ register t r = (.ok table, r)) ∨
    (∃ table, r.find? t = none ∧ t.table = .ok table ∧
      register t r = (.ok table, r.insert t table)) ∨
    ∃ fault, r.find? t = none ∧ t.table = .error fault ∧
      register t r = (.error (.schema t.name fault), r) := by
  unfold register
  cases hfind : r.find? t with
  | some table => exact .inl ⟨table, rfl, rfl⟩
  | none =>
    cases htable : t.table with
    | ok table => exact .inr (.inl ⟨table, rfl, rfl, rfl⟩)
    | error fault => exact .inr (.inr ⟨fault, rfl, rfl, rfl⟩)

/-- A table that is added is registered for its table type. -/
lemma mem_registered_insert {r : Registry} {t u : TableType} {table : Table} :
    u ∈ (r.insert t table).registered ↔ u ∈ r.registered ∨ u = t := by
  simp only [registered, Set.mem_ofPred_eq, find?_insert, Option.isSome_or, Bool.or_eq_true]
  split <;> simp_all

/-- Registration adds a valid table type, or fails with the fault of its declaration. -/
lemma register_registers (t : TableType) : Registers id [t] (register t) where
  keeps r u hu := by
    rcases register_cases t r with ⟨table, -, h⟩ | ⟨table, -, -, h⟩ | ⟨fault, -, -, h⟩ <;> rw [h]
    · exact hu
    · exact mem_registered_insert.mpr (.inl hu)
    · exact hu
  adds r u hu := by
    rcases register_cases t r with ⟨table, -, h⟩ | ⟨table, -, htable, h⟩ | ⟨fault, -, -, h⟩ <;>
      rw [h] at hu
    · exact .inl hu
    · refine (mem_registered_insert.mp hu).imp_right ?_
      rintro rfl
      exact ⟨List.mem_singleton_self u, TableType.isValid_iff.mpr ⟨table, htable⟩⟩
    · exact .inl hu
  all r found r' hrun u hu := by
    obtain rfl := List.mem_singleton.mp hu
    rcases register_cases u r with ⟨table, hfind, h⟩ | ⟨table, -, -, h⟩ | ⟨fault, -, -, h⟩ <;>
      obtain ⟨-, rfl⟩ := Prod.mk.inj (h.symm.trans hrun)
    · exact Option.isSome_of_eq_some hfind
    · exact mem_registered_insert.mpr (.inr rfl)
    · cases h.symm.trans hrun
  blames r e r' hrun _ := by
    refine ⟨t, List.mem_singleton_self t, ?_⟩
    rcases register_cases t r with ⟨table, -, h⟩ | ⟨table, -, -, h⟩ | ⟨fault, -, hfault, h⟩ <;>
      cases h.symm.trans hrun
    exact ⟨fault, hfault, rfl⟩

/-- An event registers nothing. -/
lemma logEvent_registers (e : Event) : Registers id [] (logEvent e) where
  keeps _ _ := id
  adds _ _ := .inl
  all _ _ _ _ _ hu := nomatch hu
  blames _ _ _ h _ := nomatch h

end Registry

/-- A parameter that cannot be placed is reported at its site. -/
lemma Arena.located_place {a : Arena} {site : Site} {p : Parameter} {e : Error}
    (h : a.place site p = .error e) : e.site? = some site := by
  unfold place at h
  split at h
  · cases h
  · split at h
    · cases h
    · split at h
      · cases h
        rfl
      · split at h <;> cases h
        rfl

namespace Compiling

/-- Placing a parameter registers nothing. -/
lemma place_registers (site : Site) (p : Parameter) :
    Registers Workspace.registry [] (place site p) where
  keeps w u hu := by
    simp only [place]
    split <;> exact hu
  adds w u hu := by
    simp only [place] at hu
    split at hu <;> exact .inl hu
  all _ _ _ _ _ hu := nomatch hu
  blames w e w' h hsite := by
    simp only [place] at h
    split at h <;> cases h
    rename_i hplace
    rw [Arena.located_place hplace] at hsite
    cases hsite

/-- A registration in a compilation registers its table type. -/
lemma register_registers (t : TableType) :
    Registers Workspace.registry [t] (register t) where
  keeps w := (Registry.register_registers t).keeps w.registry
  adds w := (Registry.register_registers t).adds w.registry
  all w table w' h := by
    obtain ⟨r, hrun, rfl⟩ := register_ok.mp h
    exact (Registry.register_registers t).all w.registry table r hrun
  blames w e w' h := by
    rcases hrun : Registry.register t w.registry with ⟨result, r⟩
    simp only [register, hrun] at h
    obtain ⟨rfl, -⟩ := Prod.mk.inj h
    exact (Registry.register_registers t).blames w.registry e r hrun

end Compiling

namespace Expr

/-- A complete filter registers what its expression registers. -/
lemma complete_registers (filter : Expr) {x : Compiling Typed} {us : List TableType}
    (hx : Registers Workspace.registry us x) :
    Registers Workspace.registry us (Compiling.complete filter x) := by
  have rest : Registers Workspace.registry us (x >>= fun t => do
      t.requireScalar filter.site .filter .boolean
      return t) := by
    simpa using hx.bind fun t =>
      (Registers.lift (Typed.located_requireScalar rfl _ t)).bind fun _ => Registers.pure t
  unfold Compiling.complete
  split
  · exact (Registers.throw [] rfl).bind fun _ => rest
  · exact rest

mutual

/-- A compilation registers the table types of the nested queries. -/
theorem compile_registers : ∀ (e : Expr) (scope : Scope) (current : Table),
    Registers Workspace.registry e.tables (e.compile scope current)
  | .literal _ v, _, _ => by
    rw [compile, tables]
    exact .lift (Typed.located_literal v)
  | .column _ name, _, current => by
    rw [compile, tables]
    exact .lift (Typed.located_column current name)
  | .within _ t inner, scope, _ => by
    rw [compile, tables]
    cases scope.find? t with
    | none => exact .throw inner.tables rfl
    | some table => exact compile_registers inner scope table
  | .param site p, _, _ => by
    rw [compile, tables]
    exact (Compiling.place_registers site p).bind fun _ => .pure _
  | .not _ e, scope, current => by
    rw [compile, tables]
    exact (compile_registers e scope current).bind_lift Typed.located_not
  | .nullTest _ test e, scope, current => by
    rw [compile, tables]
    exact (compile_registers e scope current).bind_lift (Typed.located_nullTest test)
  | .call _ f e, scope, current => by
    rw [compile, tables]
    exact (compile_registers e scope current).bind_lift (Typed.located_call f)
  | .binary _ op l r, scope, current => by
    rw [compile, tables]
    exact (compile_registers l scope current).bind fun _ =>
      (compile_registers r scope current).bind_lift (Typed.located_binary op _)
  | .like _ negated e p, scope, current => by
    rw [compile, tables]
    exact (compile_registers e scope current).bind fun _ =>
      (compile_registers p scope current).bind_lift (Typed.located_like negated _)
  | .between _ negated e low high, scope, current => by
    rw [compile, tables, List.append_assoc]
    exact (compile_registers e scope current).bind fun _ =>
      (compile_registers low scope current).bind fun _ =>
      (compile_registers high scope current).bind_lift (Typed.located_between negated _ _)
  | .inList site negated e items, scope, current => by
    -- an empty list is refused before anything is registered
    have rest : Registers Workspace.registry (e.tables ++ (itemTables items ++ []))
        (e.compile scope current >>= fun t => do
          let ts ← compileItems scope current site (.inList negated) t items
          return t.inList negated ts) :=
      (compile_registers e scope current).bind fun t =>
        (compileItems_registers items scope current site (.inList negated) rfl t).bind fun _ =>
        .pure _
    rw [List.append_nil] at rest
    rw [compile, tables]
    split
    · exact (Registers.throw [] rfl).bind fun _ => rest
    · exact rest
  | .existsIn _ t filter, scope, current => by
    have rest : ∀ table, Registers Workspace.registry (filter.tables ++ []) (do
        let filter ← Compiling.complete filter (filter.compile (⟨t, table⟩ :: scope) table)
        return Typed.existsIn table filter) := fun table =>
      (complete_registers filter
        (compile_registers filter (⟨t, table⟩ :: scope) table)).bind fun _ => .pure _
    simp only [List.append_nil] at rest
    rw [compile, tables]
    exact (Compiling.register_registers t).bind rest

/-- The items of a list register the table types of their nested queries. -/
theorem compileItems_registers : ∀ (items : List Expr) (scope : Scope) (current : Table)
    (site : Site) (construct : Construct) (_ : construct.parameter? = none) (operand : Typed),
    Registers Workspace.registry (itemTables items)
      (compileItems scope current site construct operand items)
  | [], _, _, _, _, _, _ => by
    rw [compileItems, itemTables]
    exact .pure []
  | e :: es, scope, current, site, construct, hc, operand => by
    have rest : ∀ te, Registers Workspace.registry ([] ++ (itemTables es ++ [])) (do
        Typed.requireComparable site construct operand te
        let tes ← compileItems scope current site construct operand es
        return te :: tes) := fun te =>
      (Registers.lift (Typed.located_requireComparable hc operand te)).bind fun _ =>
        (compileItems_registers es scope current site construct hc operand).bind fun _ => .pure _
    simp only [List.append_nil, List.nil_append] at rest
    rw [compileItems, itemTables]
    exact (compile_registers e scope current).bind rest

end

/-- An expression is alike to itself if every parameter is related to itself. -/
lemma alike_self {R : Parameter → Parameter → Prop} (hR : ∀ p, R p p) :
    ∀ e : Expr, Alike R e e
  | .literal s v => .literal s v
  | .column s name => .column s name
  | .within s u e => .within s u (alike_self hR e)
  | .param s p => .param s (hR p)
  | .not s e => .not s (alike_self hR e)
  | .binary s op l r => .binary s op (alike_self hR l) (alike_self hR r)
  | .nullTest s test e => .nullTest s test (alike_self hR e)
  | .like s negated e p => .like s negated (alike_self hR e) (alike_self hR p)
  | .between s negated e low high =>
    .between s negated (alike_self hR e) (alike_self hR low) (alike_self hR high)
  | .inList s negated e items => .inList s negated (alike_self hR e) (itemsAlike_self hR items)
  | .call s f e => .call s f (alike_self hR e)
  | .existsIn s u e => .existsIn s u (alike_self hR e)
where
  itemsAlike_self {R : Parameter → Parameter → Prop} (hR : ∀ p, R p p) :
      ∀ es : List Expr, ItemsAlike R es es
    | [] => .nil
    | e :: es => .cons (alike_self hR e) (itemsAlike_self hR es)

end Expr

/-! ## Queries -/

/-- Compilations of one expression from any two sound registries keep side by side. -/
lemma Compiling.isTracking_self : IsTracking (Workspace.Related Eq) Eq id := by
  refine isTracking_related (fun a a' site p p' hslots hp => ?_) (fun _ _ h => h ▸ rfl)
    fun _ _ => rfl
  obtain rfl : p = p' := hp
  obtain rfl : a = a' := by
    cases a
    cases a'
    exact congrArg Arena.mk (List.forall₂_eq_eq_eq ▸ hslots)
  cases hplace : a.place site p with
  | ok r => exact .inl ⟨r.1, r.2, r.2, rfl, rfl, List.forall₂_same.mpr fun _ _ => rfl⟩
  | error e => exact .inr ⟨e, rfl, rfl⟩

namespace Query

/-- A query over a table registers the table types of its nested queries. -/
lemma compileOver_registers (t : TableType) (table : Table) (filter : Expr) :
    Registers id filter.tables (compileOver t table filter) := by
  have hfilter : Registers Workspace.registry filter.tables
      (filter.compileFilter [⟨t, table⟩] table) :=
    Expr.complete_registers filter (Expr.compile_registers filter _ table)
  refine ⟨fun r => hfilter.keeps ⟨r, {}⟩, fun r => hfilter.adds ⟨r, {}⟩, ?_, ?_⟩
  · intro r q r' h
    rcases hrun : filter.compileFilter [⟨t, table⟩] table ⟨r, {}⟩ with ⟨e | tf, w⟩
    · cases (compileOver_of_error hrun).symm.trans h
    · obtain ⟨-, rfl⟩ := Prod.mk.inj ((compileOver_of_ok hrun).symm.trans h)
      exact hfilter.all ⟨r, {}⟩ tf w hrun
  · intro r e r' h
    rcases hrun : filter.compileFilter [⟨t, table⟩] table ⟨r, {}⟩ with ⟨e₁ | tf, w⟩
    · obtain ⟨heq, -⟩ := Prod.mk.inj ((compileOver_of_error hrun).symm.trans h)
      cases heq
      exact hfilter.blames ⟨r, {}⟩ e w hrun
    · cases (compileOver_of_ok hrun).symm.trans h

/-- A compilation registers the table types of the query and of its nested queries. -/
lemma compile_registers (t : TableType) (filter : Expr) :
    Registers id (t :: filter.tables) (compile t filter) := by
  have rest : ∀ table, Registers id (filter.tables ++ ([] ++ [])) (do
      let q ← compileOver t table filter
      Registry.logEvent (.compiled table.name q.conditionText q.arena.size)
      return q) := fun table =>
    (compileOver_registers t table filter).bind fun q =>
      (Registry.logEvent_registers _).bind fun _ => .pure q
  simp only [List.append_nil] at rest
  exact (Registry.register_registers t).bind rest

/-- A compilation has the same result from every two sound registries. -/
lemma compile_eq {r r' : Registry} (hr : r.IsSound) (hr' : r'.IsSound) (t : TableType)
    (filter : Expr) : (compile t filter r).1 = (compile t filter r').1 := by
  have halike : Expr.Alike Eq filter filter := Expr.alike_self (fun _ => rfl) filter
  rcases compile_alike Compiling.isTracking_self halike hr hr' t with
    ⟨q, q', s, s', hq, hq', heq, hslots⟩ | ⟨e, s, s', he, he'⟩
  · have harena : q'.arena = q.arena := by
      rw [List.forall₂_eq_eq_eq] at hslots
      exact congrArg Arena.mk hslots.symm
    rw [hq, hq', heq, harena]
  · rw [he, he', id]

/-- The earlier work on a registry cannot be seen in the result of a compilation, neither in the
query nor in the error. After a success, the table types of the query and of its nested queries have
been added to the registry; after an error, some of them have, all of which are valid.

*Proof sketch.* From sound registries a registration gives what the declaration says, so the two
compilations keep side by side, with equal arenas. What is registered adds up along a sequence of
computations, which stops at the first error. -/
theorem compile_transparent {r r' : Registry} (hr : r.IsReachable) (hr' : r'.IsReachable)
    (t : TableType) (filter : Expr) :
    (compile t filter r).1 = (compile t filter r').1 ∧
    (∀ q s, compile t filter r = (.ok q, s) →
      s.registered = r.registered ∪ {u | u ∈ t :: filter.tables}) ∧
    ∀ e s, compile t filter r = (.error e, s) →
      ∃ us ⊆ {u | u ∈ t :: filter.tables}, (∀ u ∈ us, u.IsValid) ∧
        s.registered = r.registered ∪ us := by
  have hregisters := compile_registers t filter
  have hkeeps := hregisters.keeps r
  have hadds := hregisters.adds r
  refine ⟨compile_eq hr.isSound hr'.isSound t filter, fun q s hrun => ?_, fun e s hrun => ?_⟩ <;>
    rw [hrun] at hkeeps hadds
  · refine Set.Subset.antisymm (fun u hu => ?_) (Set.union_subset hkeeps fun u hu => ?_)
    · exact (hadds u hu).imp_right And.left
    · exact hregisters.all r q s hrun u hu
  · refine ⟨{u | u ∈ t :: filter.tables ∧ u.IsValid ∧ u ∈ s.registered}, fun u hu => hu.1,
      fun u hu => hu.2.1, Set.Subset.antisymm (fun u hu => ?_) (Set.union_subset hkeeps ?_)⟩
    · exact (hadds u hu).imp_right fun h => ⟨h.1, h.2, hu⟩
    · exact fun u hu => hu.2.2

end Query

namespace Sample

/-- The owners have one query, whether or not pets have been used before. -/
theorem owners_transparent :
    Registry.IsReachable {} ∧ Registry.IsReachable ((Registry.Call.register pet).run {}) ∧
      (Query.compile person owners {}).1 =
        (Query.compile person owners ((Registry.Call.register pet).run {})).1 ∧
      ∃ q s, Query.compile person owners {} = (.ok q, s) ∧
        s.registered = {u | u ∈ [person, pet]} := by
  have hempty : Registry.IsReachable {} := ⟨[], rfl⟩
  have hpet : Registry.IsReachable ((Registry.Call.register pet).run {}) := ⟨[.register pet], rfl⟩
  obtain ⟨hresult, hok, -⟩ := Query.compile_transparent hempty hpet person owners
  obtain ⟨q, s, hrun⟩ := exists_compile_owners
  refine ⟨hempty, hpet, hresult, q, s, hrun, ?_⟩
  have htables : owners.tables = [pet] := rfl
  have hnone : Registry.registered {} = ∅ := by
    ext u
    simp [Registry.registered, Registry.find?]
  rw [hok q s hrun, htables, hnone, Set.empty_union]

end Sample

end TypedSql
