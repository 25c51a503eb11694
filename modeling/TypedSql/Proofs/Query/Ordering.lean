import TypedSql.Query.Basic
import TypedSql.Proofs.Computation
import TypedSql.Proofs.Schema.Reachable

/-!
# Adding sort keys

Sort keys are checked one after another against the table of a query, and the first one that cannot
be used stops the check. So it makes no difference whether sort keys are added at once or in parts.
This file says which sort keys can be used, what is added for them, and which error the others
give.

## Main definitions

* `OrderRequest.Fits` — a sort key that can be used with a table.
* `OrderRequest.IsRefused` — the error that a sort key gives otherwise.
* `OrderRequest.term` — the sort key that is added.

## Main results

* `OrderRequest.resolveAll_ok`, `OrderRequest.resolveAll_error` — the outcome of the checks.
* `Query.orderBy_append`, `Query.orderBy_flatten` — sort keys may be added in parts.
* `Query.orderBy_exact` — all that the addition of sort keys does.
-/

set_option autoImplicit false

namespace TypedSql

namespace OrderRequest

variable {table : Table} {r : OrderRequest} {rs : List OrderRequest} {o : OrderTerm}
  {os : List OrderTerm} {e : Error}

/-- Whether the table has the column, and the column takes NULL if the direction says where NULL
stands. -/
def Fits (table : Table) (r : OrderRequest) : Prop :=
  ∃ c ∈ table.columns, c.name = r.column ∧
    (r.direction = .nullsFirst ∨ r.direction = .nullsLast → c.kind.isNullable = true)

instance (table : Table) (r : OrderRequest) : Decidable (r.Fits table) :=
  inferInstanceAs (Decidable (∃ c ∈ table.columns, _ ∧ _))

/-- What is wrong with a sort key for a table, told at the site of the sort key. -/
inductive IsRefused (table : Table) (r : OrderRequest) : Error → Prop
  /-- There is no column of the name. -/
  | unknown (h : ∀ c ∈ table.columns, c.name ≠ r.column) :
    IsRefused table r (.unknownColumn r.site r.column table.name)
  /-- The column never is NULL. -/
  | notNullable {c : Column} (hc : c ∈ table.columns) (hname : c.name = r.column)
    (hdirection : r.direction = .nullsFirst ∨ r.direction = .nullsLast)
    (hkind : c.kind.isNullable = false) : IsRefused table r (.notNullable r.site r.column)

/-- The sort key as it is added to a query. -/
def term (r : OrderRequest) : OrderTerm := ⟨r.column, r.direction⟩

/-! ## One sort key -/

/-- Only the directions that place NULL need a column that admits it. -/
lemma requiresNullable_iff {d : Direction} :
    d.requiresNullable = true ↔ d = .nullsFirst ∨ d = .nullsLast := by
  cases d <;> simp [Direction.requiresNullable]

/-- A column that is not found is not there. -/
lemma column?_eq_none_iff : table.column? r.column = none ↔
    ∀ c ∈ table.columns, c.name ≠ r.column := by
  simp [Table.column?]

/-- A sort key passes the check if and only if it fits, and is kept as it is. -/
lemma resolve_ok : resolve table r = .ok o ↔ r.Fits table ∧ r.term = o := by
  unfold resolve Fits
  cases hcolumn : table.column? r.column with
  | none =>
    have hnone := column?_eq_none_iff.mp hcolumn
    refine iff_of_false nofun ?_
    rintro ⟨⟨c, hc, hname, -⟩, -⟩
    exact hnone c hc hname
  | some c =>
    obtain ⟨hc, hname⟩ := Table.column?_eq_some_iff.mp hcolumn
    -- the column that is found is the only one of its name
    have honly : ∀ d ∈ table.columns, d.name = r.column → d = c := fun d hd hdname =>
      Option.some.inj ((Table.column?_eq_some_iff.mpr ⟨hd, hdname⟩).symm.trans hcolumn)
    simp only [Bool.and_eq_true, Bool.not_eq_true', requiresNullable_iff]
    split
    · rename_i hrefused
      refine iff_of_false nofun ?_
      rintro ⟨⟨d, hd, hdname, hnull⟩, -⟩
      cases honly d hd hdname
      exact Bool.false_ne_true (hrefused.2.symm.trans (hnull hrefused.1))
    · rename_i hpassed
      have hfits : ∃ d ∈ table.columns, d.name = r.column ∧
          (r.direction = .nullsFirst ∨ r.direction = .nullsLast → d.kind.isNullable = true) :=
        ⟨c, hc, hname, fun hdirection => by simpa [hdirection] using hpassed⟩
      rw [Except.ok.injEq, hname]
      exact ⟨fun h => ⟨hfits, h⟩, fun h => h.2⟩

/-- A sort key fails the check if and only if there is something wrong with it. -/
lemma resolve_error : resolve table r = .error e ↔ r.IsRefused table e := by
  constructor
  · intro h
    unfold resolve at h
    split at h
    · rename_i hcolumn
      cases h
      exact .unknown (column?_eq_none_iff.mp hcolumn)
    · rename_i c hcolumn
      obtain ⟨hc, hname⟩ := Table.column?_eq_some_iff.mp hcolumn
      split at h
      · rename_i hrefused
        simp only [Bool.and_eq_true, Bool.not_eq_true', requiresNullable_iff] at hrefused
        cases h
        rw [hname]
        exact .notNullable hc hname hrefused.1 hrefused.2
      · cases h
  · rintro (hnone | ⟨hc, hname, hdirection, hkind⟩)
    · rw [resolve, column?_eq_none_iff.mpr hnone]
    · rw [resolve, Table.column?_eq_some_iff.mpr ⟨hc, hname⟩]
      simp [requiresNullable_iff.mpr hdirection, hkind, hname]

/-! ## Several sort keys -/

/-- Sort requests are resolved from the first to the last. -/
lemma resolveAll_cons : resolveAll table (r :: rs) = do
    let o ← resolve table r
    let os ← resolveAll table rs
    return o :: os := List.mapM_cons

/-- Sort keys pass the check if and only if all of them fit, and each is kept in its place. -/
theorem resolveAll_ok :
    resolveAll table rs = .ok os ↔ (∀ r ∈ rs, r.Fits table) ∧ rs.map term = os :=
  except_mapM_ok fun _ _ => resolve_ok

/-- Sort keys fail the check with what is wrong with the first one that does not fit. -/
theorem resolveAll_error : resolveAll table rs = .error e ↔
    ∃ before r after, rs = before ++ r :: after ∧ (∀ b ∈ before, b.Fits table) ∧
      r.IsRefused table e := by
  induction rs with
  | nil => simp [resolveAll, pure, Except.pure]
  | cons r rs ih =>
    simp only [resolveAll_cons, except_bind_error, resolve_error, resolve_ok, ih]
    constructor
    · rintro (hr | ⟨_, ⟨hr, -⟩, ⟨before, s, after, rfl, hbefore, hs⟩ | ⟨_, -, h⟩⟩)
      · exact ⟨[], r, rs, rfl, by simp, hr⟩
      · exact ⟨r :: before, s, after, rfl, List.forall_mem_cons.mpr ⟨hr, hbefore⟩, hs⟩
      · cases h
    · rintro ⟨before, s, after, hrs, hbefore, hs⟩
      cases before with
      | nil =>
        obtain ⟨rfl, -⟩ := List.cons.inj hrs
        exact .inl hs
      | cons b before =>
        obtain ⟨rfl, rfl⟩ := List.cons.inj hrs
        obtain ⟨hb, hbefore⟩ := List.forall_mem_cons.mp hbefore
        exact .inr ⟨_, ⟨hb, rfl⟩, .inl ⟨before, s, after, rfl, hbefore, hs⟩⟩

end OrderRequest

/-! ## The sort keys of a query -/

namespace Query

open OrderRequest (Fits IsRefused resolveAll resolveAll_ok resolveAll_error term)

variable {q q' : Query} {xs ys : List OrderRequest} {e : Error}

/-- Sort keys that all fit come after those that are there, and nothing else changes. -/
lemma orderBy_ok : q.orderBy xs = .ok q' ↔
    (∀ r ∈ xs, r.Fits q.table) ∧ q' = { q with order := q.order ++ xs.map term } := by
  simp only [orderBy, except_bind_ok, except_pure_ok, resolveAll_ok]
  constructor
  · rintro ⟨_, ⟨hfits, rfl⟩, rfl⟩
    exact ⟨hfits, rfl⟩
  · rintro ⟨hfits, rfl⟩
    exact ⟨_, ⟨hfits, rfl⟩, rfl⟩

/-- The first sort key that does not fit says why nothing is added. -/
lemma orderBy_error : q.orderBy xs = .error e ↔
    ∃ before r after, xs = before ++ r :: after ∧ (∀ b ∈ before, b.Fits q.table) ∧
      r.IsRefused q.table e := by
  rw [← resolveAll_error, orderBy, except_bind_error]
  simp [pure, Except.pure]

/-- Sort keys may be added in two parts. -/
theorem orderBy_append (q : Query) (xs ys : List OrderRequest) :
    q.orderBy (xs ++ ys) = q.orderBy xs >>= fun q' => q'.orderBy ys := by
  have happend : resolveAll q.table (xs ++ ys) = do
      let os ← resolveAll q.table xs
      let os' ← resolveAll q.table ys
      return os ++ os' := List.mapM_append
  simp only [orderBy, happend, bind_assoc, pure_bind, List.append_assoc]

/-- Sort keys that are added one list after another are added at once. -/
theorem orderBy_flatten (q : Query) (requests : List (List OrderRequest)) :
    requests.foldlM orderBy q = q.orderBy requests.flatten := by
  induction requests generalizing q with
  | nil => exact (orderBy_ok.mpr ⟨by simp, by simp⟩).symm
  | cons xs requests ih =>
    rw [List.flatten_cons, orderBy_append, List.foldlM_cons]
    exact bind_congr ih

/-- The addition of sort keys to a query. It may be made in two parts. It succeeds if and only if
every sort key fits the table; then one sort key for each comes after those that are there, in
order, and the query is otherwise the same. It fails if and only if a sort key does not fit, with
the error of the first one.

*Proof sketch.* The check of one sort key finds the only column of its name. A check of several goes
through them in order, so by induction it gives each its place, or stops at the first that is
refused; and a check of two parts is that of one after the other, since both look at the same
table. -/
theorem orderBy_exact (q : Query) (xs ys : List OrderRequest) :
    q.orderBy (xs ++ ys) = (q.orderBy xs >>= fun q' => q'.orderBy ys) ∧
    ((∃ q', q.orderBy xs = .ok q') ↔ ∀ r ∈ xs, r.Fits q.table) ∧
    (∀ q', q.orderBy xs = .ok q' → q' = { q with order := q.order ++ xs.map term }) ∧
    ∀ e, q.orderBy xs = .error e ↔ ∃ before r after, xs = before ++ r :: after ∧
      (∀ b ∈ before, b.Fits q.table) ∧ r.IsRefused q.table e := by
  refine ⟨orderBy_append q xs ys, ?_, fun q' h => (orderBy_ok.mp h).2, fun e => orderBy_error⟩
  constructor
  · rintro ⟨q', h⟩
    exact (orderBy_ok.mp h).1
  · exact fun h => ⟨_, orderBy_ok.mpr ⟨h, rfl⟩⟩

end Query

namespace Sample

/-- The names of persons downwards. -/
def byName : OrderRequest := ⟨"name", .descending, ⟨"desc"⟩⟩

/-- Unknown ages last, then the names, and the names once more; but not the unknown names first. -/
theorem owners_ordered : ∃ q r', Query.compile person owners {} = (.ok q, r') ∧
    (∃ q', q.orderBy [⟨"age", .nullsLast, ⟨"nulls_last"⟩⟩, byName, byName] = .ok q' ∧
      q'.order = [⟨"age", .nullsLast⟩, ⟨"name", .descending⟩, ⟨"name", .descending⟩]) ∧
    q.orderBy [byName, ⟨"name", .nullsFirst, ⟨"nulls_first"⟩⟩, ⟨"shoe", .ascending, ⟨"asc"⟩⟩] =
      .error (.notNullable ⟨"nulls_first"⟩ "name") := by
  obtain ⟨q, r', h⟩ := exists_compile_owners
  obtain ⟨htable, horder⟩ : q.table = persons ∧ q.order = [] := by
    obtain ⟨table, r₁, hregister, -, tf, w, -, -, rfl, -⟩ := Query.compile_ok.mp h
    exact ⟨Except.ok.inj (Registry.register_ok (Registry.IsReachable.isSound ⟨[], rfl⟩)
      hregister).1.symm, rfl⟩
  refine ⟨q, r', h, ?_, ?_⟩
  · obtain ⟨-, hfits, hterms, -⟩ :=
      Query.orderBy_exact q [⟨"age", .nullsLast, ⟨"nulls_last"⟩⟩, byName, byName] []
    obtain ⟨q', hq'⟩ := hfits.mpr (by rw [htable]; decide)
    exact ⟨q', hq', by rw [hterms q' hq', horder]; rfl⟩
  · obtain ⟨-, -, -, herror⟩ := Query.orderBy_exact q
      [byName, ⟨"name", .nullsFirst, ⟨"nulls_first"⟩⟩, ⟨"shoe", .ascending, ⟨"asc"⟩⟩] []
    refine (herror _).mpr ⟨[byName], _, _, rfl, by rw [htable]; decide, ?_⟩
    rw [htable]
    exact .notNullable (c := .new "name" (.plain .text)) (by decide) rfl (.inl rfl) rfl

end Sample

end TypedSql
