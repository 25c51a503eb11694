import TypedSql.Proofs.Query.Ordering
import TypedSql.Proofs.Query.Placement
import TypedSql.Proofs.Query.Spelling

/-!
# Placeholders and parameters

The placeholders in the text of a query and its arena are made apart from each other: positions are
given while the filter is compiled, the text is written from the compiled condition. This file shows
that they fit, in the text of the condition and in that of every use of the query.

## Main definitions

* `Expr.markers` — the parameters of an expression from left to right.

## Main results

* `Expr.compile_numbering` — compilation numbers the markers of an expression.
* `Query.compile_isNumbering` — the placeholders of a query number the markers of its filter.
-/

set_option autoImplicit false

namespace TypedSql

open Sql (Piece StandsApart placeholdersOf)
open Text (IsIdentifier)

namespace Expr

mutual

/-- The parameters of an expression, those of nested queries among them, from left to right. -/
def markers : Expr → List Parameter
  | .literal _ _ | .column _ _ => []
  | .param _ p => [p]
  | .within _ _ e | .not _ e | .nullTest _ _ e | .call _ _ e | .existsIn _ _ e => e.markers
  | .binary _ _ l r | .like _ _ l r => l.markers ++ r.markers
  | .between _ _ e low high => e.markers ++ low.markers ++ high.markers
  | .inList _ _ e items => e.markers ++ itemMarkers items

/-- The parameters of the items of a list. -/
def itemMarkers : List Expr → List Parameter
  | [] => []
  | e :: es => e.markers ++ itemMarkers es

end

/-! ## Compilation numbers the markers -/

mutual

/-- Compilation continues the numbering of what has been placed before with the markers of the
expression, and the positions stand in its condition in the same order. -/
theorem compile_numbering : ∀ (e : Expr) {scope : Scope} {current : Table} {w w' : Workspace}
    {t : Typed} {ps : List Parameter} {ns : List Nat}, w.arena.IsNumbering ps ns →
    e.compile scope current w = (.ok t, w') →
    w'.arena.IsNumbering (ps ++ e.markers) (ns ++ t.condition.positions)
  | .literal _ _, scope, current, w, w', t, ps, ns, hn, h => by
    obtain ⟨⟨⟨s, -, rfl⟩, -⟩, rfl⟩ := compile_literal_ok.mp h
    rwa [← List.append_nil ps, ← List.append_nil ns] at hn
  | .column _ _, scope, current, w, w', t, ps, ns, hn, h => by
    rw [← List.append_nil ps, ← List.append_nil ns] at hn
    obtain ⟨⟨b, -, rfl⟩ | ⟨-, c, -, rfl⟩, rfl⟩ := compile_column_ok.mp h <;> exact hn
  | .within _ u e, scope, current, w, w', t, ps, ns, hn, h => by
    obtain ⟨table, -, h⟩ := compile_within_ok.mp h
    rw [markers]
    exact compile_numbering e hn h
  | .param _ p, scope, current, w, w', t, ps, ns, hn, h => by
    obtain ⟨n, a, hplace, rfl, rfl⟩ := compile_param_ok.mp h
    exact hn.place hplace
  | .not _ e, scope, current, w, w', t, ps, ns, hn, h => by
    obtain ⟨te, he, -, rfl⟩ := compile_not_ok.mp h
    rw [markers, Condition.positions, Condition.leaves]
    exact compile_numbering e hn he
  | .nullTest _ _ e, scope, current, w, w', t, ps, ns, hn, h => by
    obtain ⟨te, he, -, rfl⟩ := compile_nullTest_ok.mp h
    rw [markers, Condition.positions, Condition.leaves]
    exact compile_numbering e hn he
  | .call _ _ e, scope, current, w, w', t, ps, ns, hn, h => by
    obtain ⟨te, he, -, rfl⟩ := compile_call_ok.mp h
    rw [markers, Condition.positions, Condition.leaves]
    exact compile_numbering e hn he
  | .binary _ _ l r, scope, current, w, w', t, ps, ns, hn, h => by
    obtain ⟨tl, w₁, hl, tr, hr, -, rfl⟩ := compile_binary_ok.mp h
    rw [markers, Condition.positions, Condition.leaves, List.filterMap_append, ← List.append_assoc,
      ← List.append_assoc]
    exact compile_numbering r (compile_numbering l hn hl) hr
  | .like _ _ e p, scope, current, w, w', t, ps, ns, hn, h => by
    obtain ⟨te, w₁, he, tp, hp, -, rfl⟩ := compile_like_ok.mp h
    rw [markers, Condition.positions, Condition.leaves, List.filterMap_append, ← List.append_assoc,
      ← List.append_assoc]
    exact compile_numbering p (compile_numbering e hn he) hp
  | .between _ _ e low high, scope, current, w, w', t, ps, ns, hn, h => by
    obtain ⟨te, w₁, he, tl, w₂, hl, th, hh, -, rfl⟩ := compile_between_ok.mp h
    rw [markers, Condition.positions, Condition.leaves, List.filterMap_append,
      List.filterMap_append, ← List.append_assoc, ← List.append_assoc, ← List.append_assoc,
      ← List.append_assoc]
    exact compile_numbering high (compile_numbering low (compile_numbering e hn he) hl) hh
  | .inList _ _ e items, scope, current, w, w', t, ps, ns, hn, h => by
    obtain ⟨-, te, w₁, he, ts, hs, rfl⟩ := compile_inList_ok.mp h
    rw [markers, Typed.inList, Condition.positions, Condition.leaves, List.filterMap_append,
      ← List.append_assoc, ← List.append_assoc]
    exact compileItems_numbering items (compile_numbering e hn he) hs
  | .existsIn _ u filter, scope, current, w, w', t, ps, ns, hn, h => by
    obtain ⟨table, r, -, -, tf, hf, -, rfl⟩ := compile_existsIn_ok.mp h
    rw [markers, Typed.existsIn, Condition.positions, Condition.leaves]
    exact compile_numbering filter (w := ⟨r, w.arena⟩) hn hf

/-- The items of a list go on numbering where what is before them ended. -/
theorem compileItems_numbering : ∀ (items : List Expr) {scope : Scope} {current : Table}
    {site : Site} {construct : Construct} {operand : Typed} {w w' : Workspace} {ts : List Typed}
    {ps : List Parameter} {ns : List Nat}, w.arena.IsNumbering ps ns →
    compileItems scope current site construct operand items w = (.ok ts, w') →
    w'.arena.IsNumbering (ps ++ itemMarkers items)
      (ns ++ (Condition.itemLeaves (ts.map (·.condition))).filterMap Leaf.position?)
  | [], _, _, _, _, _, w, w', ts, ps, ns, hn, h => by
    obtain ⟨rfl, rfl⟩ := compileItems_nil_ok.mp h
    simpa [itemMarkers, Condition.itemLeaves] using hn
  | e :: es, scope, current, site, construct, operand, w, w', ts, ps, ns, hn, h => by
    obtain ⟨te, w₁, he, -, tes, hs, rfl⟩ := compileItems_cons_ok.mp h
    rw [itemMarkers, List.map_cons, Condition.itemLeaves, List.filterMap_append,
      ← List.append_assoc, ← List.append_assoc]
    exact compileItems_numbering es (compile_numbering e hn he) hs

end

end Expr

/-- Compilation adds slots to an arena after those that are there, and leaves these as they are. -/
lemma Compiling.isPath_slots : IsPath fun w w' => w.arena.slots <+: w'.arena.slots where
  refl _ := List.prefix_rfl
  trans _ _ _ := List.IsPrefix.trans
  register _ _ := List.prefix_rfl
  place site p w := by
    unfold place
    split
    · rename_i n a hplace
      rcases Arena.place_cases hplace with ⟨-, rfl, -⟩ | ⟨rfl, -⟩
      · exact List.prefix_append _ _
      · exact List.prefix_rfl
    · exact List.prefix_rfl

namespace Expr

variable {scope : Scope} {current : Table} {w w' : Workspace}

/-- The slots that a compilation starts from are the first ones that it ends with. -/
lemma compile_slots {e : Expr} {result : Except Error Typed}
    (h : e.compile scope current w = (result, w')) : w.arena.slots <+: w'.arena.slots := by
  have hmoves := compile_moves Compiling.isPath_slots e scope current w
  rwa [h] at hmoves

/-- The items of a list add slots behind those that are there. -/
lemma compileItems_slots {items : List Expr} {site : Site} {construct : Construct}
    {operand : Typed} {result : Except Error (List Typed)}
    (h : compileItems scope current site construct operand items w = (result, w')) :
    w.arena.slots <+: w'.arena.slots := by
  have hmoves := compileItems_moves Compiling.isPath_slots items scope current site construct
    operand w
  rwa [h] at hmoves

end Expr

/-! ## Sort keys -/

/-- Adding sort keys, any number of times, changes nothing else of a query, and the sort keys name
columns. -/
lemma Query.orderBy_all {q q' : Query} {requests : List (List OrderRequest)}
    (h : requests.foldlM Query.orderBy q = .ok q') :
    ∃ os : List OrderTerm, (∀ o ∈ os, IsIdentifier o.column) ∧
      { q with order := q.order ++ os } = q' := by
  rw [orderBy_flatten] at h
  obtain ⟨hfits, rfl⟩ := orderBy_ok.mp h
  refine ⟨_, List.forall_mem_map.mpr fun r hr => ?_, rfl⟩
  obtain ⟨c, hc, hname, -⟩ := hfits r hr
  show IsIdentifier r.column
  exact hname ▸ q.table.isIdentifier_column hc

/-! ## Uses of a query -/

namespace Command

variable {table : String} {c : Condition} {order : List OrderTerm}

/-- The words of a table and of its condition can be told apart. -/
lemma standsApart_fromWhere (htable : IsIdentifier table)
    (hc : ∀ x ∈ c.leaves, x.IsProper IsIdentifier) : StandsApart (fromWhere table c) := by
  have hwords : ∀ w ∈ ["FROM", table, "WHERE"], IsIdentifier w := by
    simp only [List.forall_mem_cons, List.not_mem_nil, false_imp_iff, implies_true, and_true]
    exact ⟨by decide, htable, by decide⟩
  exact (StandsApart.words hwords).blank_append.append_blank (Condition.standsApart c hc)

/-- The words of a sort clause can be told apart. -/
lemma standsApart_clause (horder : ∀ o ∈ order, IsIdentifier o.column) :
    StandsApart (OrderTerm.clause order) := by
  unfold OrderTerm.clause
  split
  · exact fun _ _ => trivial
  · refine (StandsApart.words (by decide)).blank_append.append_blank (.commaList ?_)
    intro ps hps
    obtain ⟨o, ho, rfl⟩ := List.mem_map.mp hps
    have hdirection : ∀ w ∈ o.direction.keywords, IsIdentifier w := by
      cases o.direction <;> decide
    exact (StandsApart.word (horder o ho)).append_blank (.words hdirection)

/-- A sort clause starts with a character that ends what stands before it. -/
lemma delimited_clause : Sql.Delimited (Sql.chars (OrderTerm.clause order)) := by
  unfold OrderTerm.clause
  split
  · simp [Sql.Delimited]
  · simpa only [List.append_assoc] using Sql.delimited_blank _

/-- The text of every use of a condition stands apart. -/
lemma standsApart_filter (operation : Operation) (htable : IsIdentifier table)
    (hc : ∀ x ∈ c.leaves, x.IsProper IsIdentifier)
    (horder : ∀ o ∈ order, IsIdentifier o.column) :
    StandsApart (Command.filter operation table c order).pieces := by
  have hfrom := standsApart_fromWhere htable hc
  have hfromBlank : Sql.Delimited (Sql.chars (fromWhere table c)) := by
    simpa only [fromWhere, List.append_assoc] using Sql.delimited_blank _
  have hselect : StandsApart selectAll := (StandsApart.word (by decide)).append_blank (.mark .star)
  have hlimit : StandsApart limitOne :=
    (StandsApart.word (by decide)).blank_append.append_blank (.numeral 1)
  have hlimitBlank : Sql.Delimited (Sql.chars limitOne) := by
    simpa only [limitOne, List.append_assoc] using Sql.delimited_blank _
  have hfind := (hselect.append hfrom hfromBlank).append (standsApart_clause horder)
    delimited_clause
  cases operation with
  | find => exact hfind
  | findOne => exact hfind.append hlimit hlimitBlank
  | existence =>
    have hone : StandsApart (Sql.word "SELECT" ++ Sql.blank ++ Sql.numeral 1) :=
      (StandsApart.word (by decide)).append_blank (.numeral 1)
    exact (StandsApart.words (by decide)).append_blank
      ((hone.append hfrom hfromBlank).append hlimit hlimitBlank).parenthesized
  | delete => exact (StandsApart.word (by decide)).append hfrom hfromBlank

/-- The placeholders of every use of a condition are those of the condition. -/
lemma placeholdersOf_filter (operation : Operation) :
    placeholdersOf (Command.filter operation table c order).pieces = c.positions := by
  have hclause : placeholdersOf (OrderTerm.clause order) = [] := by
    unfold OrderTerm.clause
    split
    · rfl
    · simp [OrderTerm.pieces]
  cases operation <;>
    simp [pieces, filterPieces, selectAll, fromWhere, limitOne, hclause,
      Condition.placeholdersOf_pieces]

end Command

/-! ## Queries -/

namespace Query

variable {r r' : Registry} {t : TableType} {filter : Expr} {q : Query}

/-- The names and literals of a compiled query are proper. -/
lemma compile_leaves (hr : r.IsSound) (h : Query.compile t filter r = (.ok q, r')) :
    ∀ x ∈ q.condition.leaves, x.IsProper IsIdentifier := by
  obtain ⟨table, r₁, hregister, -, tf, w, hf, -, rfl, -⟩ := compile_ok.mp h
  refine Expr.compile_leaves filter (fun _ _ table _ => table.namesAre_isIdentifier) ?_
    table.namesAre_isIdentifier (Registry.register_ok hr hregister).2 hf
  simpa using table.namesAre_isIdentifier

/-- The placeholders in the text of a compiled query, and in the text of each of its uses with any
sort keys, number the markers of its filter from left to right; and compiling any expression in any
scope, successfully or not, only adds slots to the arena that it starts from.

Proof sketch. The text stands apart, so that the placeholders read in it are those at the leaves of
the condition. By induction on the filter, their positions number its markers. -/
theorem compile_isNumbering (hr : r.IsReachable) (h : Query.compile t filter r = (.ok q, r')) :
    (∃ ns, q.arena.IsNumbering filter.markers ns ∧ Sql.placeholders? q.conditionText = some ns ∧
      ∀ (requests : List (List OrderRequest)) (q' : Query),
        requests.foldlM Query.orderBy q = .ok q' → q'.arena = q.arena ∧
          ∀ operation, Sql.placeholders? (q'.command operation).text = some ns) ∧
    ∀ (e : Expr) (scope : Scope) (current : Table) (w : Workspace),
      w.arena.slots <+: (e.compile scope current w).2.arena.slots := by
  have hleaves := compile_leaves hr.isSound h
  refine ⟨⟨q.condition.positions, ?_, ?_, ?_⟩, Expr.compile_moves Compiling.isPath_slots⟩
  · obtain ⟨table, r₁, -, -, tf, w, hf, -, rfl, -⟩ := compile_ok.mp h
    exact Expr.compile_numbering filter Arena.IsNumbering.empty hf
  · rw [← Condition.placeholdersOf_pieces]
    exact (Condition.standsApart q.condition hleaves).placeholders?_spell
  · intro requests q' hq'
    obtain ⟨os, hos, rfl⟩ := orderBy_all hq'
    refine ⟨rfl, fun operation => ?_⟩
    have horder : ∀ o ∈ q.order ++ os, IsIdentifier o.column := by
      obtain ⟨table, r₁, -, -, tf, w, -, -, rfl, -⟩ := compile_ok.mp h
      exact hos
    have hapart := Command.standsApart_filter operation q.table.isIdentifier_name hleaves horder
    rw [← Command.placeholdersOf_filter operation]
    exact hapart.placeholders?_spell

end Query

/-- A filter that uses one parameter inside and outside a nested query compiles from the empty
registry, and its placeholders number its three markers. -/
theorem Sample.owners_isNumbering :
    ∃ q r' ns, Query.compile person owners {} = (.ok q, r') ∧
      q.arena.IsNumbering owners.markers ns ∧ Sql.placeholders? q.conditionText = some ns := by
  obtain ⟨q, r', h⟩ := exists_compile_owners
  obtain ⟨⟨ns, hnumbering, htext, -⟩, -⟩ := Query.compile_isNumbering ⟨[], rfl⟩ h
  exact ⟨q, r', ns, h, hnumbering, htext⟩

end TypedSql
