import Mathlib.Data.List.Induction
import TypedSql.Proofs.Query.Relocation
import TypedSql.Proofs.Query.WellFormed
import TypedSql.Proofs.Sql.Renumbering

/-!
# Nested filters

A filter means the same inside of `EXISTS` as by itself: whatever the frames around it, the current
table and the parameters placed before it, it compiles to the same text, but for the positions of
its placeholders. It fails only if one of its names has been used for another kind, or captured in
one place and not in the other.

## Main definitions

* `Condition.renumber` — a condition whose placeholders have other positions.

## Main results

* `Condition.text_renumber` — the text of a renumbered condition.
* `Expr.compile_relocated` — an expression compiles in every wider context, up to positions.
* `Query.compile_existsIn` — a nested filter means the same as a standalone one.
-/

set_option autoImplicit false

namespace TypedSql

open Sql (Piece renumberPieces)

/-! ## Conditions with other positions -/

namespace Condition

variable (s : Nat → Nat)

mutual

/-- A condition whose placeholders have other positions. -/
def renumber : Condition → Condition
  | .literal v => .literal v
  | .column table name => .column table name
  | .placeholder n => .placeholder (s n)
  | .not e => .not e.renumber
  | .binary op l r => .binary op l.renumber r.renumber
  | .isNull negated e => .isNull negated e.renumber
  | .like negated e p => .like negated e.renumber p.renumber
  | .between negated e low high => .between negated e.renumber low.renumber high.renumber
  | .inList negated e items => .inList negated e.renumber (renumberItems items)
  | .call f e => .call f e.renumber
  | .existsIn table e => .existsIn table e.renumber

/-- The items of a list with other positions. -/
def renumberItems : List Condition → List Condition
  | [] => []
  | e :: es => e.renumber :: renumberItems es

end

/-- The items of a list are renumbered one by one. -/
lemma renumberItems_eq_map (es : List Condition) : renumberItems s es = es.map (renumber s) := by
  induction es with
  | nil => rfl
  | cons e es ih => rw [renumberItems, ih, List.map_cons]

/-- Other positions do not change how tightly a condition binds. -/
lemma level_renumber (c : Condition) : (c.renumber s).level = c.level := by
  cases c <;> rfl

/-- Parentheses do not change when placeholders are renumbered. -/
@[simp]
lemma renumberPieces_wrap (needed level : Nat) (ps : List Piece) :
    renumberPieces s (wrap needed level ps) = wrap needed level (renumberPieces s ps) := by
  unfold wrap
  split
  · exact Sql.renumberPieces_parenthesized s ps
  · rfl

/-- The words of a test have no placeholders. -/
@[simp]
lemma renumberPieces_testWords (negated : Bool) (ws : List String) :
    renumberPieces s (testWords negated ws) = testWords negated ws :=
  Sql.renumberPieces_words s _

/-- A literal is no placeholder. -/
lemma renumber_lexeme_literal (v : Cell) : v.lexeme.renumber s = v.lexeme := by
  cases v <;> rfl

mutual

/-- The pieces of a renumbered condition are those of the condition with other positions. -/
theorem pieces_renumber : ∀ c : Condition, (c.renumber s).pieces = renumberPieces s c.pieces
  | .literal v => by
    rw [renumber, pieces, renumberPieces, List.map_singleton, Piece.renumber,
      renumber_lexeme_literal]
  | .column _ _ => rfl
  | .placeholder _ => rfl
  | .not e | .isNull _ e | .call _ e => by
    simp [renumber, pieces, pieces_renumber e, level_renumber]
  | .binary op l r => by
    have hop : renumberPieces s [.lexeme op.lexeme] = [.lexeme op.lexeme] := by
      cases op <;> rfl
    simp only [renumber, pieces, Sql.renumberPieces_append, renumberPieces_wrap, hop,
      Sql.renumberPieces_blank, pieces_renumber l, pieces_renumber r, level_renumber]
  | .like _ l r => by
    simp [renumber, pieces, pieces_renumber l, pieces_renumber r, level_renumber]
  | .between _ e low high => by
    simp [renumber, pieces, pieces_renumber e, pieces_renumber low, pieces_renumber high,
      level_renumber]
  | .inList _ e items => by
    simp [renumber, pieces, pieces_renumber e, itemPieces_renumber items, level_renumber]
  | .existsIn table e => by
    simp [renumber, pieces, pieces_renumber e]

/-- The items of a list that are renumbered are written with renumbered placeholders. -/
theorem itemPieces_renumber : ∀ es : List Condition,
    itemPieces (renumberItems s es) = (itemPieces es).map (renumberPieces s)
  | [] => rfl
  | e :: es => by
    simp [renumberItems, itemPieces, pieces_renumber e, itemPieces_renumber es]

end

/-- The text of a renumbered condition with proper leaves is its text with other positions. -/
theorem text_renumber {c : Condition} (h : ∀ x ∈ c.leaves, x.IsProper Text.IsIdentifier) :
    (c.renumber s).text = Sql.renumber s c.text := by
  rw [text, text, pieces_renumber, Sql.renumber_spell s (standsApart c h)]

end Condition

/-- A typed condition with other positions. -/
def Typed.renumber (s : Nat → Nat) (t : Typed) : Typed := ⟨t.condition.renumber s, t.kind⟩

/-- A test for membership is renumbered in its operand and its items. -/
lemma Typed.renumber_inList (s : Nat → Nat) (negated : Bool) (e : Typed) (items : List Typed) :
    (Typed.inList negated e items).renumber s =
      Typed.inList negated (e.renumber s) (items.map (Typed.renumber s)) := by
  simp [inList, renumber, Condition.renumber, Condition.renumberItems_eq_map, resultKind,
    Function.comp_def]

/-- The tables of inner frames are found before those of outer ones. -/
lemma Scope.find?_append {scope : Scope} {u : TableType} {table : Table}
    (h : scope.find? u = some table) (outer : Scope) :
    Scope.find? (scope ++ outer) u = some table := by
  obtain ⟨f, hf, rfl⟩ := Option.map_eq_some_iff.mp h
  rw [find?, List.find?_append, hf]
  rfl

/-! ## Compiling in a wider context -/

namespace Expr

section Relocated

variable {b A : Arena}

mutual

/-- An expression that compiles after some parameters of an arena also compiles with more frames
around it and after the slots of another arena, as long as these agree with its parameters; all its
placeholders go where their slots go.

Proof sketch. By induction on the expression. A parameter is placed where its position goes, the
tables of its own frames are found first, and a table that is registered is the declared one in both
registries. -/
theorem compile_relocated (hagree : ∀ slot ∈ b.slots, ∀ p ∈ A.slots, slot.Agrees p)
    (outer : Scope) : ∀ (e : Expr) {scope : Scope} {current : Table} {w w' : Workspace} {t : Typed}
    {r : Registry}, w.registry.IsSound → r.IsSound → e.compile scope current w = (.ok t, w') →
    w'.arena.slots <+: A.slots →
    ∃ r', r'.IsSound ∧ e.compile (scope ++ outer) current ⟨r, b.extend w.arena⟩ =
      (.ok (t.renumber (b.relocate A)), ⟨r', b.extend w'.arena⟩)
  | .literal _ v, scope, current, w, w', t, r, _, hr, h, _ => by
    obtain ⟨⟨⟨s, hs, rfl⟩, hfinite⟩, rfl⟩ := compile_literal_ok.mp h
    exact ⟨r, hr, compile_literal_ok.mpr ⟨⟨⟨s, hs, rfl⟩, hfinite⟩, rfl⟩⟩
  | .column _ name, scope, current, w, w', t, r, _, hr, h, _ => by
    obtain ⟨hcolumn, rfl⟩ := compile_column_ok.mp h
    refine ⟨r, hr, compile_column_ok.mpr ⟨?_, rfl⟩⟩
    rcases hcolumn with ⟨v, hv, rfl⟩ | ⟨hv, c, hc, rfl⟩
    · exact .inl ⟨v, hv, rfl⟩
    · exact .inr ⟨hv, c, hc, rfl⟩
  | .within _ u e, scope, current, w, w', t, r, hw, hr, h, hA => by
    obtain ⟨table, htable, h⟩ := compile_within_ok.mp h
    obtain ⟨r', hr', h'⟩ := compile_relocated hagree outer e hw hr h hA
    exact ⟨r', hr', compile_within_ok.mpr ⟨table, Scope.find?_append htable outer, h'⟩⟩
  | .param _ p, scope, current, w, w', t, r, _, hr, h, hA => by
    obtain ⟨n, a, hplace, rfl, rfl⟩ := compile_param_ok.mp h
    exact ⟨r, hr, compile_param_ok.mpr ⟨_, _, Arena.place_extend hagree hplace hA, rfl, rfl⟩⟩
  | .not _ e, scope, current, w, w', t, r, hw, hr, h, hA => by
    obtain ⟨te, he, hk, rfl⟩ := compile_not_ok.mp h
    obtain ⟨r', hr', he'⟩ := compile_relocated hagree outer e hw hr he hA
    exact ⟨r', hr', compile_not_ok.mpr ⟨_, he', hk, rfl⟩⟩
  | .nullTest _ _ e, scope, current, w, w', t, r, hw, hr, h, hA => by
    obtain ⟨te, he, hk, rfl⟩ := compile_nullTest_ok.mp h
    obtain ⟨r', hr', he'⟩ := compile_relocated hagree outer e hw hr he hA
    exact ⟨r', hr', compile_nullTest_ok.mpr ⟨_, he', hk, rfl⟩⟩
  | .call _ _ e, scope, current, w, w', t, r, hw, hr, h, hA => by
    obtain ⟨te, he, hk, rfl⟩ := compile_call_ok.mp h
    obtain ⟨r', hr', he'⟩ := compile_relocated hagree outer e hw hr he hA
    exact ⟨r', hr', compile_call_ok.mpr ⟨_, he', hk, rfl⟩⟩
  | .binary _ _ e₁ e₂, scope, current, w, w', t, r, hw, hr, h, hA => by
    obtain ⟨t₁, w₁, h₁, t₂, h₂, hk, rfl⟩ := compile_binary_ok.mp h
    obtain ⟨r₁, hr₁, h₁'⟩ :=
      compile_relocated hagree outer e₁ hw hr h₁ ((compile_slots h₂).trans hA)
    obtain ⟨r₂, hr₂, h₂'⟩ := compile_relocated hagree outer e₂ (compile_isSound h₁ hw) hr₁ h₂ hA
    exact ⟨r₂, hr₂, compile_binary_ok.mpr ⟨_, _, h₁', _, h₂', hk, rfl⟩⟩
  | .like _ _ e₁ e₂, scope, current, w, w', t, r, hw, hr, h, hA => by
    obtain ⟨t₁, w₁, h₁, t₂, h₂, hk, rfl⟩ := compile_like_ok.mp h
    obtain ⟨r₁, hr₁, h₁'⟩ :=
      compile_relocated hagree outer e₁ hw hr h₁ ((compile_slots h₂).trans hA)
    obtain ⟨r₂, hr₂, h₂'⟩ := compile_relocated hagree outer e₂ (compile_isSound h₁ hw) hr₁ h₂ hA
    exact ⟨r₂, hr₂, compile_like_ok.mpr ⟨_, _, h₁', _, h₂', hk, rfl⟩⟩
  | .between _ _ e low high, scope, current, w, w', t, r, hw, hr, h, hA => by
    obtain ⟨t₁, w₁, h₁, t₂, w₂, h₂, t₃, h₃, hk, rfl⟩ := compile_between_ok.mp h
    have hw₁ := compile_isSound h₁ hw
    have hA₂ := (compile_slots h₃).trans hA
    obtain ⟨r₁, hr₁, h₁'⟩ :=
      compile_relocated hagree outer e hw hr h₁ ((compile_slots h₂).trans hA₂)
    obtain ⟨r₂, hr₂, h₂'⟩ := compile_relocated hagree outer low hw₁ hr₁ h₂ hA₂
    obtain ⟨r₃, hr₃, h₃'⟩ :=
      compile_relocated hagree outer high (compile_isSound h₂ hw₁) hr₂ h₃ hA
    exact ⟨r₃, hr₃, compile_between_ok.mpr ⟨_, _, h₁', _, _, h₂', _, h₃', hk, rfl⟩⟩
  | .inList _ negated e items, scope, current, w, w', t, r, hw, hr, h, hA => by
    obtain ⟨hne, te, w₁, he, ts, hs, rfl⟩ := compile_inList_ok.mp h
    obtain ⟨r₁, hr₁, he'⟩ :=
      compile_relocated hagree outer e hw hr he ((compileItems_slots hs).trans hA)
    obtain ⟨r₂, hr₂, hs'⟩ :=
      compileItems_relocated hagree outer items (compile_isSound he hw) hr₁ hs hA
    exact ⟨r₂, hr₂, compile_inList_ok.mpr
      ⟨hne, _, _, he', _, hs', (Typed.renumber_inList _ negated te ts).symm⟩⟩
  | .existsIn _ u filter, scope, current, w, w', t, r, hw, hr, h, hA => by
    -- a sound registry has no choice: both give the table that is declared
    obtain ⟨table, r₁, hregister, hguard, tf, hf, hk, rfl⟩ := compile_existsIn_ok.mp h
    obtain ⟨htable, hr₁⟩ := Registry.register_ok hw hregister
    obtain ⟨r₂, hregister', hr₂⟩ := Registry.register_eq hr u
    rw [htable] at hregister'
    obtain ⟨r₃, hr₃, hf'⟩ :=
      compile_relocated hagree outer filter (w := ⟨r₁, w.arena⟩) hr₁ hr₂ hf hA
    exact ⟨r₃, hr₃, compile_existsIn_ok.mpr ⟨table, r₂, hregister', hguard, _, hf', hk, rfl⟩⟩

/-- The items of a list that compile in an arena of their own compile in a larger arena to the same,
but for the numbers of the placeholders. -/
theorem compileItems_relocated (hagree : ∀ slot ∈ b.slots, ∀ p ∈ A.slots, slot.Agrees p)
    (outer : Scope) : ∀ (items : List Expr) {scope : Scope} {current : Table} {site : Site}
    {construct : Construct} {operand : Typed} {w w' : Workspace} {ts : List Typed} {r : Registry},
    w.registry.IsSound → r.IsSound →
    compileItems scope current site construct operand items w = (.ok ts, w') →
    w'.arena.slots <+: A.slots →
    ∃ r', r'.IsSound ∧ compileItems (scope ++ outer) current site construct
      (operand.renumber (b.relocate A)) items ⟨r, b.extend w.arena⟩ =
      (.ok (ts.map (Typed.renumber (b.relocate A))), ⟨r', b.extend w'.arena⟩)
  | [], _, _, _, _, _, w, w', ts, r, _, hr, h, _ => by
    obtain ⟨rfl, rfl⟩ := compileItems_nil_ok.mp h
    exact ⟨r, hr, compileItems_nil_ok.mpr ⟨rfl, rfl⟩⟩
  | e :: es, scope, current, site, construct, operand, w, w', ts, r, hw, hr, h, hA => by
    obtain ⟨te, w₁, he, hc, tes, hs, rfl⟩ := compileItems_cons_ok.mp h
    obtain ⟨r₁, hr₁, he'⟩ :=
      compile_relocated hagree outer e hw hr he ((compileItems_slots hs).trans hA)
    obtain ⟨r₂, hr₂, hs'⟩ :=
      compileItems_relocated hagree outer es (compile_isSound he hw) hr₁ hs hA
    exact ⟨r₂, hr₂, compileItems_cons_ok.mpr ⟨_, _, he', hc, _, hs', rfl⟩⟩

end

end Relocated

end Expr

/-! ## Nested filters -/

/-- Distinct names number themselves. -/
lemma Arena.exists_isNumbering {a : Arena} (h : (a.slots.filterMap (·.name)).Nodup) :
    ∃ ns, a.IsNumbering a.slots ns := by
  obtain ⟨slots⟩ := a
  induction slots using List.reverseRecOn with
  | nil => exact ⟨[], .empty⟩
  | append_singleton slots p ih =>
    rw [List.filterMap_append, List.nodup_append] at h
    obtain ⟨ns, hns⟩ := ih h.1
    refine ⟨_, hns.push fun name hname slot hslot hslotname => ?_⟩
    have hmem : name ∈ slots.filterMap (·.name) := List.mem_filterMap.mpr ⟨slot, hslot, hslotname⟩
    exact h.2.2 name hmem name (by simp [hname]) rfl

/-- Slots of distinct names agree. -/
lemma Arena.pairwise_agrees {a : Arena} (h : (a.slots.filterMap (·.name)).Nodup) :
    a.slots.Pairwise Parameter.Agrees := by
  refine (List.pairwise_filterMap.mp h).imp fun hne name hp hq => ?_
  exact absurd rfl (hne name hp name hq)

/-- The text of a nested filter. -/
lemma Condition.text_existsIn (table : String) (c : Condition) :
    (Condition.existsIn table c).text =
      "EXISTS(SELECT 1 FROM " ++ table ++ " WHERE " ++ c.text ++ " LIMIT 1)" := by
  have hone : Number.decimalDigits 1 = ['1'] := by decide
  rw [← String.toList_inj]
  simp [text, pieces, Sql.spell, Sql.parenthesized, Sql.words, List.intercalate, Sql.word, Sql.mark,
    Sql.blank, Sql.numeral, Sql.Piece.chars, Sql.Lexeme.chars, Sql.Gap.chars, Sql.Mark.chars, hone]

namespace Query

variable {u : TableType} {filter : Expr} {r r' : Registry} {q : Query} {scope : Scope}
  {current : Table} {w : Workspace}

/-- A filter that compiles by itself compiles inside of `EXISTS`, at any point of any query, if and
only if the names of its parameters have not been used otherwise there; and then its text is that of
the standalone filter, in which every placeholder stands at the position where its slot goes: the
slot of its name, if there is one, and otherwise a new one after all that are there, in the order of
the standalone arena.

Proof sketch. If the slots agree, then the nested compilation follows the standalone one step by
step in its wider context. Conversely, what compiles fits, so that the parameters placed before
agree with the markers of the filter, which its slots are. -/
theorem compile_existsIn (hr : r.IsReachable) (h : Query.compile u filter r = (.ok q, r'))
    (site : Site) (hscope : scope.IsSound) (current : Table) (hw : w.registry.IsSound)
    (hnames : (w.arena.slots.filterMap (·.name)).Nodup) :
    ((∃ t w', (Expr.existsIn site u filter).compile scope current w = (.ok t, w')) ↔
      ∀ slot ∈ w.arena.slots, ∀ p ∈ q.arena.slots, slot.Agrees p) ∧
    ∀ t w', (Expr.existsIn site u filter).compile scope current w = (.ok t, w') →
      t.kind = .plain .boolean ∧
      t.condition.text = "EXISTS(SELECT 1 FROM " ++ u.name ++ " WHERE " ++
        Sql.renumber (w.arena.relocate q.arena) q.conditionText ++ " LIMIT 1)" ∧
      w'.arena = w.arena.extend q.arena ∧
      ∀ n slot, q.arena.get? n = some slot →
        w.arena.shared? slot = some (w.arena.relocate q.arena n) ∨
          w.arena.shared? slot = none ∧ w.arena.size < w.arena.relocate q.arena n ∧
            w'.arena.get? (w.arena.relocate q.arena n) = some slot := by
  have hproper := compile_leaves hr.isSound h
  obtain ⟨table, r₁, hregister, hguard, tf, wf, hf, hboolean, rfl, -⟩ := compile_ok.mp h
  obtain ⟨htable, hr₁⟩ := Registry.register_ok hr.isSound hregister
  obtain ⟨r₂, hregister', hr₂⟩ := Registry.register_eq hw u
  rw [htable] at hregister'
  -- the slots agree if the nested filter compiles
  have hagree (hok : ∃ t w', (Expr.existsIn site u filter).compile scope current w = (.ok t, w')) :
      ∀ slot ∈ w.arena.slots, ∀ p ∈ wf.arena.slots, slot.Agrees p := by
    obtain ⟨t, w', hok⟩ := hok
    obtain ⟨table', r₃, hregister'', -, tn, hn, -, -⟩ := Expr.compile_existsIn_ok.mp hok
    cases hregister'.symm.trans hregister''
    have hreached : Expr.Reached (⟨u, table⟩ :: scope) u table w.arena.slots ⟨r₂, w.arena⟩ :=
      ⟨hscope.cons htable, htable, hr₂, Arena.exists_isNumbering hnames⟩
    obtain ⟨fits, -⟩ :=
      Expr.fits_of_compile filter hreached (Arena.pairwise_agrees hnames) hn
    have hnumbering := Expr.compile_numbering filter Arena.IsNumbering.empty hf
    intro slot hslot p hp name hname hpname
    exact (List.pairwise_append.mp fits.agree).2.2 slot hslot p
      (hnumbering.mem_of_name hp hpname) name hname hpname
  -- the nested filter compiles if the slots agree, and this is how
  have hcompile (hagree : ∀ slot ∈ w.arena.slots, ∀ p ∈ wf.arena.slots, slot.Agrees p) :
      ∃ r₃, (Expr.existsIn site u filter).compile scope current w =
        (.ok (Typed.existsIn table (tf.renumber (w.arena.relocate wf.arena))),
          ⟨r₃, w.arena.extend wf.arena⟩) := by
    obtain ⟨r₃, -, hn⟩ := Expr.compile_relocated hagree scope filter hr₁ hr₂ hf List.prefix_rfl
    rw [Arena.extend_empty] at hn
    exact ⟨r₃, Expr.compile_existsIn_ok.mpr
      ⟨table, r₂, hregister', hguard, _, hn, hboolean, rfl⟩⟩
  refine ⟨⟨hagree, fun h => ?_⟩, fun t w' hok => ?_⟩
  · obtain ⟨r₃, hn⟩ := hcompile h
    exact ⟨_, _, hn⟩
  · obtain ⟨r₃, hn⟩ := hcompile (hagree ⟨t, w', hok⟩)
    cases hn.symm.trans hok
    refine ⟨rfl, ?_, rfl, fun n slot hslot => Arena.get?_relocate hslot⟩
    show (Condition.existsIn table.name (tf.condition.renumber _)).text = _
    rw [Condition.text_existsIn, Condition.text_renumber _ hproper,
      (TableType.table_ok_iff.mp htable).1]
    rfl

end Query

namespace Sample

/-- The pets that are not called Rex and whose key is at least the limit. -/
def notRex : Expr :=
  .binary ⟨"and"⟩ .and
    (.binary ⟨"ne"⟩ .notEqual (Builder.col "name")
      (.param ⟨"val"⟩ ⟨none, .plain .text, some (.text "Rex")⟩))
    (.binary ⟨"ge"⟩ .greaterEqual (Builder.col "id") limit)

/-- Inside of a query that has used the limit, the limit keeps its position, and the captured name
goes after it. -/
theorem notRex_nested :
    ∃ q r', Query.compile pet notRex {} = (.ok q, r') ∧
      q.conditionText = "pet.name != ?1 AND pet.id >= ?2" ∧
      ∃ t w', (Expr.existsIn ⟨"exists"⟩ pet notRex).compile [⟨person, persons⟩] persons
        ⟨{}, ⟨[⟨some "limit", .plain .integer, none⟩]⟩⟩ = (.ok t, w') ∧
      t.condition.text = "EXISTS(SELECT 1 FROM pet WHERE pet.name != ?2 AND pet.id >= ?1 LIMIT 1)" ∧
      t.condition.text = "EXISTS(SELECT 1 FROM pet WHERE " ++
        Sql.renumber (Arena.relocate ⟨[⟨some "limit", .plain .integer, none⟩]⟩ q.arena)
          q.conditionText ++ " LIMIT 1)" := by
  have hscope : Scope.IsSound [⟨person, persons⟩] := .singleton rfl
  have hempty : Registry.IsReachable {} := ⟨[], rfl⟩
  have hok : ∃ q r', Query.compile pet notRex {} = (.ok q, r') ∧
      q.conditionText = "pet.name != ?1 AND pet.id >= ?2" := ⟨_, _, rfl, rfl⟩
  obtain ⟨q, r', hq, htext⟩ := hok
  refine ⟨q, r', hq, htext, _, _, rfl, rfl, ?_⟩
  have hnested := (Query.compile_existsIn hempty hq ⟨"exists"⟩ hscope persons
    (w := ⟨{}, ⟨[⟨some "limit", .plain .integer, none⟩]⟩⟩) hempty.isSound (by simp)).2 _ _ rfl
  exact hnested.2.1

end Sample

end TypedSql
