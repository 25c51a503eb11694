import TypedSql.Proofs.Query.Compile
import TypedSql.Proofs.Schema.Reachable

/-!
# Qualified expressions

A qualification switches the current table for the expression below it. It may as well be carried
down to the columns: those below another qualification or in a nested filter are columns of another
table already, and no other node looks at the current table. The two forms compile alike, except
that an error may point to another site.

## Main definitions

* `Expr.qualify` — the expression with each of its own columns qualified.
* `Error.SameCause` — two errors that differ in their sites at most.

## Main results

* `Expr.compile_qualify` — the columns of a table and the qualified columns compile alike.
* `Expr.within_distributes` — a qualified expression compiles like its qualified columns.
-/

set_option autoImplicit false

namespace TypedSql

/-! ## Errors up to their sites -/

namespace Error

/-- The error at another site; errors without a site stay as they are. -/
def movedTo (site : Site) : Error → Error
  | .unknownColumn _ column table => .unknownColumn site column table
  | .notAccessible _ table => .notAccessible site table
  | .mismatch _ construct expected found => .mismatch site construct expected found
  | .refused _ refusal => .refused site refusal
  | .notNullable _ subject => .notNullable site subject
  | e => e

/-- Whether two errors differ in their sites at most. -/
def SameCause (e e' : Error) : Prop := ∃ site, e' = e.movedTo site

end Error

namespace Expr

/-! ## Qualification of the columns -/

mutual

/-- The expression whose columns are qualified with a table type, except for those below another
qualification and in nested filters. A qualified column is placed at a site that may depend on where
the column was built. -/
def qualify (place : Site → Site) (u : TableType) : Expr → Expr
  | .column site name => .within (place site) u (.column (place site) name)
  | .literal site v => .literal site v
  | .within site v e => .within site v e
  | .param site p => .param site p
  | .not site e => .not site (e.qualify place u)
  | .binary site op l r => .binary site op (l.qualify place u) (r.qualify place u)
  | .nullTest site test e => .nullTest site test (e.qualify place u)
  | .like site negated e p => .like site negated (e.qualify place u) (p.qualify place u)
  | .between site negated e low high =>
    .between site negated (e.qualify place u) (low.qualify place u) (high.qualify place u)
  | .inList site negated e items =>
    .inList site negated (e.qualify place u) (qualifyItems place u items)
  | .call site f e => .call site f (e.qualify place u)
  | .existsIn site v filter => .existsIn site v filter

/-- The same for each of the items of a list. -/
def qualifyItems (place : Site → Site) (u : TableType) : List Expr → List Expr
  | [] => []
  | e :: es => e.qualify place u :: qualifyItems place u es

end

variable {place : Site → Site} {u : TableType}

/-- A lone truth value stays one, and nothing else becomes one. -/
lemma isTruthValue_qualify (e : Expr) : (e.qualify place u).isTruthValue = e.isTruthValue := by
  cases e <;> rfl

/-- Qualified items are as many as before. -/
lemma isEmpty_qualifyItems (items : List Expr) :
    (qualifyItems place u items).isEmpty = items.isEmpty := by
  cases items <;> rfl

/-! ## Compilation of qualified columns -/

variable {R : Error → Error → Prop} {scope : Scope} {table : Table}

/-- The only cause for which a column does not compile is that there is none of its name. -/
lemma column_agrees (hR : ∀ site name t,
      R (.unknownColumn site name t) (.unknownColumn (place site) name t))
    (site : Site) (name : String) :
    Typed.column site table name = Typed.column (place site) table name ∨
      ∃ e e', Typed.column site table name = .error e ∧
        Typed.column (place site) table name = .error e' ∧ R e e' := by
  unfold Typed.column
  split
  · exact .inl rfl
  · split
    · exact .inl rfl
    · exact .inr ⟨_, _, rfl, rfl, hR site name table.name⟩

mutual

/-- Compiled against any table, an expression with its columns qualified does what the expression
does against the table of the qualification. -/
theorem compile_qualify
    (hR : ∀ site name t, R (.unknownColumn site name t) (.unknownColumn (place site) name t))
    (hu : scope.find? u = some table) (current : Table) : ∀ e : Expr,
    AgreesUpTo R (e.compile scope table) ((e.qualify place u).compile scope current)
  | .literal _ _ | .within _ _ _ | .param _ _ | .existsIn _ _ _ => by
    -- the current table is not looked at
    rw [qualify, compile, compile]
    exact .refl _
  | .column site name => by
    rw [qualify, compile, compile, hu]
    simp only [compile]
    exact .lift (column_agrees hR site name)
  | .not _ e | .nullTest _ _ e | .call _ _ e => by
    rw [qualify, compile, compile]
    exact .bind (compile_qualify hR hu current e) fun _ => .refl _
  | .binary _ _ l r | .like _ _ l r => by
    rw [qualify, compile, compile]
    exact .bind (compile_qualify hR hu current l) fun _ =>
      .bind (compile_qualify hR hu current r) fun _ => .refl _
  | .between _ _ e low high => by
    rw [qualify, compile, compile]
    exact .bind (compile_qualify hR hu current e) fun _ =>
      .bind (compile_qualify hR hu current low) fun _ =>
      .bind (compile_qualify hR hu current high) fun _ => .refl _
  | .inList site negated e items => by
    have rest : AgreesUpTo R
        (e.compile scope table >>= fun t => do
          let ts ← compileItems scope table site (.inList negated) t items
          return t.inList negated ts)
        ((e.qualify place u).compile scope current >>= fun t => do
          let ts ← compileItems scope current site (.inList negated) t (qualifyItems place u items)
          return t.inList negated ts) :=
      .bind (compile_qualify hR hu current e) fun _ =>
        .bind (compileItems_qualify hR hu current site _ _ items) fun _ => .refl _
    rw [qualify, compile, compile, isEmpty_qualifyItems]
    split
    · exact .bind (.refl _) fun _ => rest
    · exact rest

/-- The items of a list compile over a table in scope as they do when each of their columns is
qualified by it. -/
theorem compileItems_qualify
    (hR : ∀ site name t, R (.unknownColumn site name t) (.unknownColumn (place site) name t))
    (hu : scope.find? u = some table) (current : Table) (site : Site) (construct : Construct)
    (operand : Typed) : ∀ items : List Expr,
    AgreesUpTo R (compileItems scope table site construct operand items)
      (compileItems scope current site construct operand (qualifyItems place u items))
  | [] => by
    rw [qualifyItems, compileItems, compileItems]
    exact .refl _
  | e :: es => by
    rw [qualifyItems, compileItems, compileItems]
    exact .bind (compile_qualify hR hu current e) fun _ => .bind (.refl _) fun _ =>
      .bind (compileItems_qualify hR hu current site construct operand es) fun _ => .refl _

end

/-- Two filters of which both or neither are lone truth values are complete alike. -/
lemma complete_agrees {filter filter' : Expr} {x y : Compiling Typed}
    (hguard : filter'.isTruthValue = filter.isTruthValue) (h : AgreesUpTo Error.SameCause x y) :
    AgreesUpTo Error.SameCause (Compiling.complete filter x) (Compiling.complete filter' y) := by
  have hkind : ∀ t : Typed,
      t.requireScalar filter.site .filter .boolean =
        t.requireScalar filter'.site .filter .boolean ∨
      ∃ e e', t.requireScalar filter.site .filter .boolean = .error e ∧
        t.requireScalar filter'.site .filter .boolean = .error e' ∧ e.SameCause e' := by
    intro t
    unfold Typed.requireScalar
    split
    · exact .inl rfl
    · exact .inr ⟨_, _, rfl, rfl, filter'.site, rfl⟩
  have rest : AgreesUpTo Error.SameCause
      (x >>= fun t => do
        t.requireScalar filter.site .filter .boolean
        return t)
      (y >>= fun t => do
        t.requireScalar filter'.site .filter .boolean
        return t) :=
    .bind h fun t => .bind (.lift (hkind t)) fun _ => .refl _
  unfold Compiling.complete
  rw [hguard]
  split
  · exact .bind (.throw ⟨filter'.site, rfl⟩) fun _ => rest
  · exact rest

/-- **A qualified expression compiles like its qualified columns.** For a table type in scope and
whatever the current table is, qualifying an expression and qualifying those of its columns that are
neither below another qualification nor in a nested filter give the same condition, kind and
workspace or fail for the same cause, at the same site too if each column keeps its own. This holds
for operands and for complete filters, and both are lone truth values or neither is. A qualification
around another one, or around a nested query, changes nothing.

Proof sketch. By induction on the expression: only columns look at the current table, and each of
the other nodes does the same with what its operands give. -/
theorem within_distributes {scope : Scope} {u : TableType} (hu : u ∈ scope.map (·.type)) (e : Expr)
    (current : Table) (site : Site) (place : Site → Site) :
    AgreesUpTo Error.SameCause ((within site u e).compile scope current)
        ((e.qualify place u).compile scope current) ∧
      AgreesUpTo Error.SameCause ((within site u e).compileFilter scope current)
        ((e.qualify place u).compileFilter scope current) ∧
      (e.qualify place u).isTruthValue = (within site u e).isTruthValue ∧
      (within site u e).compile scope current = (e.qualify id u).compile scope current ∧
      (∀ site' v d, (within site u (within site' v d)).compile scope current =
        (within site' v d).compile scope current) ∧
      ∀ site' v filter other, (within site u (existsIn site' v filter)).compile scope current =
        (existsIn site' v filter).compile scope other := by
  obtain ⟨table, hu⟩ := Scope.exists_find?_iff.mpr hu
  have hwithin : ∀ d, (within site u d).compile scope current = d.compile scope table := by
    intro d
    rw [compile, hu]
  have hguard : (e.qualify place u).isTruthValue = (within site u e).isTruthValue :=
    isTruthValue_qualify e
  have hagrees : AgreesUpTo Error.SameCause ((within site u e).compile scope current)
      ((e.qualify place u).compile scope current) := by
    rw [hwithin]
    exact compile_qualify (fun site _ _ => ⟨place site, rfl⟩) hu current e
  refine ⟨hagrees, complete_agrees hguard hagrees, hguard, ?_, fun site' v d => ?_,
    fun site' v filter other => ?_⟩
  · rw [hwithin]
    exact (compile_qualify (fun _ _ _ => rfl) hu current e).eq
  · rw [hwithin, compile, compile]
  · rw [hwithin, compile, compile]

end Expr

namespace Sample

/-- The table of the pets. -/
def pets : Table := ⟨"pet", pet.columns, by decide +kernel⟩

/-- What is within reach below a filter over the pets of the persons. -/
def petsOfPersons : Scope := [⟨pet, pets⟩, ⟨person, persons⟩]

/-- Qualified with the persons below a filter over the pets, the filter for persons compiles, and so
do its qualified columns, with one result. -/
theorem owners_qualified :
    person ∈ petsOfPersons.map (·.type) ∧
    ∃ t w, (Builder.qualified person owners).compile petsOfPersons pets ⟨{}, {}⟩ = (.ok t, w) ∧
      (owners.qualify (fun _ => ⟨"column"⟩) person).compile petsOfPersons pets ⟨{}, {}⟩ =
        (.ok t, w) := by
  have hu : person ∈ petsOfPersons.map (·.type) := by decide
  have hok : ∃ t w, (Builder.qualified person owners).compile petsOfPersons pets ⟨{}, {}⟩ =
      (.ok t, w) := ⟨_, _, rfl⟩
  obtain ⟨t, w, hok⟩ := hok
  refine ⟨hu, t, w, hok, ?_⟩
  rcases (Expr.within_distributes hu owners pets ⟨"qualified"⟩ fun _ => ⟨"column"⟩).1 ⟨{}, {}⟩ with
    hsame | ⟨e, e', w', herror, -, -⟩
  · exact hsame.symm.trans hok
  · cases hok.symm.trans herror

end Sample

end TypedSql
