import TypedSql.Expr.Builder
import TypedSql.Query.Lazy
import TypedSql.Statement.Basic
import TypedSql.Proofs.Query.Compile
import TypedSql.Proofs.Schema.Accepted

/-!
# Reachable registries

A program starts from an empty registry and uses it through calls that register tables on the way
and may fail at any point. The registries that such runs reach hold, under every table type, the
table of its own declaration.

## Main definitions

* `Registry.Call` — the uses of a registry; `Registry.Call.run` — what is left after one.
* `Registry.IsReachable` — the registries left by any sequence of uses.
* `Registry.IsSound` — every entry is the table of its type's declaration.
* `Sample.person`, `Sample.pet`, `Sample.owners` — two declarations and a filter over them.

## Main results

* `Registry.Call.run_moves` — a call moves the registry along every path.
* `Registry.IsReachable.isSound` — reachable registries are sound.
* `Registry.register_ok` — from a sound registry, registration gives the declared table.
-/

set_option autoImplicit false

namespace TypedSql

/-- Whether an event tells of a registration. -/
def Event.isRegistration : Event → Bool
  | .registered .. => true
  | _ => false

namespace Registry

/-! ## Uses of a registry -/

/-- The uses of a registry that may change it. -/
inductive Call where
  | register (t : TableType)
  | lookupColumn (t : TableType) (name : String)
  | hasColumn (t : TableType) (name : String)
  | compile (t : TableType) (filter : Expr)
  /-- A request to a lazy query, with the filter that would be built for it. -/
  | getLazy (l : LazyQuery) (filter : Expr)
  | insert (t : TableType) (row : List Cell)
  | upsert (t : TableType) (row : List Cell)
  | update (t : TableType) (row : List Cell)
  | creation (t : TableType)

/-- The registry after a use of it, whether the use succeeds or fails. -/
def Call.run : Call → Registry → Registry
  | .register t, r => (Registry.register t r).2
  | .lookupColumn t name, r => (Registry.lookupColumn t name r).2
  | .hasColumn t name, r => (Registry.hasColumn t name r).2
  | .compile t filter, r => (Query.compile t filter r).2
  | .getLazy l filter, r => (l.get (fun _ => filter) r).2.2
  | .insert t row, r => (Statement.insert t row r).2
  | .upsert t row, r => (Statement.upsert t row r).2
  | .update t row, r => (Statement.update t row r).2
  | .creation t, r => (Statement.creation t r).2

/-- The registries that a program reaches from the empty one. -/
def IsReachable (r : Registry) : Prop :=
  ∃ calls : List Call, calls.foldl (fun r call => call.run r) {} = r

/-- A preorder on registries along which each of the two steps that change one moves: a
registration, and an event that is none. -/
structure IsPath (R : Registry → Registry → Prop) : Prop where
  refl : ∀ r, R r r
  trans : ∀ r₁ r₂ r₃, R r₁ r₂ → R r₂ r₃ → R r₁ r₃
  register : ∀ t, Moves R (Registry.register t)
  logEvent : ∀ e : Event, e.isRegistration = false → Moves R (Registry.logEvent e)

/-- A path of registries is a path of the workspaces that hold them. -/
lemma IsPath.compiling {R : Registry → Registry → Prop} (h : IsPath R) :
    Compiling.IsPath fun w w' => R w.registry w'.registry where
  refl w := h.refl _
  trans _ _ _ := h.trans _ _ _
  register t w := h.register t w.registry
  place site p w := by
    simp only [Compiling.place]
    split <;> exact h.refl _

section Moves

variable {R : Registry → Registry → Prop}

/-- Compiling a filter moves the registry along a path. -/
lemma compile_moves (h : IsPath R) (t : TableType) (filter : Expr) :
    Moves R (Query.compile t filter) := by
  have hover : ∀ table, Moves R (Query.compileOver t table filter) := fun table r =>
    Expr.compileFilter_moves h.compiling [⟨t, table⟩] table filter ⟨r, {}⟩
  exact Moves.bind h.trans (h.register t) fun table =>
    Moves.bind h.trans (hover table) fun _ =>
    Moves.bind h.trans (h.logEvent _ rfl) fun _ => Moves.pure h.refl _

/-- Every use of a registry moves it along a path. -/
theorem Call.run_moves (h : IsPath R) (call : Call) (r : Registry) : R r (call.run r) := by
  -- what is done with a table after its registration does not change the registry
  have after : ∀ {α : Type} (t : TableType) (f : Table → Except Error α),
      Moves R (Registry.register t >>= fun table => liftM (f table)) := fun t f =>
    Moves.bind h.trans (h.register t) fun _ => Moves.lift h.refl _
  have lookup : ∀ t name, Moves R (Registry.lookupColumn t name) := fun t _ =>
    Moves.bind h.trans (h.register t) fun _ => Moves.pure h.refl _
  cases call with
  | register t => exact h.register t r
  | lookupColumn t name => exact lookup t name r
  | hasColumn t name =>
    exact Moves.bind h.trans (lookup t name) (fun _ => Moves.pure h.refl _) r
  | compile t filter => exact compile_moves h t filter r
  | getLazy l filter =>
    simp only [Call.run, LazyQuery.get]
    split
    · exact h.refl r
    · exact compile_moves h l.source filter r
  | insert t row => exact after t (·.insertStatement row) r
  | upsert t row => exact after t (·.upsertStatement row) r
  | update t row => exact after t (·.updateStatement row) r
  | creation t => exact Moves.bind h.trans (h.register t) (fun _ => Moves.pure h.refl _) r

/-- Every run of a program moves the registry along a path. -/
lemma run_moves (h : IsPath R) (calls : List Call) (r : Registry) :
    R r (calls.foldl (fun r call => call.run r) r) := by
  induction calls generalizing r with
  | nil => exact h.refl r
  | cons call calls ih => exact h.trans _ _ _ (call.run_moves h r) (ih _)

end Moves

/-! ## Sound registries -/

/-- Every entry is the table of its type's declaration. -/
def IsSound (r : Registry) : Prop :=
  ∀ t table, r.find? t = some table → t.table = .ok table

/-- Looking up after a new entry. -/
lemma find?_insert (r : Registry) (t u : TableType) (table : Table) :
    (r.insert t table).find? u = (r.find? u).or (if u = t then some table else none) := by
  simp only [find?, insert, record, List.lookup_append, List.lookup_cons, List.lookup_nil]
  by_cases h : u = t
  · simp [h]
  · simp [h, beq_false_of_ne h]

/-- Registration adds the declared table under its own type, or changes nothing. -/
lemma isPath_isSound : IsPath fun r r' => r.IsSound → r'.IsSound where
  refl _ := id
  trans _ _ _ h₁ h₂ := h₂ ∘ h₁
  logEvent _ _ _ := id
  register t r hr := by
    unfold Registry.register
    split
    · exact hr
    · split
      · rename_i table htable
        intro u found
        rw [find?_insert]
        intro hu
        rcases Option.or_eq_some_iff.mp hu with hu | ⟨-, hu⟩
        · exact hr u found hu
        · split at hu
          · rename_i heq
            cases hu
            exact heq ▸ htable
          · cases hu
      · exact hr

/-- Reachable registries are sound. -/
theorem IsReachable.isSound {r : Registry} (h : r.IsReachable) : r.IsSound := by
  obtain ⟨calls, rfl⟩ := h
  exact run_moves isPath_isSound calls {} (fun t table h => by cases h)

/-- From a sound registry, registration succeeds for the valid declarations and gives their
tables. -/
theorem register_ok {r r' : Registry} (hr : r.IsSound) {t : TableType} {table : Table}
    (h : register t r = (.ok table, r')) : t.table = .ok table ∧ r'.IsSound := by
  refine ⟨?_, by simpa [h] using isPath_isSound.register t r hr⟩
  unfold register at h
  split at h
  · rename_i found hfound
    cases h
    exact hr t _ hfound
  · split at h
    · rename_i declared hdeclared
      cases h
      exact hdeclared
    · cases h

/-- From a sound registry, registration gives what the declaration alone gives. -/
lemma register_eq {r : Registry} (hr : r.IsSound) (t : TableType) :
    ∃ r', register t r = (t.table.mapError (.schema t.name), r') ∧ r'.IsSound := by
  have hsound := isPath_isSound.register t r hr
  refine ⟨(register t r).2, ?_, hsound⟩
  unfold register
  split
  · rename_i table htable
    rw [hr t table htable]
    rfl
  · cases t.table <;> rfl

/-- The registration of a valid declaration succeeds. -/
lemma register_of_isValid (r : Registry) {t : TableType} (ht : t.IsValid) :
    ∃ table r', register t r = (.ok table, r') := by
  obtain ⟨table, htable⟩ := TableType.isValid_iff.mp ht
  unfold register
  split
  · exact ⟨_, _, rfl⟩
  · rw [htable]
    exact ⟨_, _, rfl⟩

end Registry

/-! ## Scopes -/

/-- Every frame holds the table of its type's declaration. -/
def Scope.IsSound (scope : Scope) : Prop := ∀ f ∈ scope, f.type.table = .ok f.table

namespace Scope

/-- A new frame with a declared table keeps the scope sound. -/
lemma IsSound.cons {scope : Scope} (h : scope.IsSound) {t : TableType} {table : Table}
    (ht : t.table = .ok table) : IsSound (⟨t, table⟩ :: scope) := by
  intro f hf
  rcases List.mem_cons.mp hf with rfl | hf
  · exact ht
  · exact h f hf

/-- The scope of one frame with a declared table is sound. -/
lemma IsSound.singleton {t : TableType} {table : Table} (ht : t.table = .ok table) :
    IsSound [⟨t, table⟩] :=
  IsSound.cons (fun _ hf => absurd hf List.not_mem_nil) ht

/-- A table type is found in a scope if and only if it is that of a frame. -/
lemma exists_find?_iff {scope : Scope} {u : TableType} :
    (∃ table, scope.find? u = some table) ↔ u ∈ scope.map (·.type) := by
  unfold find?
  rw [← Option.isSome_iff_exists, Option.isSome_map, List.find?_isSome]
  simp only [beq_iff_eq, List.mem_map]

/-- The table found under a table type is that of one of its frames. -/
lemma mem_of_find? {scope : Scope} {t : TableType} {table : Table}
    (h : scope.find? t = some table) : ⟨t, table⟩ ∈ scope := by
  obtain ⟨f, hf, rfl⟩ := Option.map_eq_some_iff.mp h
  have heq : f.type = t := by simpa using List.find?_some hf
  exact heq ▸ List.mem_of_find?_eq_some hf

/-- The table found under a table type is that of its declaration. -/
lemma IsSound.table_of_find? {scope : Scope} (h : scope.IsSound) {t : TableType}
    {table : Table} (ht : scope.find? t = some table) : t.table = .ok table :=
  h ⟨t, table⟩ (mem_of_find? ht)

end Scope

/-! ## A small schema -/

namespace Sample

/-- Persons, whose age may be unknown. -/
def person : TableType where
  label := "Person"
  name := "person"
  columns := [(Column.new "id" (.plain .integer)).asAutoKey, .new "name" (.plain .text),
    .new "age" (.optional .integer)]

/-- The table of the persons. -/
def persons : Table := ⟨"person", person.columns, by decide +kernel⟩

/-- Pets, each with an owner. -/
def pet : TableType where
  label := "Pet"
  name := "pet"
  columns := [(Column.new "id" (.plain .integer)).asAutoKey,
    (Column.new "owner" (.plain .integer)).referring "person" "id", .new "name" (.plain .text)]

/-- A number that is given when the filter runs. -/
def limit : Expr := .param ⟨"param"⟩ ⟨some "limit", .plain .integer, none⟩

/-- The persons of unknown age or at least of an age `limit` who have a pet that is not called Rex
and whose key is at least `limit`. -/
def owners : Expr :=
  .binary ⟨"and"⟩ .and
    (.binary ⟨"or"⟩ .or (.nullTest ⟨"is_null"⟩ .isNull (Builder.col "age"))
      (.binary ⟨"ge"⟩ .greaterEqual (Builder.col "age") limit))
    (Builder.existsRow <| Builder.filter pet <|
      .binary ⟨"and"⟩ .and
        (.binary ⟨"eq"⟩ .equal (Builder.col "owner") (Builder.column person "id"))
        (.binary ⟨"and"⟩ .and
          (.binary ⟨"ne"⟩ .notEqual (Builder.col "name")
            (.param ⟨"val"⟩ ⟨none, .plain .text, some (.text "Rex")⟩))
          (.binary ⟨"ge"⟩ .greaterEqual (Builder.col "id") limit)))

/-- The filter compiles from the empty registry. -/
lemma exists_compile_owners : ∃ q r', Query.compile person owners {} = (.ok q, r') :=
  ⟨_, _, rfl⟩

end Sample

end TypedSql
