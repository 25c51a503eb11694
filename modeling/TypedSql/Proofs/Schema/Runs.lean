import Mathlib.Data.Set.Card
import TypedSql.Proofs.Query.Registration

/-!
# Runs of a program on a registry

A program uses a registry in any order, and its uses may fail at any point. This file follows what
a registry holds along every run: what has entered stays, and what enters is the table of a valid
declaration, once for each table type and each time with an event.

## Main definitions

* `Registry.Use` — the uses of a registry, those included that only read it.
* `Registry.run` — what is left after a sequence of uses.
* `Registry.Call.error?` — the error of a use that fails; `Registry.Call.types` — the table types
  that a use is about; `Registry.Call.isCached` — the uses that have no work left.
* `Registry.IsRegular` — what every run keeps.

## Main results

* `Registry.isPath_isRegular`, `isPath_find?` — what a single step keeps.
* `Registry.Call.blames` — a use that fails because of a declaration is about its table type.
* `Registry.Call.mem_registered` — a use that succeeds leaves its table types registered.
* `Registry.run_regular` — what a registry holds after every sequence of uses, and keeps.
-/

set_option autoImplicit false

namespace TypedSql

/-- Whether a fault is one of a row that is to be written. -/
def Fault.isOfRow : Fault → Bool
  | .cellCount _ _ | .keyRequired | .nothingToUpdate => true
  | _ => false

namespace Registry

/-! ## Uses of a registry -/

/-- The uses of a registry, and of the queries that it has been used for. -/
inductive Use where
  /-- A use that may change the registry. -/
  | call (c : Call)
  /-- The table of a table type, if it is registered. -/
  | get (t : TableType)
  /-- The number of registered tables. -/
  | size
  | orderBy (q : Query) (rs : List OrderRequest)
  | bind (q : Query) (args : List Cell)

/-- The registry after a use of it. -/
def Use.run : Use → Registry → Registry
  | .call c, r => c.run r
  | .get _, r | .size, r | .orderBy _ _, r | .bind _ _, r => r

/-- The registry after a sequence of uses of it. -/
def run (uses : List Use) (r : Registry) : Registry := uses.foldl (fun r use => use.run r) r

/-- The error of an outcome that is one. -/
def failure? {α : Type} : Except Error α → Option Error
  | .ok _ => none
  | .error e => some e

/-- An outcome fails with an error if it is this error. -/
lemma failure?_eq_some_iff {α : Type} {x : Except Error α} {e : Error} :
    failure? x = some e ↔ x = .error e := by
  cases x <;> simp [failure?]

namespace Call

/-- The error of a use that fails. -/
def error? : Call → Registry → Option Error
  | .register t, r => failure? (Registry.register t r).1
  | .lookupColumn t name, r => failure? (Registry.lookupColumn t name r).1
  | .hasColumn t name, r => failure? (Registry.hasColumn t name r).1
  | .compile t filter, r => failure? (Query.compile t filter r).1
  | .getLazy l filter, r => failure? (l.get (fun _ => filter) r).1
  | .insert t row, r => failure? (Statement.insert t row r).1
  | .upsert t row, r => failure? (Statement.upsert t row r).1
  | .update t row, r => failure? (Statement.update t row r).1
  | .creation t, r => failure? (Statement.creation t r).1

/-- The table types that a use may register. -/
def types : Call → List TableType
  | .register t | .lookupColumn t _ | .hasColumn t _ | .insert t _ | .upsert t _ | .update t _
  | .creation t => [t]
  | .compile t filter => t :: filter.tables
  | .getLazy l filter => l.source :: filter.tables

/-- Whether a use has no work left: a request to a lazy query that has compiled before. -/
def isCached : Call → Bool
  | .getLazy l _ => l.compiled.isSome
  | _ => false

end Call

/-! ## What every step keeps -/

/-- What every run keeps: the entries are the tables of their types' declarations, no table type has
two entries, and each entry has an event in the log. -/
structure IsRegular (r : Registry) : Prop where
  sound : r.IsSound
  nodup : (r.entries.map (·.1)).Nodup
  logged : r.log.countP (·.isRegistration) = r.size

/-- A table type is registered if it has an entry. -/
lemma mem_registered_iff {r : Registry} {t : TableType} :
    t ∈ r.registered ↔ t ∈ r.entries.map (·.1) := by
  simp only [registered, find?, Set.mem_ofPred_eq, List.lookup_isSome_iff, beq_iff_eq,
    List.mem_map]
  exact exists_congr fun p => and_congr_right fun _ => eq_comm

/-- Without two entries of one table type, the number of entries is that of the table types. -/
lemma IsRegular.ncard_registered {r : Registry} (h : r.IsRegular) :
    r.registered.ncard = r.size := by
  have hset : r.registered = ↑(r.entries.map (·.1)).toFinset := by
    ext t
    rw [mem_registered_iff, Finset.mem_coe, List.mem_toFinset]
  rw [hset, Set.ncard_coe_finset, List.toFinset_card_of_nodup h.nodup, List.length_map, size]

/-- A step keeps a registry regular: what it adds is new. -/
theorem isPath_isRegular : IsPath fun r r' => r.IsRegular → r'.IsRegular where
  refl _ := id
  trans _ _ _ h₁ h₂ := h₂ ∘ h₁
  logEvent e he r hr := by
    refine ⟨hr.sound, hr.nodup, ?_⟩
    show (r.log ++ [e]).countP (·.isRegistration) = r.size
    rw [List.countP_append, hr.logged, List.countP_singleton, he]
    rfl
  register t r hr := by
    have hsound := isPath_isSound.register t r hr.sound
    rcases register_cases t r with ⟨table, -, h⟩ | ⟨table, hnew, -, h⟩ | ⟨fault, -, -, h⟩ <;>
      rw [h] at hsound ⊢
    · exact hr
    · have hfresh : t ∉ r.entries.map (·.1) := by
        rw [← mem_registered_iff, registered, Set.mem_ofPred_eq, hnew]
        simp
      refine ⟨hsound, ?_, ?_⟩
      · show ((r.entries ++ [(t, table)]).map (·.1)).Nodup
        rw [List.map_append, List.map_singleton, ← List.concat_eq_append]
        exact hr.nodup.concat hfresh
      · show (r.log ++ [Event.registered _ _]).countP (·.isRegistration) =
          (r.entries ++ [_]).length
        rw [List.countP_append, hr.logged, List.length_append]
        rfl
    · exact hr

/-- A step keeps the entries. -/
theorem isPath_find? : IsPath fun r r' => ∀ t table, r.find? t = some table →
    r'.find? t = some table where
  refl _ _ _ := id
  trans _ _ _ h₁ h₂ t table := h₂ t table ∘ h₁ t table
  logEvent _ _ _ _ _ := id
  register t r u found hu := by
    rcases register_cases t r with ⟨table, -, h⟩ | ⟨table, -, -, h⟩ | ⟨fault, -, -, h⟩ <;> rw [h]
    · exact hu
    · rw [find?_insert, hu, Option.some_or]
    · exact hu

/-- Every run moves the registry along a path. -/
lemma moves_run {R : Registry → Registry → Prop} (h : IsPath R) (uses : List Use) (r : Registry) :
    R r (run uses r) := by
  induction uses generalizing r with
  | nil => exact h.refl r
  | cons use uses ih =>
    refine h.trans _ _ _ ?_ (ih _)
    cases use with
    | call c => exact c.run_moves h r
    | get t => exact h.refl r
    | size => exact h.refl r
    | orderBy q rs => exact h.refl r
    | bind q args => exact h.refl r

/-- Every run leaves a regular registry behind. -/
lemma isRegular_run (uses : List Use) : (run uses {}).IsRegular :=
  moves_run isPath_isRegular uses {} ⟨(fun _ _ h => nomatch h), List.nodup_nil, rfl⟩

/-! ## Failures -/

/-- A fault of a declaration is that of a table type that the computation registers. -/
lemma blames_of_registers {α : Type} {x : Registering α} {us : List TableType}
    (hx : Registers id us x) {r : Registry} {name : String} {fault : Fault}
    (h : failure? (x r).1 = some (.schema name fault)) :
    ∃ u ∈ us, u.name = name ∧ u.table = .error fault := by
  have hrun : x r = (.error (.schema name fault), (x r).2) :=
    Prod.ext (failure?_eq_some_iff.mp h) rfl
  obtain ⟨u, hu, _, htable, heq⟩ := hx.blames r _ _ hrun rfl
  obtain ⟨rfl, rfl⟩ := Error.schema.inj heq
  exact ⟨u, hu, rfl, htable⟩

section Writes

variable {t : Table} {row : List Cell} {name : String} {fault : Fault}

/-- Without a key, the fault is one of the row. -/
lemma isOfRow_of_requireKey (h : t.requireKey = .error (.schema name fault)) :
    fault.isOfRow = true := by
  unfold Table.requireKey at h
  split at h <;> cases h
  rfl

/-- With a wrong number of cells, the fault is one of the row. -/
lemma isOfRow_of_pairCells (h : t.pairCells row = .error (.schema name fault)) :
    fault.isOfRow = true := by
  unfold Table.pairCells at h
  split at h <;> cases h
  rfl

/-- An insertion has no faults but those of the row. -/
lemma isOfRow_of_insertStatement (h : t.insertStatement row = .error (.schema name fault)) :
    fault.isOfRow = true := by
  rcases except_bind_error.mp h with h | ⟨cells, -, h⟩
  · exact isOfRow_of_pairCells h
  · cases h

/-- An upsert has no faults but those of the row. -/
lemma isOfRow_of_upsertStatement (h : t.upsertStatement row = .error (.schema name fault)) :
    fault.isOfRow = true := by
  rcases except_bind_error.mp h with h | ⟨-, -, h⟩
  · exact isOfRow_of_requireKey h
  · rcases except_bind_error.mp h with h | ⟨cells, -, h⟩
    · exact isOfRow_of_pairCells h
    · cases h

/-- An update has no faults but those of the row. -/
lemma isOfRow_of_updateStatement (h : t.updateStatement row = .error (.schema name fault)) :
    fault.isOfRow = true := by
  rcases except_bind_error.mp h with h | ⟨-, -, h⟩
  · exact isOfRow_of_requireKey h
  · rcases except_bind_error.mp h with h | ⟨cells, -, h⟩
    · exact isOfRow_of_pairCells h
    · simp only at h
      split at h <;> cases h
      rfl

end Writes

/-- A fault that is not one of the row is that of the table type to which the row is written. -/
lemma blames_of_write {t : TableType} {f : Table → Except Error Statement}
    (hf : ∀ table name fault, f table = .error (.schema name fault) → fault.isOfRow = true)
    {r : Registry} {name : String} {fault : Fault} (hfault : fault.isOfRow = false)
    (h : failure? ((Registry.register t >>= fun table => liftM (f table) :
      Registering Statement) r).1 = some (.schema name fault)) :
    ∃ u ∈ [t], u.name = name ∧ u.table = .error fault := by
  rcases hrun : Registry.register t r with ⟨e | table, r'⟩
  · rw [run_bind_of_error hrun] at h
    refine blames_of_registers (register_registers t) (r := r) ?_
    rw [hrun]
    exact h
  · rw [run_bind_of_ok hrun] at h
    have herror : f table = .error (.schema name fault) := failure?_eq_some_iff.mp h
    rw [hf table name fault herror] at hfault
    cases hfault

/-- A use that fails because of a declaration is about its table type. -/
theorem Call.blames {c : Call} {r : Registry} {name : String} {fault : Fault}
    (h : c.error? r = some (.schema name fault)) (hfault : fault.isOfRow = false) :
    ∃ t ∈ c.types, t.name = name ∧ t.table = .error fault := by
  have hlookup : ∀ t name, Registers id [t] (Registry.lookupColumn t name) := fun t _ =>
    (register_registers t).bind fun _ => .pure _
  cases c with
  | register t => exact blames_of_registers (register_registers t) h
  | lookupColumn t name => exact blames_of_registers (hlookup t name) h
  | hasColumn t name =>
    exact blames_of_registers ((hlookup t name).bind fun _ => Registers.pure _) h
  | compile t filter => exact blames_of_registers (Query.compile_registers t filter) h
  | getLazy l filter =>
    simp only [error?, LazyQuery.get] at h
    split at h
    · cases h
    · exact blames_of_registers (Query.compile_registers l.source filter) h
  | insert t row =>
    exact blames_of_write (fun _ _ _ => isOfRow_of_insertStatement) hfault h
  | upsert t row =>
    exact blames_of_write (fun _ _ _ => isOfRow_of_upsertStatement) hfault h
  | update t row =>
    exact blames_of_write (fun _ _ _ => isOfRow_of_updateStatement) hfault h
  | creation t =>
    exact blames_of_registers ((register_registers t).bind fun _ => Registers.pure _) h

/-! ## Successes -/

/-- The table types of a computation are registered once it succeeds. -/
lemma mem_registered_of_registers {α : Type} {x : Registering α} {us : List TableType}
    (hx : Registers id us x) {r : Registry} (h : failure? (x r).1 = none) :
    ∀ u ∈ us, u ∈ (x r).2.registered := by
  rcases hrun : x r with ⟨e | a, r'⟩
  · rw [hrun] at h
    cases h
  · exact hx.all r a r' hrun

/-- The table type to which a row is written is registered once the statement is made. -/
lemma mem_registered_of_write {t : TableType} {f : Table → Except Error Statement}
    {r : Registry} (h : failure? ((Registry.register t >>= fun table => liftM (f table) :
      Registering Statement) r).1 = none) :
    ∀ u ∈ [t], u ∈ ((Registry.register t >>= fun table => liftM (f table) :
      Registering Statement) r).2.registered := by
  rcases hrun : Registry.register t r with ⟨e | table, r'⟩
  · rw [run_bind_of_error hrun] at h
    cases h
  · rw [run_bind_of_ok hrun]
    exact (register_registers t).all r table r' hrun

/-- A use that succeeds, and had work left, leaves its table types registered. -/
theorem Call.mem_registered {c : Call} {r : Registry} (hcached : c.isCached = false)
    (h : c.error? r = none) : ∀ t ∈ c.types, t ∈ (c.run r).registered := by
  have hlookup : ∀ t name, Registers id [t] (Registry.lookupColumn t name) := fun t _ =>
    (register_registers t).bind fun _ => .pure _
  cases c with
  | register t => exact mem_registered_of_registers (register_registers t) h
  | lookupColumn t name => exact mem_registered_of_registers (hlookup t name) h
  | hasColumn t name =>
    exact mem_registered_of_registers ((hlookup t name).bind fun _ => Registers.pure _) h
  | compile t filter => exact mem_registered_of_registers (Query.compile_registers t filter) h
  | getLazy l filter =>
    have hnone : l.compiled = none := by simpa [isCached] using hcached
    simp only [error?, run, LazyQuery.get, hnone] at h ⊢
    exact mem_registered_of_registers (Query.compile_registers l.source filter) h
  | insert t row => exact mem_registered_of_write h
  | upsert t row => exact mem_registered_of_write h
  | update t row => exact mem_registered_of_write h
  | creation t =>
    exact mem_registered_of_registers ((register_registers t).bind fun _ => Registers.pure _) h

/-! ## Runs -/

/-- What a registry holds after every sequence of uses. An entry stays as it is whatever follows,
and is the table of its type's declaration. The number of entries is that of the registered table
types, and that of the registrations in the log. The uses that only read change nothing. A use that
succeeds leaves its table types registered, unless it asks for a lazy query that has compiled
before. If a use fails because of a declaration, then the table type it belongs to is not registered
afterwards.

*Proof sketch.* Each step of a use finds a table, adds one that is new and declared, or adds an
event that is no registration; so it keeps the entries and leaves a regular registry. A use of a
registry is a sequence of such steps, and a run is a sequence of uses. A use that succeeds has made
all its registrations. -/
theorem run_regular (before after : List Use) :
    (∀ t table, (run before {}).find? t = some table →
      (run (before ++ after) {}).find? t = some table ∧ t.table = .ok table) ∧
    (run before {}).size = (run before {}).registered.ncard ∧
    (run before {}).size = (run before {}).log.countP (·.isRegistration) ∧
    (∀ use : Use, (∀ c, use ≠ .call c) → use.run (run before {}) = run before {}) ∧
    (∀ c : Call, c.isCached = false → c.error? (run before {}) = none →
      ∀ t ∈ c.types, t ∈ (run (before ++ [.call c]) {}).registered) ∧
    ∀ c name fault, c.error? (run before {}) = some (.schema name fault) →
      fault.isOfRow = false → ∃ t ∈ c.types, t.name = name ∧ t.table = .error fault ∧
        t ∉ (run (before ++ [.call c]) {}).registered := by
  have hregular := isRegular_run before
  refine ⟨fun t table h => ⟨?_, hregular.sound t table h⟩, hregular.ncard_registered.symm,
    hregular.logged.symm, fun use huse => ?_, fun c hcached h => ?_,
    fun c name fault h hfault => ?_⟩
  · rw [run, List.foldl_append]
    exact moves_run isPath_find? after _ t table h
  · cases use with
    | call c => exact absurd rfl (huse c)
    | get | size | orderBy | bind => rfl
  · rw [run, List.foldl_append]
    exact c.mem_registered hcached h
  · obtain ⟨t, ht, hname, htable⟩ := c.blames h hfault
    refine ⟨t, ht, hname, htable, fun hregistered => ?_⟩
    obtain ⟨table, hfind⟩ := Option.isSome_iff_exists.mp hregistered
    cases htable.symm.trans ((isRegular_run (before ++ [.call c])).sound t table hfind)

end Registry

namespace Sample

/-- Shops, whose name is none that a table may have. -/
def shop : TableType where
  label := "Shop"
  name := "pet shop"
  columns := [.new "name" (.plain .text)]

/-- The persons who have a pet and know a shop. -/
def customers : Expr :=
  .binary ⟨"and"⟩ .and
    (Builder.existsRow <| Builder.filter pet <|
      .binary ⟨"eq"⟩ .equal (Builder.col "owner") (Builder.column person "id"))
    (Builder.existsRow <| Builder.filter shop <|
      .binary ⟨"eq"⟩ .equal (Builder.col "name") (Builder.col "name"))

/-- A compilation that succeeds leaves the table types of its nested queries registered. One that
comes upon a faulty declaration half-way leaves it out of the registry, and what was there stays. -/
theorem shop_unregistered :
    (Registry.Call.compile person owners).error?
      (Registry.run [.call (.register person), .get pet] {}) = none ∧
    pet ∈ (Registry.run ([.call (.register person), .get pet] ++ [.call (.compile person owners)])
      {}).registered ∧
    (Registry.Call.compile person customers).error?
      (Registry.run [.call (.register person), .get pet] {}) =
      some (.schema "pet shop" (.tableName "pet shop")) ∧
    (Registry.run ([.call (.register person), .get pet] ++ [.call (.compile person customers)])
      {}).find? person = some persons ∧
    shop ∉ (Registry.run ([.call (.register person), .get pet] ++
      [.call (.compile person customers)]) {}).registered := by
  obtain ⟨hkeeps, -, -, -, hadds, hfails⟩ :=
    Registry.run_regular [.call (.register person), .get pet] [.call (.compile person customers)]
  have herror : (Registry.Call.compile person customers).error?
      (Registry.run [.call (.register person), .get pet] {}) =
      some (.schema "pet shop" (.tableName "pet shop")) := rfl
  have hsuccess : (Registry.Call.compile person owners).error?
      (Registry.run [.call (.register person), .get pet] {}) = none := rfl
  have htables : pet ∈ (Registry.Call.compile person owners).types := by
    show pet ∈ [person, pet]
    exact List.mem_cons_of_mem _ List.mem_cons_self
  refine ⟨hsuccess, hadds _ rfl hsuccess pet htables, herror, (hkeeps person persons rfl).1, ?_⟩
  obtain ⟨t, ht, hname, -, hunregistered⟩ := hfails _ _ _ herror rfl
  have htypes : (Registry.Call.compile person customers).types = [person, pet, shop] := rfl
  rw [htypes] at ht
  simp only [List.mem_cons, List.not_mem_nil, or_false] at ht
  rcases ht with rfl | rfl | rfl
  · exact absurd hname (by decide)
  · exact absurd hname (by decide)
  · exact hunregistered

end Sample

end TypedSql
