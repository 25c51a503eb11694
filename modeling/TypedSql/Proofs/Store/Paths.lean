import TypedSql.Proofs.Store.Runs

/-!
# Paths of databases

A call of a program changes a database in two ways: it uses the registry, and the store runs
statements. What both keep, every run of a program keeps, whatever table types it uses. This file
shows this for any preorder on databases, and from it that the registry stays sound and that the
columns of each table have different names.

## Main definitions

* `Database.IsPath` — a preorder along which the registry and the store move a database.
* `Store.IsDistinct` — the columns of each table have different names.
* `Database.IsSound` — that, with a sound registry.

## Main results

* `Database.Call.run_moves`, `Database.run_moves` — every run moves a database along a path.
* `Store.run_isDistinct` — what a statement keeps.
* `Database.isSound_run` — what every run of a program keeps.
-/

set_option autoImplicit false

namespace TypedSql

/-! ## Stores -/

/-- Whether the columns of each table of a store have different names. -/
def Store.IsDistinct (s : Store) : Prop :=
  ∀ t ∈ s.tables, hasSameNames (t.declared.columns.map (·.name)) = false

namespace Store

variable {s s' : Store} {columns : List String}

/-- A table takes the place of one of the same declaration. -/
lemma IsDistinct.put (hs : s.IsDistinct) {t u : StoredTable} (ht : t ∈ s.tables)
    (hu : u.declared = t.declared) : (s.put u).IsDistinct := by
  intro v hv
  obtain ⟨w, hw, rfl⟩ := List.mem_map.mp hv
  split
  · rw [hu]
    exact hs t ht
  · exact hs w hw

/-- Names stay distinct when a table is changed and passes its check. -/
lemma IsDistinct.checked (hs : s.IsDistinct) {t u : StoredTable} (ht : t ∈ s.tables)
    (h : (s.put u).checked u = .ok s') (hu : u.declared = t.declared) : s'.IsDistinct := by
  rw [eq_of_checked h]
  exact hs.put ht hu

/-- Names stay distinct when rows are changed. -/
lemma changeRows_isDistinct (hs : s.IsDistinct) {t : StoredTable} (ht : t ∈ s.tables)
    {change : StoredRow → StoredRow} {chosen : StoredRow → Bool}
    (h : s.changeRows t columns change chosen = .ok s') : s'.IsDistinct := by
  obtain ⟨u, rfl, hchecked⟩ := changeRows_ok h
  exact hs.checked ht hchecked rfl

/-- Names stay distinct when the rows that refer to deleted ones are deleted. -/
lemma cascade_isDistinct {n : Nat} {parent : StoredTable} {gone : List StoredRow}
    (hs : s.IsDistinct) : (cascade n s parent gone).IsDistinct := by
  induction n generalizing s parent gone with
  | zero => exact hs
  | succ n ih =>
    rw [cascade]
    refine List.foldlRecOn s.tables _ hs fun s hs child _ => ?_
    split
    · exact hs
    · rename_i t hfound
      rw [List.partition_eq_filter_filter]
      dsimp only
      split
      · exact hs
      · exact ih (hs.put (List.mem_of_find?_eq_some hfound) rfl)

/-- Every statement leaves tables whose columns have different names. -/
theorem run_isDistinct (hs : s.IsDistinct) {statement : Statement} {o : Outcome}
    (h : s.run statement = .ok (o, s')) : s'.IsDistinct := by
  have heffect := effect_of_run h
  generalize statement.command = command at heffect
  cases heffect with
  | read h => exact h ▸ hs
  | delete h =>
    obtain ⟨t, u, kept, htable, rfl, rfl | ⟨bound, gone, rfl⟩⟩ := delete_ok h
    · exact hs.put (mem_of_table htable) rfl
    · exact cascade_isDistinct (hs.put (mem_of_table htable) rfl)
  | insert h =>
    obtain ⟨t, r, htable, -, -, hchecked⟩ := insert_ok h
    exact hs.checked (mem_of_table htable) hchecked rfl
  | upsert h =>
    obtain ⟨t, places, r, htable, -, -, hadded | ⟨chosen, hchange⟩⟩ := upsert_ok h
    · exact hs.checked (mem_of_table htable) hadded rfl
    · exact changeRows_isDistinct hs (mem_of_table htable) hchange
  | update h =>
    obtain ⟨t, places, chosen, htable, -, hchange⟩ := update_ok h
    exact changeRows_isDistinct hs (mem_of_table htable) hchange
  | createTable h =>
    rcases createTable_cases h with rfl | ⟨htables, hdistinct⟩
    · exact hs
    · intro u hu
      rcases List.mem_append.mp (htables ▸ hu) with hu | hu
      · exact hs u hu
      · obtain rfl := List.mem_singleton.mp hu
        exact hdistinct
  | createIndex h =>
    intro t ht
    exact hs t (tables_of_createIndex h ▸ ht)

end Store

/-! ## Databases -/

namespace Database

/-- A preorder on databases along which a database is moved by each use of its registry, and by
each statement that its store runs. -/
structure IsPath (R : Database → Database → Prop) : Prop where
  refl : ∀ db, R db db
  trans : ∀ db₁ db₂ db₃, R db₁ db₂ → R db₂ db₃ → R db₁ db₃
  registry : ∀ s, Registry.IsPath fun r r' => R ⟨r, s⟩ ⟨r', s⟩
  store : ∀ {statement o s s'}, s.run statement = .ok (o, s') → ∀ r, R ⟨r, s⟩ ⟨r, s'⟩

section Moves

variable {R : Database → Database → Prop} {α β : Type}

/-- An event that is no registration is a step. -/
lemma moves_logEvent (h : IsPath R) {e : Event} (he : e.isRegistration = false) :
    Moves R (logEvent e) := fun db => (h.registry db.store).logEvent e he db.registry

/-- A statement moves the store along a path. -/
lemma moves_runOnStore (h : IsPath R) (s : Statement) : Moves R (runOnStore s) := by
  intro db
  unfold runOnStore
  split
  · exact h.store ‹_› db.registry
  · exact h.refl db

/-- The statements of a creation move the store along a path. -/
lemma moves_createAll (h : IsPath R) (cs : List Command) : Moves R (createAll cs) := by
  induction cs with
  | nil => exact h.refl
  | cons c cs ih =>
    exact .bind h.trans (moves_logEvent h rfl) fun _ =>
      .bind h.trans (moves_runOnStore h ⟨c, []⟩) fun _ => ih

/-- A statement that is assembled, logged and run. -/
lemma moves_write (h : IsPath R) {x : DatabaseAction Statement} (hx : Moves R x)
    {f : Outcome → DatabaseAction β} (hf : ∀ o, Moves R (f o)) :
    Moves R (x >>= fun s => execute s >>= f) :=
  .bind h.trans hx fun s => .bind h.trans
    (.bind h.trans (moves_logEvent h rfl) fun _ => moves_runOnStore h s) hf

/-- What is computed without the database does not move it. -/
lemma moves_result (h : IsPath R) (x : Except DatabaseError α) :
    Moves R (ExceptT.mk (Pure.pure x) : DatabaseAction α) := h.refl

/-- The search for at most one row moves the database along a path. -/
lemma moves_findOptional (h : IsPath R) (q : Query) (args : List Cell) :
    Moves R (findOptional q args) := by
  refine moves_write h (moves_result h _) fun o => ?_
  split
  · exact .pure h.refl _
  · exact .bind h.trans (moves_result h _) fun _ => .pure h.refl _

/-- Every call moves a database along a path, whether it succeeds or fails. -/
theorem Call.run_moves (h : IsPath R) (c : Call) (db : Database) : R db (c.run db) := by
  have hmoves {α : Type} {x : DatabaseAction α} (hx : Moves R x) : R db (x db).2 := hx db
  -- what is assembled from the registry uses it by itself
  have huse (call : Registry.Call) (db : Database) :
      R db ⟨call.run db.registry, db.store⟩ := call.run_moves (h.registry db.store) db.registry
  cases c with
  | createTable t =>
    exact hmoves (.bind h.trans (huse (.creation t)) fun cs =>
      .bind h.trans (moves_createAll h cs) fun _ => moves_logEvent h rfl)
  | insert t row =>
    refine hmoves (moves_write h (x := withRegistry (Statement.insert t row))
      (huse (.insert t row)) fun o => ?_)
    cases o <;> exact .pure h.refl _
  | upsert t row =>
    exact hmoves (moves_write h (x := withRegistry (Statement.upsert t row))
      (huse (.upsert t row)) fun _ => .pure h.refl _)
  | update t row =>
    exact hmoves (moves_write h (x := withRegistry (Statement.update t row))
      (huse (.update t row)) fun _ => .pure h.refl _)
  | query t filter => exact hmoves (huse (.compile t filter))
  | delete q args => exact hmoves (moves_write h (moves_result h _) fun _ => .pure h.refl _)
  | findOptional q args => exact hmoves (moves_findOptional h q args)
  | find q args =>
    refine hmoves (.bind h.trans (moves_findOptional h q args) fun row => ?_)
    cases row with
    | none => exact moves_result h _
    | some row => exact .pure h.refl _
  | findAll q args =>
    exact hmoves (moves_write h (moves_result h _) fun _ => moves_result h _)
  | anyRow q args =>
    refine hmoves (moves_write h (moves_result h _) fun o => ?_)
    cases o <;> exact .pure h.refl _

/-- Every run of a program moves a database along a path. -/
theorem run_moves (h : IsPath R) (calls : List Call) (db : Database) : R db (run calls db) := by
  induction calls generalizing db with
  | nil => exact h.refl db
  | cons c calls ih => exact h.trans _ _ _ (c.run_moves h db) (ih _)

end Moves

/-- Whether the registry holds the tables of its types' declarations, and the columns of each stored
table have different names. -/
structure IsSound (db : Database) : Prop where
  registry : db.registry.IsSound
  store : db.store.IsDistinct

/-- Every step keeps a database sound. -/
lemma isPath_isSound : IsPath fun db db' => db.IsSound → db'.IsSound where
  refl _ := id
  trans _ _ _ h₁ h₂ := h₂ ∘ h₁
  registry _ :=
    { refl := fun _ => id
      trans := fun _ _ _ h₁ h₂ => h₂ ∘ h₁
      register := fun t r h => ⟨Registry.isPath_isSound.register t r h.registry, h.store⟩
      logEvent := fun e he r h => ⟨Registry.isPath_isSound.logEvent e he r h.registry, h.store⟩ }
  store hrun _ h := ⟨h.registry, Store.run_isDistinct h.store hrun⟩

/-- Every run of a program from a database that has just been opened leaves the registry sound, and
the columns of each table with different names. -/
theorem isSound_run {config : ConnectionConfig} {db : Database} (h : connect config = .ok db)
    (calls : List Call) : (run calls db).IsSound := by
  refine run_moves isPath_isSound calls db ?_
  unfold connect at h
  split at h <;> cases h
  exact ⟨nofun, nofun⟩

end Database

end TypedSql
