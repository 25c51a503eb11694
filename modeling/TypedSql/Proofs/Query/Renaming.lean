import TypedSql.Proofs.Query.Placement
import TypedSql.Proofs.Query.Tracking

/-!
# Parameter names and captured values do not reach the text

The names of parameters tell which of them share a position, and a captured value is kept in the
arena; neither is ever written. So a filter in which the names are replaced one to one, and captured
values by other ones, compiles to the same text.

## Main definitions

* `Parameter.RenamedBy` — a parameter with another name, and another value if it is captured.
* `Error.renamed` — an error with the name of a parameter replaced.

## Main results

* `Arena.place_renamed` — renamed parameters are placed alike.
* `Query.compile_renamed` — renamed filters compile to the same text, or fail for the same cause.
-/

set_option autoImplicit false

namespace TypedSql

/-! ## Renaming -/

/-- Whether a parameter becomes another one when names are replaced: of the same kind, captured if
it is, but perhaps with another value. -/
structure Parameter.RenamedBy (ρ : String → String) (p q : Parameter) : Prop where
  name : q.name = p.name.map ρ
  kind : q.kind = p.kind
  isRuntime : q.isRuntime = p.isRuntime

/-- A construct with the name of a parameter replaced. -/
def Construct.renamed (ρ : String → String) : Construct → Construct
  | .parameter name => .parameter (ρ name)
  | c => c

/-- A refusal with the name of a parameter replaced. -/
def Refusal.renamed (ρ : String → String) : Refusal → Refusal
  | .mixedParameter name => .mixedParameter (ρ name)
  | r => r

namespace Error

/-- An error with the name of a parameter replaced. -/
def renamed (ρ : String → String) : Error → Error
  | .mismatch site construct expected found => .mismatch site (construct.renamed ρ) expected found
  | .refused site refusal => .refused site (refusal.renamed ρ)
  | e => e

/-- An error that mentions no parameter stays as it is. -/
lemma renamed_of_parameter?_none (ρ : String → String) {e : Error} (h : e.parameter? = none) :
    e.renamed ρ = e := by
  cases e with
  | mismatch site construct expected found => cases construct <;> first | rfl | cases h
  | refused site refusal => cases refusal <;> first | rfl | cases h
  | _ => rfl

/-- A renamed error points to the same site. -/
lemma site?_renamed (ρ : String → String) (e : Error) : (e.renamed ρ).site? = e.site? := by
  cases e <;> rfl

end Error

/-! ## Placing renamed parameters -/

/-- Tests that agree on the elements of two lists in pairs find the same index. -/
lemma findIdx?_eq_of_forall₂ {α β : Type} {R : α → β → Prop} {p : α → Bool} {q : β → Bool}
    (hpq : ∀ a b, R a b → p a = q b) {as : List α} {bs : List β} (h : List.Forall₂ R as bs) :
    as.findIdx? p = bs.findIdx? q := by
  induction h with
  | nil => rfl
  | cons hab _ ih => rw [List.findIdx?_cons, List.findIdx?_cons, hpq _ _ hab, ih]

namespace Arena

variable {ρ : String → String} {a a' : Arena}

/-- A replaced name is found where the name is, or neither is found. -/
lemma findName?_renamed (hρ : Function.Injective ρ)
    (h : List.Forall₂ (Parameter.RenamedBy ρ) a.slots a'.slots) (name : String) :
    (a.findName? name = none ∧ a'.findName? (ρ name) = none) ∨
      ∃ i slot slot', a.findName? name = some (i, slot) ∧
        a'.findName? (ρ name) = some (i, slot') ∧ slot.RenamedBy ρ slot' := by
  have hindex : a.slots.findIdx? (·.name == some name) =
      a'.slots.findIdx? (·.name == some (ρ name)) := by
    refine findIdx?_eq_of_forall₂ (fun p q hpq => ?_) h
    rw [hpq.name]
    cases p.name with
    | none => rfl
    | some other => simp [hρ.eq_iff]
  unfold findName?
  rw [← hindex]
  cases hfind : a.slots.findIdx? (·.name == some name) with
  | none => exact .inl ⟨rfl, rfl⟩
  | some i =>
    obtain ⟨hi, -⟩ := List.findIdx?_eq_some_iff_getElem.mp hfind
    have hi' : i < a'.slots.length := h.length_eq ▸ hi
    refine .inr ⟨i, a.slots[i], a'.slots[i], ?_, ?_, h.get hi hi'⟩ <;> simp [hi, hi']

/-- Renamed parameters are placed at one position of renamed arenas, or refused for one cause. -/
theorem place_renamed (hρ : Function.Injective ρ)
    (h : List.Forall₂ (Parameter.RenamedBy ρ) a.slots a'.slots) (site : Site) {p p' : Parameter}
    (hp : p.RenamedBy ρ p') :
    PlacedAlike (Parameter.RenamedBy ρ) (Error.renamed ρ) (a.place site p) (a'.place site p') := by
  have hpush : PlacedAlike (Parameter.RenamedBy ρ) (Error.renamed ρ) (.ok (a.size + 1, a.push p))
      (.ok (a'.size + 1, a'.push p')) := by
    refine .inl ⟨_, _, _, rfl, ?_, List.rel_append h (.cons hp .nil)⟩
    rw [size, size, h.length_eq]
    rfl
  unfold place
  rw [hp.name]
  cases p.name with
  | none => exact hpush
  | some name =>
    simp only [Option.map_some]
    rcases findName?_renamed hρ h name with
      ⟨hfind, hfind'⟩ | ⟨i, slot, slot', hfind, hfind', hslot⟩
    · simp only [hfind, hfind']
      exact hpush
    · simp only [hfind, hfind', hslot.kind, hslot.isRuntime, hp.kind, hp.isRuntime]
      split
      · exact .inr ⟨_, rfl, rfl⟩
      · split
        · exact .inr ⟨_, rfl, rfl⟩
        · exact .inl ⟨_, _, _, rfl, rfl, h⟩

end Arena

/-! ## Compiling renamed filters -/

/-- Two filters that differ in the names of their parameters, replaced one to one, and in captured
values compile to queries of one text, whose slots have the same kinds and are captured in pairs, or
fail for the same cause at the same site.

Proof sketch. The two compilations keep side by side: placing a parameter looks at its kind, at
whether it is captured and at which slot has its name, and all of these are the same on both sides;
nothing else looks at a parameter. -/
theorem Query.compile_renamed {ρ : String → String} (hρ : Function.Injective ρ)
    {filter filter' : Expr} (h : Expr.Alike (Parameter.RenamedBy ρ) filter filter')
    {r r' : Registry} (hr : r.IsReachable) (hr' : r'.IsReachable) (t : TableType) :
    (∃ q q' s s', Query.compile t filter r = (.ok q, s) ∧
      Query.compile t filter' r' = (.ok q', s') ∧ q'.conditionText = q.conditionText ∧
      q' = { q with arena := q'.arena } ∧
      List.Forall₂ (Parameter.RenamedBy ρ) q.arena.slots q'.arena.slots) ∨
    ∃ e s s', Query.compile t filter r = (.error e, s) ∧
      Query.compile t filter' r' = (.error (e.renamed ρ), s') ∧
      (e.renamed ρ).site? = e.site? := by
  have htracking : Compiling.IsTracking (Workspace.Related (Parameter.RenamedBy ρ))
      (Parameter.RenamedBy ρ) (Error.renamed ρ) :=
    Compiling.isTracking_related
      (fun _ _ site _ _ hslots hp => Arena.place_renamed hρ hslots site hp)
      (fun _ _ hp => hp.kind) fun _ => Error.renamed_of_parameter?_none ρ
  rcases Query.compile_alike htracking h hr.isSound hr'.isSound t with
    ⟨q, q', s, s', hrun, hrun', hq, hslots⟩ | ⟨e, s, s', hrun, hrun'⟩
  · refine .inl ⟨q, q', s, s', hrun, hrun', ?_, hq, hslots⟩
    rw [hq]
    rfl
  · exact .inr ⟨e, s, s', hrun, hrun', Error.site?_renamed ρ e⟩

namespace Sample

/-- The persons from a limit on who are not called by a captured name. -/
def notCalled (limit captured : String) : Expr :=
  .binary ⟨"and"⟩ .and
    (.binary ⟨"ge"⟩ .greaterEqual (Builder.col "id")
      (Builder.param (.required (.integer .int64)) limit))
    (.binary ⟨"ne"⟩ .notEqual (Builder.col "name") (Builder.val (.required .text) captured))

/-- Another name of the limit and a captured text that reads like SQL give the same text. -/
theorem notCalled_renamed :
    ∃ q q' s s', Query.compile person (notCalled "low" "Rex") {} = (.ok q, s) ∧
      Query.compile person (notCalled "new_low" "' OR 1 = 1 --") {} = (.ok q', s') ∧
      q'.conditionText = q.conditionText ∧ q' = { q with arena := q'.arena } ∧
      List.Forall₂ (Parameter.RenamedBy ("new_" ++ ·)) q.arena.slots q'.arena.slots := by
  have hinjective : Function.Injective ("new_" ++ · : String → String) := by
    intro s t h
    simpa using h
  have halike : Expr.Alike (Parameter.RenamedBy ("new_" ++ ·)) (notCalled "low" "Rex")
      (notCalled "new_low" "' OR 1 = 1 --") :=
    .binary _ _ (.binary _ _ (.column _ _) (.param _ ⟨rfl, rfl, rfl⟩))
      (.binary _ _ (.column _ _) (.param _ ⟨rfl, rfl, rfl⟩))
  have hempty : Registry.IsReachable {} := ⟨[], rfl⟩
  have hok : ∃ q s, Query.compile person (notCalled "low" "Rex") {} = (.ok q, s) := ⟨_, _, rfl⟩
  rcases Query.compile_renamed hinjective halike hempty hempty person with h | ⟨e, s, s', herror, -⟩
  · exact h
  · obtain ⟨q, s, hok⟩ := hok
    cases hok.symm.trans herror

end Sample

end TypedSql
