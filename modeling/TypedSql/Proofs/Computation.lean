import Mathlib.Tactic.Lemma
import TypedSql.Query.Compile

/-!
# Computations with a state that may fail

Registration and compilation are computations that read and write a state and may stop with an
error; what was written before the error stays. This file has the ways in which their runs are
taken apart: a run that succeeds is a chain of successful runs, every run, whether it succeeds or
not, moves the state along any preorder that its steps move it along, two runs keep side by side if
their steps do, two runs agree up to their errors if their steps do, and a run that fails does so at
its first step that fails.

## Main definitions

* `Moves` — every run of a computation moves the state along a relation.
* `Tracks` — two computations from related states have the same result and end in related states.
* `AgreesUpTo` — two computations do the same, except that their errors are related.
* `RaisesOnly` — every error of a run has a property.

## Main results

* `run_bind_ok`, `except_bind_ok` — a sequence succeeds if and only if both its halves do.
* `Moves.bind` — a sequence moves the state as its halves do.
* `Tracks.bind` — two sequences keep side by side if their halves do.
* `AgreesUpTo.bind` — two sequences agree up to their errors if their halves do.
* `RaisesOnly.bind` — the errors of a sequence are those of its halves.
-/

set_option autoImplicit false

namespace TypedSql

variable {ε σ α β : Type}

/-! ## Successful runs -/

/-- A sequence without a state succeeds if and only if both its halves do. -/
theorem except_bind_ok {x : Except ε α} {f : α → Except ε β} {b : β} :
    (x >>= f) = .ok b ↔ ∃ a, x = .ok a ∧ f a = .ok b := by
  cases x with
  | error e => simp [bind, Except.bind]
  | ok a => simp [bind, Except.bind]

/-- A sequence without a state fails if and only if its first half does, or its second half after a
success of the first. -/
lemma except_bind_error {x : Except ε α} {f : α → Except ε β} {e : ε} :
    (x >>= f) = .error e ↔ x = .error e ∨ ∃ a, x = .ok a ∧ f a = .error e := by
  cases x with
  | error e => simp [bind, Except.bind]
  | ok a => simp [bind, Except.bind]

/-- A check fails with its error if its condition does not hold. -/
lemma except_check_error {c : Prop} [Decidable c] {a : α} {e e' : ε} :
    (if c then .ok a else .error e : Except ε α) = .error e' ↔ ¬ c ∧ e = e' := by
  split <;> simp_all

/-- A result that is carried on by a function is that of a success. -/
lemma except_map_ok {x : Except ε α} {f : α → β} {b : β} :
    x.map f = .ok b ↔ ∃ a, x = .ok a ∧ f a = b := by
  cases x <;> simp [Except.map]

/-- A success stays one when the errors are renamed, and no error becomes one. -/
lemma except_mapError_ok {ε' : Type} {x : Except ε α} {f : ε → ε'} {a : α} :
    x.mapError f = .ok a ↔ x = .ok a := by
  cases x with
  | error e => exact iff_of_false nofun nofun
  | ok b =>
    show Except.ok b = .ok a ↔ _
    rw [Except.ok.injEq, Except.ok.injEq]

/-- Without the reasons of errors, the successes are the same. -/
lemma except_toOption_some {x : Except ε α} {a : α} : x.toOption = some a ↔ x = .ok a := by
  cases x <;> simp [Except.toOption]

/-- A computation fails if and only if it does not succeed. -/
lemma except_isOk_false {x : Except ε α} : x.isOk = false ↔ ∃ e, x = .error e := by
  cases x <;> simp [Except.isOk, Except.toBool]

/-- A plain value succeeds with itself. -/
lemma except_pure_ok {a b : α} : (pure a : Except ε α) = .ok b ↔ a = b := by
  simp [pure, Except.pure]

/-- A traversal that adds up succeeds if and only if every element may be added. -/
lemma except_foldlM_ok {f : β → α → Except ε β} {P : α → Prop} {g : β → α → β}
    (h : ∀ b a b', f b a = .ok b' ↔ P a ∧ g b a = b') {as : List α} {b b' : β} :
    as.foldlM f b = .ok b' ↔ (∀ a ∈ as, P a) ∧ as.foldl g b = b' := by
  induction as generalizing b with
  | nil => simp [pure, Except.pure]
  | cons a as ih =>
    simp only [List.foldlM_cons, except_bind_ok, h, ih, List.forall_mem_cons, List.foldl_cons]
    constructor
    · rintro ⟨_, ⟨ha, rfl⟩, has, rfl⟩
      exact ⟨⟨ha, has⟩, rfl⟩
    · rintro ⟨⟨ha, has⟩, rfl⟩
      exact ⟨_, ⟨ha, rfl⟩, has, rfl⟩

/-- A traversal succeeds if and only if it does for every element. -/
lemma except_mapM_ok {f : α → Except ε β} {P : α → Prop} {g : α → β}
    (h : ∀ a b, f a = .ok b ↔ P a ∧ g a = b) {as : List α} {bs : List β} :
    as.mapM f = .ok bs ↔ (∀ a ∈ as, P a) ∧ as.map g = bs := by
  induction as generalizing bs with
  | nil => simp [pure, Except.pure]
  | cons a as ih =>
    simp only [List.mapM_cons, except_bind_ok, except_pure_ok, h, ih, List.forall_mem_cons,
      List.map_cons]
    constructor
    · rintro ⟨_, ⟨ha, rfl⟩, _, ⟨has, rfl⟩, rfl⟩
      exact ⟨⟨ha, has⟩, rfl⟩
    · rintro ⟨⟨ha, has⟩, rfl⟩
      exact ⟨_, ⟨ha, rfl⟩, _, ⟨has, rfl⟩, rfl⟩

/-- A sequence succeeds if and only if both its halves do. -/
theorem run_bind_ok {x : ExceptT ε (StateM σ) α} {f : α → ExceptT ε (StateM σ) β}
    {s s' : σ} {b : β} :
    (x >>= f) s = (.ok b, s') ↔ ∃ a s₁, x s = (.ok a, s₁) ∧ f a s₁ = (.ok b, s') := by
  show (ExceptT.bindCont f (x s).1) (x s).2 = _ ↔ _
  rcases x s with ⟨e | a, s₁⟩
  · constructor
    · rintro ⟨⟩
    · rintro ⟨a, s₂, ⟨⟩, -⟩
  · constructor
    · exact fun h => ⟨a, s₁, rfl, h⟩
    · rintro ⟨a, s₂, ⟨⟩, h⟩
      exact h

/-- A plain value is computed without a change to the state. -/
lemma run_pure_ok {s s' : σ} {a b : α} :
    (pure a : ExceptT ε (StateM σ) α) s = (.ok b, s') ↔ a = b ∧ s = s' := by
  show ((.ok a, s) : Except ε α × σ) = (.ok b, s') ↔ _
  simp

/-- A computation without a state succeeds without a change to the state. -/
lemma run_lift_ok {x : Except Error α} {s s' : σ} {b : α} :
    (liftM x : ExceptT Error (StateM σ) α) s = (.ok b, s') ↔ x = .ok b ∧ s = s' := by
  show ((x, s) : Except Error α × σ) = (.ok b, s') ↔ _
  simp

/-- An error is no success. -/
lemma run_throw_ok {e : Error} {s s' : σ} {b : α} :
    (throw e : ExceptT Error (StateM σ) α) s = (.ok b, s') ↔ False := by
  show ((.error e, s) : Except Error α × σ) = (.ok b, s') ↔ _
  simp

/-- A sequence goes on from a success of its first half. -/
lemma run_bind_of_ok {x : ExceptT ε (StateM σ) α} {f : α → ExceptT ε (StateM σ) β}
    {s s₁ : σ} {a : α} (h : x s = (.ok a, s₁)) : (x >>= f) s = f a s₁ := by
  show (ExceptT.bindCont f (x s).1) (x s).2 = _
  rw [h]
  rfl

/-- A sequence stops at an error of its first half. -/
lemma run_bind_of_error {x : ExceptT Error (StateM σ) α} {f : α → ExceptT Error (StateM σ) β}
    {s s₁ : σ} {e : Error} (h : x s = (.error e, s₁)) : (x >>= f) s = (.error e, s₁) := by
  show (ExceptT.bindCont f (x s).1) (x s).2 = _
  rw [h]
  rfl

/-! ## What every run keeps -/

/-- Every run of the computation, successful or not, moves the state along the relation. -/
def Moves (R : σ → σ → Prop) (x : ExceptT ε (StateM σ) α) : Prop := ∀ s, R s (x s).2

namespace Moves

variable {R : σ → σ → Prop}

/-- A plain value leaves the state where it is. -/
lemma pure (refl : ∀ s, R s s) (a : α) :
    Moves R (Pure.pure a : ExceptT ε (StateM σ) α) := refl

/-- A computation without a state leaves it where it is. -/
lemma lift (refl : ∀ s, R s s) (x : Except ε α) :
    Moves R (liftM x : ExceptT ε (StateM σ) α) := refl

/-- An error leaves the state where it is. -/
lemma throw (refl : ∀ s, R s s) (e : ε) :
    Moves R (MonadExcept.throw e : ExceptT ε (StateM σ) α) := refl

/-- A sequence stops at an error of its first half, and goes on from the state of a success. -/
theorem bind (trans : ∀ s₁ s₂ s₃, R s₁ s₂ → R s₂ s₃ → R s₁ s₃)
    {x : ExceptT ε (StateM σ) α} {f : α → ExceptT ε (StateM σ) β}
    (hx : Moves R x) (hf : ∀ a, Moves R (f a)) : Moves R (x >>= f) := by
  intro s
  show R s ((ExceptT.bindCont f (x s).1) (x s).2).2
  have h := hx s
  generalize x s = r at h ⊢
  rcases r with ⟨e | a, s₁⟩
  · exact h
  · exact trans _ _ _ h (hf a s₁)

end Moves

/-! ## Two runs side by side -/

/-- From related states, the two computations end in related states and have the same result; an
error of the second is that of the first under a function. -/
def Tracks (S : σ → σ → Prop) (f : Error → Error) (x y : ExceptT Error (StateM σ) α) : Prop :=
  ∀ s s', S s s' → (y s').1 = (x s).1.mapError f ∧ S (x s).2 (y s').2

namespace Tracks

variable {S : σ → σ → Prop} {f : Error → Error}

/-- A plain value keeps beside itself. -/
lemma pure (a : α) : Tracks S f (Pure.pure a) (Pure.pure a) := fun _ _ h => ⟨rfl, h⟩

/-- Two computations without a state keep side by side if the errors correspond. -/
lemma lift {x y : Except Error α} (h : y = x.mapError f) : Tracks S f (liftM x) (liftM y) :=
  fun _ _ hs => ⟨h, hs⟩

/-- Two errors keep side by side if they correspond. -/
lemma throw {e e' : Error} (h : e' = f e) :
    Tracks S f (MonadExcept.throw e : ExceptT Error (StateM σ) α) (MonadExcept.throw e') :=
  fun _ _ hs => ⟨congrArg Except.error h, hs⟩

/-- Two sequences keep side by side if their first halves do, and their second halves after one
result of the first. -/
theorem bind {x y : ExceptT Error (StateM σ) α} {g k : α → ExceptT Error (StateM σ) β}
    (hx : Tracks S f x y) (hg : ∀ a, Tracks S f (g a) (k a)) : Tracks S f (x >>= g) (y >>= k) := by
  intro s s' hs
  obtain ⟨hresult, hstate⟩ := hx s s' hs
  rcases hrun : x s with ⟨e | a, s₁⟩ <;> rcases hrun' : y s' with ⟨result, s₁'⟩ <;>
    rw [hrun, hrun'] at hresult hstate <;> cases hresult
  · rw [run_bind_of_error hrun, run_bind_of_error hrun']
    exact ⟨rfl, hstate⟩
  · rw [run_bind_of_ok hrun, run_bind_of_ok hrun']
    exact hg a s₁ s₁' hstate

end Tracks

/-! ## The same runs up to their errors -/

/-- From every state the two computations do the same, or fail in one state with related errors. -/
def AgreesUpTo (R : Error → Error → Prop) (x y : ExceptT Error (StateM σ) α) : Prop :=
  ∀ s, x s = y s ∨ ∃ e e' s', x s = (.error e, s') ∧ y s = (.error e', s') ∧ R e e'

namespace AgreesUpTo

variable {R : Error → Error → Prop}

/-- A computation agrees with itself. -/
lemma refl (x : ExceptT Error (StateM σ) α) : AgreesUpTo R x x := fun _ => .inl rfl

/-- Two computations without a state agree if they are the same or have related errors. -/
lemma lift {x y : Except Error α}
    (h : x = y ∨ ∃ e e', x = .error e ∧ y = .error e' ∧ R e e') :
    AgreesUpTo R (liftM x : ExceptT Error (StateM σ) α) (liftM y) := by
  intro s
  rcases h with rfl | ⟨e, e', rfl, rfl, hR⟩
  · exact .inl rfl
  · exact .inr ⟨e, e', s, rfl, rfl, hR⟩

/-- Two related errors agree. -/
lemma throw {e e' : Error} (h : R e e') :
    AgreesUpTo R (MonadExcept.throw e : ExceptT Error (StateM σ) α) (MonadExcept.throw e') :=
  fun s => .inr ⟨e, e', s, rfl, rfl, h⟩

/-- Two sequences agree if their first halves do, and their second halves after one result of the
first. -/
theorem bind {x y : ExceptT Error (StateM σ) α} {f g : α → ExceptT Error (StateM σ) β}
    (hx : AgreesUpTo R x y) (hf : ∀ a, AgreesUpTo R (f a) (g a)) :
    AgreesUpTo R (x >>= f) (y >>= g) := by
  intro s
  rcases hx s with hsame | ⟨e, e', s', hx, hy, hR⟩
  · rcases hrun : y s with ⟨e | a, s₁⟩ <;> rw [hrun] at hsame
    · rw [run_bind_of_error hsame, run_bind_of_error hrun]
      exact .inl rfl
    · rw [run_bind_of_ok hsame, run_bind_of_ok hrun]
      exact hf a s₁
  · exact .inr ⟨e, e', s', run_bind_of_error hx, run_bind_of_error hy, hR⟩

/-- Computations that agree up to equal errors are the same. -/
lemma eq {x y : ExceptT Error (StateM σ) α} (h : AgreesUpTo Eq x y) : x = y := by
  funext s
  rcases h s with hsame | ⟨e, e', s', hx, hy, rfl⟩
  · exact hsame
  · rw [hx, hy]

end AgreesUpTo

/-! ## What a run fails with -/

/-- If the run from a state fails, then with an error that has the property. -/
def RaisesOnly (P : ε → Prop) (x : ExceptT ε (StateM σ) α) (s : σ) : Prop :=
  ∀ e s', x s = (.error e, s') → P e

namespace RaisesOnly

variable {P Q : ε → Prop} {s : σ}

/-- A plain value raises nothing. -/
lemma pure (a : α) : RaisesOnly P (Pure.pure a : ExceptT ε (StateM σ) α) s :=
  fun _ _ h => nomatch h

/-- A computation without a state raises its own error. -/
lemma lift {x : Except ε α} (h : ∀ e, x = .error e → P e) :
    RaisesOnly P (liftM x : ExceptT ε (StateM σ) α) s := fun e s' hrun =>
  h e (Prod.mk.inj (show (x, s) = (.error e, s') from hrun)).1

/-- An error raises itself. -/
lemma throw {e : ε} (h : P e) :
    RaisesOnly P (MonadExcept.throw e : ExceptT ε (StateM σ) α) s := by
  rintro _ _ ⟨⟩
  exact h

/-- What raises only errors with one property raises only errors with a weaker one. -/
lemma mono {x : ExceptT ε (StateM σ) α} (hx : RaisesOnly P x s) (h : ∀ e, P e → Q e) :
    RaisesOnly Q x s := fun e s' hrun => h e (hx e s' hrun)

/-- The errors of a sequence are those of its first half, and those of its second half after a
success of the first. -/
theorem bind {x : ExceptT ε (StateM σ) α} {f : α → ExceptT ε (StateM σ) β}
    (hx : RaisesOnly P x s) (hf : ∀ a s₁, x s = (.ok a, s₁) → RaisesOnly P (f a) s₁) :
    RaisesOnly P (x >>= f) s := by
  intro e s' hrun
  change ExceptT.bindCont f (x s).1 (x s).2 = _ at hrun
  rcases hfirst : x s with ⟨e₁ | a, s₁⟩ <;> rw [hfirst] at hrun
  · cases hrun
    exact hx e s₁ hfirst
  · exact hf a s₁ hfirst e s' hrun

end RaisesOnly

end TypedSql
