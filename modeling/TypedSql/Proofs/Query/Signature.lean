import TypedSql.Proofs.Computation

/-!
# Signatures of the operators

The declared signature of an operator says which kinds its operands may have and which kind its
result has; it does not depend on the order in which the operands are looked at. This file states
the signatures and shows that the checks of compilation decide them.

## Main definitions

* `Kind.joined` — a scalar kind that admits NULL if one of the given kinds does.
* `BinaryOp.Accepts`, `ScalarFunction.Accepts` — the kinds of operands.
* `BinaryOp.resultScalar`, `ScalarFunction.resultScalar` — the scalar kind of the result.

## Main results

* `Typed.binary_ok`, `Typed.like_ok`, … — when an operator compiles, and to what.
-/

set_option autoImplicit false

namespace TypedSql

/-- A scalar kind that admits NULL if one of the given kinds does. -/
def Kind.joined (s : Scalar) (ks : List Kind) : Kind :=
  (Kind.plain s).nullableIf (ks.any (·.isNullable))

/-- The kind of a literal; NULL has none. -/
def Cell.scalar? : Cell → Option Scalar
  | .null => none
  | .bool _ => some .boolean
  | .int _ => some .integer
  | .real _ => some .real
  | .text _ => some .text
  | .blob _ => some .blob

namespace BinaryOp

/-- The kinds that the two operands may have. -/
def Accepts (op : BinaryOp) (k l : Kind) : Prop :=
  match op with
  | .equal | .notEqual => k.IsComparable l
  | .less | .lessEqual | .greater | .greaterEqual =>
    k.isOrderable = true ∧ l.isOrderable = true ∧ k.IsComparable l
  | .and | .or => k.scalar = .boolean ∧ l.scalar = .boolean
  | .add | .sub | .mul | .div | .rem => k.isNumeric = true ∧ l.isNumeric = true
  | .concat => k.scalar = .text ∧ l.scalar = .text

/-- The scalar kind of the result: arithmetic with a real gives a real. -/
def resultScalar (op : BinaryOp) (k l : Kind) : Scalar :=
  match op with
  | .add | .sub | .mul | .div | .rem =>
    if k.scalar = .real ∨ l.scalar = .real then .real else .integer
  | .concat => .text
  | _ => .boolean

end BinaryOp

namespace ScalarFunction

/-- The kinds that the argument may have. -/
def Accepts (f : ScalarFunction) (k : Kind) : Prop :=
  match f with
  | .lower | .upper => k.scalar = .text
  | .length => k.scalar = .text ∨ k.scalar = .blob
  | .abs => k.isNumeric = true

/-- The scalar kind of the result. -/
def resultScalar (f : ScalarFunction) (k : Kind) : Scalar :=
  match f with
  | .lower | .upper => .text
  | .length => .integer
  | .abs => k.scalar

end ScalarFunction

/-! ## Comparable kinds -/

/-- Comparable kinds are both ordered or both not, so that it is enough to look at one of them. -/
lemma Kind.IsComparable.isOrderable_eq {k l : Kind} (h : k.IsComparable l) :
    k.isOrderable = l.isOrderable := by
  rcases h with h | ⟨hk, hl⟩
  · simp only [Kind.isOrderable, h]
  · obtain ⟨s, m⟩ := k
    obtain ⟨u, n⟩ := l
    cases s <;> cases u <;> simp_all [Kind.isNumeric, Scalar.isNumeric, Kind.isOrderable,
      Scalar.isOrderable]

namespace Typed

/-! ## The checks -/

variable {site : Site} {construct : Construct}

/-- An operand passes for a scalar kind if it has it. -/
lemma requireScalar_ok {s : Scalar} {e : Typed} :
    e.requireScalar site construct s = .ok () ↔ e.kind.scalar = s := by
  unfold requireScalar
  split <;> simp_all

/-- An operand passes for a number if its kind is numeric. -/
lemma requireNumeric_ok {e : Typed} :
    e.requireNumeric site construct = .ok () ↔ e.kind.isNumeric = true := by
  unfold requireNumeric
  split <;> simp_all

/-- An operand passes for orderable if its kind is. -/
lemma requireOrderable_ok {e : Typed} :
    e.requireOrderable site construct = .ok () ↔ e.kind.isOrderable = true := by
  unfold requireOrderable
  split <;> simp_all

/-- Two operands pass for comparable if their kinds are. -/
lemma requireComparable_ok {l r : Typed} :
    requireComparable site construct l r = .ok () ↔ l.kind.IsComparable r.kind := by
  unfold requireComparable
  split <;> simp_all

/-- A check is followed by the rest if it succeeds. -/
lemma check_ok {β : Type} {x : Except Error Unit} {f : Unit → Except Error β} {b : β} :
    (x >>= f) = .ok b ↔ x = .ok () ∧ f () = .ok b :=
  except_bind_ok.trans ⟨fun ⟨(), h⟩ => h, fun h => ⟨(), h⟩⟩

/-! ## The operators -/

/-- The kind of a result joins those of the operands. -/
lemma resultKind_eq (s : Scalar) (es : List Typed) :
    resultKind s es = Kind.joined s (es.map (·.kind)) := by
  simp [resultKind, Kind.joined, List.any_map, Function.comp_def]

/-- A literal has a spelling unless it is NULL or a real that is no number. -/
lemma literal_ok {v : Cell} {t : Typed} :
    literal site v = .ok t ↔
      (∃ s, v.scalar? = some s ∧ ⟨.literal v, .plain s⟩ = t) ∧
        ∀ x, v = .real x → x.isFinite = true := by
  cases v with
  | real x =>
    simp only [literal, Cell.scalar?]
    split <;> simp_all
  | _ => simp [literal, Cell.scalar?]

/-- The name of a truth value is its literal, any other name that of a column of the table. -/
lemma column_ok {table : Table} {name : String} {t : Typed} :
    column site table name = .ok t ↔
      (∃ b, truthName? name = some b ∧ ⟨.literal (.bool b), .plain .boolean⟩ = t) ∨
        truthName? name = none ∧ ∃ c, table.column? name = some c ∧
          ⟨.column table.name name, c.kind⟩ = t := by
  unfold column
  cases truthName? name with
  | some b => simp [literal]
  | none =>
    cases hc : table.column? name with
    | none => simp
    | some c => simp [Table.name_of_column? hc]

/-- A negation is made of a truth value, and admits NULL if this does. -/
lemma not_ok {e t : Typed} :
    e.not site = .ok t ↔
      e.kind.scalar = .boolean ∧ ⟨.not e.condition, Kind.joined .boolean [e.kind]⟩ = t := by
  simp only [Typed.not, check_ok, except_pure_ok, requireScalar_ok, resultKind_eq, List.map_cons,
    List.map_nil]

/-- The checks of an operator decide its signature. -/
lemma checkOperands_ok {op : BinaryOp} {l r : Typed} :
    checkOperands site op l r = .ok () ↔ op.Accepts l.kind r.kind := by
  -- the right operand of an order is ordered because it is comparable with the left one
  have ordered : l.kind.isOrderable = true ∧ l.kind.IsComparable r.kind ↔
      l.kind.isOrderable = true ∧ r.kind.isOrderable = true ∧ l.kind.IsComparable r.kind :=
    ⟨fun h => ⟨h.1, h.2.isOrderable_eq ▸ h.1, h.2⟩, fun h => ⟨h.1, h.2.2⟩⟩
  cases op <;> simp only [checkOperands, check_ok, requireScalar_ok, requireNumeric_ok,
    requireOrderable_ok, requireComparable_ok, BinaryOp.Accepts, ordered]

/-- The scalar kind of an operator's result depends on the kinds of its operands only. -/
lemma resultScalar_eq (op : BinaryOp) (l r : Typed) :
    resultScalar op l r = op.resultScalar l.kind r.kind := by
  cases op <;> rfl

/-- An operator is made of operands of kinds that it takes. -/
theorem binary_ok {op : BinaryOp} {l r t : Typed} :
    binary site op l r = .ok t ↔
      op.Accepts l.kind r.kind ∧ ⟨.binary op l.condition r.condition,
        Kind.joined (op.resultScalar l.kind r.kind) [l.kind, r.kind]⟩ = t := by
  simp only [binary, check_ok, except_pure_ok, checkOperands_ok, resultKind_eq, resultScalar_eq,
    List.map_cons, List.map_nil]

/-- A test for NULL is made of an operand that admits it, and does not admit NULL itself. -/
lemma nullTest_ok {test : NullTest} {e t : Typed} :
    e.nullTest site test = .ok t ↔
      e.kind.isNullable = true ∧ ⟨.isNull test.negated e.condition, .plain .boolean⟩ = t := by
  unfold nullTest
  split <;> simp_all

/-- A pattern test is made of two texts. -/
theorem like_ok {negated : Bool} {e p t : Typed} :
    e.like site negated p = .ok t ↔
      (e.kind.scalar = .text ∧ p.kind.scalar = .text) ∧
        ⟨.like negated e.condition p.condition, Kind.joined .boolean [e.kind, p.kind]⟩ = t := by
  simp only [like, check_ok, except_pure_ok, requireScalar_ok, resultKind_eq, List.map_cons,
    List.map_nil, and_assoc]

/-- A range is made of an operand and bounds that are ordered with it. -/
lemma between_ok {negated : Bool} {e low high t : Typed} :
    e.between site negated low high = .ok t ↔
      (BinaryOp.lessEqual.Accepts e.kind low.kind ∧
        BinaryOp.lessEqual.Accepts e.kind high.kind) ∧
        ⟨.between negated e.condition low.condition high.condition,
          Kind.joined .boolean [e.kind, low.kind, high.kind]⟩ = t := by
  have ordered : ∀ l : Typed, BinaryOp.lessEqual.Accepts e.kind l.kind ↔
      e.kind.isOrderable = true ∧ e.kind.IsComparable l.kind := fun l =>
    ⟨fun h => ⟨h.1, h.2.2⟩, fun h => ⟨h.1, h.2.isOrderable_eq ▸ h.1, h.2⟩⟩
  simp only [between, check_ok, except_pure_ok, requireOrderable_ok, requireComparable_ok,
    resultKind_eq, List.map_cons, List.map_nil, ordered]
  constructor
  · rintro ⟨ho, hl, hh, rfl⟩
    exact ⟨⟨⟨ho, hl⟩, ho, hh⟩, rfl⟩
  · rintro ⟨⟨⟨ho, hl⟩, -, hh⟩, rfl⟩
    exact ⟨ho, hl, hh, rfl⟩

/-- A call is made of an argument of a kind that the function takes. -/
lemma call_ok {f : ScalarFunction} {e t : Typed} :
    e.call site f = .ok t ↔
      f.Accepts e.kind ∧
        ⟨.call f e.condition, Kind.joined (f.resultScalar e.kind) [e.kind]⟩ = t := by
  cases f with
  | length =>
    simp only [call, ScalarFunction.Accepts, ScalarFunction.resultScalar, resultKind_eq,
      List.map_cons, List.map_nil]
    split <;> simp_all
  | _ =>
    simp only [call, check_ok, except_pure_ok, requireScalar_ok, requireNumeric_ok, resultKind_eq,
      List.map_cons, List.map_nil, ScalarFunction.Accepts, ScalarFunction.resultScalar]

end Typed

end TypedSql
