import Mathlib.Data.List.Forall2
import TypedSql.Proofs.Sql.Grammar

/-!
# A parser for SQL expressions

The parser goes through the tokens once, from left to right. It reads an operand and then goes on as
long as an operator follows that binds tightly enough; the right operand of an operator is read the
same way, with more strength asked for. It finds the tree of every list of tokens that the grammar
has a tree for, so that no list of tokens has two.

## Main definitions

* `Sql.parse?` — the tree of a list of tokens; `Sql.readText?` — the tree of a text.
* `Sql.Tree.IsFound` — a tree is read in front of what cannot continue it.

## Main results

* `Sql.Tree.isFound` — a tree is found in the tokens that it is written as.
* `Sql.Tree.IsWritten.parse?_eq` — the parser finds the tree of the grammar.
* `Sql.Reads.unique` — no text is written as two trees.
-/

set_option autoImplicit false

namespace TypedSql.Sql

/-! ## The parser -/

/-- The operator between two operands that a token is. -/
def operator? : Token → Option BinaryOp
  | .keyword .or => some .or
  | .keyword .and => some .and
  | .mark .equal => some .equal
  | .mark .notEqual => some .notEqual
  | .mark .less => some .less
  | .mark .lessEqual => some .lessEqual
  | .mark .greater => some .greater
  | .mark .greaterEqual => some .greaterEqual
  | .mark .plus => some .add
  | .mark .minus => some .sub
  | .mark .star => some .mul
  | .mark .slash => some .div
  | .mark .percent => some .rem
  | .mark .bars => some .concat
  | _ => none

/-- The strength of what a token goes on with after an operand, if it goes on with anything. -/
def followStrength? : Token → Option Nat
  | .keyword .is | .keyword .like | .keyword .in | .keyword .between | .keyword .not =>
    some comparisonStrength
  | k => (operator? k).map operatorStrength

/-- Reads a closing parenthesis. -/
def readClosing : List Token → Option (List Token)
  | .mark .closing :: rest => some rest
  | _ => none

mutual

/-- Reads an expression that binds at least as tightly as `least`. -/
def readExpr (least : Nat) (ts : List Token) : Option (Tree × List Token) :=
  match readOperand least ts with
  | none => none
  | some (left, rest) =>
    if rest.length < ts.length then readMore least left rest else none
termination_by (ts.length, 2)

/-- Reads what stands on its own, or a negation if it binds tightly enough. -/
def readOperand (least : Nat) (ts : List Token) : Option (Tree × List Token) :=
  match ts with
  | .keyword .not :: rest =>
    if least ≤ notStrength then
      (readExpr notStrength rest).map fun (e, rest) => (.not e, rest)
    else none
  | .mark .opening :: rest =>
    match readExpr 0 rest with
    | some (e, .mark .closing :: rest) => some (.paren e, rest)
    | _ => none
  | .mark .minus :: .number body :: rest => some (.ofNumber true body, rest)
  | .number body :: rest => some (.ofNumber false body, rest)
  | .text s :: rest => some (.text s, rest)
  | .blob bytes :: rest => some (.blob bytes, rest)
  | .placeholder n :: rest => some (.placeholder n, rest)
  | .name table :: .mark .dot :: .name name :: rest => some (.column table name, rest)
  | .name f :: .mark .opening :: rest =>
    match readExpr 0 rest with
    | some (e, .mark .closing :: rest) => some (.call f e, rest)
    | _ => none
  | .keyword .exists :: .mark .opening :: .keyword .select :: .number ['1'] :: .keyword .from ::
      .name table :: .keyword .where :: rest =>
    match readExpr 0 rest with
    | some (e, .keyword .limit :: .number ['1'] :: .mark .closing :: rest) =>
      some (.existsIn table e, rest)
    | _ => none
  | _ => none
termination_by (ts.length, 1)

/-- Goes on after an operand as long as what follows binds at least as tightly as `least`. -/
def readMore (least : Nat) (left : Tree) (ts : List Token) : Option (Tree × List Token) :=
  match ts.head?.bind followStrength? with
  | none => some (left, ts)
  | some strength =>
    if strength < least then some (left, ts)
    else
      match readFollow left ts with
      | none => none
      | some (e, rest) => if rest.length < ts.length then readMore least e rest else none
termination_by (ts.length, 2)

/-- Reads one operator or test after its left operand. -/
def readFollow (left : Tree) (ts : List Token) : Option (Tree × List Token) :=
  match ts with
  | .keyword .is :: .keyword .null :: rest => some (.isNull false left, rest)
  | .keyword .is :: .keyword .not :: .keyword .null :: rest => some (.isNull true left, rest)
  | .keyword .not :: rest => readTest true left rest
  | k :: rest =>
    match operator? k with
    | some op =>
      (readExpr (operatorStrength op + 1) rest).map fun (r, rest) => (.binary op left r, rest)
    | none => readTest false left (k :: rest)
  | [] => none
termination_by (ts.length, 1)

/-- Reads a test after its left operand and `NOT`, if it is negated. -/
def readTest (negated : Bool) (left : Tree) (ts : List Token) : Option (Tree × List Token) :=
  match ts with
  | .keyword .like :: rest =>
    (readExpr (comparisonStrength + 1) rest).map fun (p, rest) => (.like negated left p, rest)
  | .keyword .between :: rest =>
    match readExpr (comparisonStrength + 1) rest with
    | some (low, .keyword .and :: rest') =>
      if rest'.length < rest.length then
        (readExpr (comparisonStrength + 1) rest').map fun (high, rest) =>
          (.between negated left low high, rest)
      else none
    | _ => none
  | .keyword .in :: .mark .opening :: rest =>
    match readItems rest with
    | some (items, rest) => some (.inList negated left items, rest)
    | none => (readClosing rest).map fun rest => (.inList negated left [], rest)
  | _ => none
termination_by (ts.length, 0)

/-- Reads the items of a list up to the closing parenthesis. -/
def readItems (ts : List Token) : Option (List Tree × List Token) :=
  match readExpr 0 ts with
  | some (e, .mark .closing :: rest) => some ([e], rest)
  | some (e, .mark .comma :: rest) =>
    if rest.length < ts.length then (readItems rest).map fun (es, rest) => (e :: es, rest)
    else none
  | _ => none
termination_by (ts.length, 3)

end

/-- The tree of a list of tokens, which has to be read to its end. -/
def parse? (ts : List Token) : Option Tree :=
  match readExpr 0 ts with
  | some (e, []) => some e
  | _ => none

/-! ## What may follow -/

/-- What follows, if it goes on at all, binds no more tightly than a given strength. -/
def FollowedBy (strength : Nat) (rest : List Token) : Prop :=
  ∀ k ∈ rest.head?, ∀ s, followStrength? k = some s → s ≤ strength

/-- What binds no more tightly than a strength binds no more tightly than a greater one. -/
lemma FollowedBy.mono {s s' : Nat} {rest : List Token} (h : FollowedBy s rest) (hle : s ≤ s') :
    FollowedBy s' rest := by
  intro k hk strength hs
  have hbound := h k hk strength hs
  omega

/-- What cannot go on follows everything. -/
lemma followedBy_cons {k : Token} (h : followStrength? k = none) (strength : Nat)
    (rest : List Token) : FollowedBy strength (k :: rest) := by
  rintro _ ⟨⟩ s hs
  rw [h] at hs
  cases hs

/-- The sign of an operator goes on with the strength of the operator. -/
lemma followStrength?_operatorToken (op : BinaryOp) :
    followStrength? (operatorToken op) = some (operatorStrength op) := by
  cases op <;> rfl

/-- The sign of an operator is read as the operator. -/
lemma operator?_operatorToken (op : BinaryOp) : operator? (operatorToken op) = some op := by
  cases op <;> rfl

/-- Nothing that goes on after an operand has the strength of the prefix. -/
lemma followStrength?_ne {k : Token} {s : Nat} (h : followStrength? k = some s) :
    s ≠ notStrength := by
  have hoperator : ∀ op, operatorStrength op ≠ notStrength := by
    intro op
    cases op <;> decide
  unfold followStrength? at h
  split at h
  · cases h
    decide
  · cases h
    decide
  · cases h
    decide
  · cases h
    decide
  · cases h
    decide
  · obtain ⟨op, -, rfl⟩ := Option.map_eq_some_iff.mp h
    exact hoperator op

/-- The parser stops in front of what binds less tightly than it asks for. -/
lemma readMore_stop {strength least : Nat} {rest : List Token} (h : FollowedBy strength rest)
    (hleast : strength < least) (t : Tree) : readMore least t rest = some (t, rest) := by
  rw [readMore]
  cases hs : rest.head?.bind followStrength? with
  | none => rfl
  | some s =>
    obtain ⟨k, hk, hks⟩ := Option.bind_eq_some_iff.mp hs
    have hle := h k hk s hks
    have hlt : s < least := by omega
    simp [hlt]

/-- The parser stops in front of what cannot go on. -/
lemma readMore_end {k : Token} (hk : followStrength? k = none) (least : Nat) (t : Tree)
    (rest : List Token) : readMore least t (k :: rest) = some (t, k :: rest) := by
  rw [readMore, List.head?_cons, Option.bind_some, hk]

/-- The parser goes on with what binds tightly enough. -/
lemma readMore_follow {least strength : Nat} {left e : Tree} {k : Token} {us rest : List Token}
    (hk : followStrength? k = some strength) (hleast : least ≤ strength)
    (h : readFollow left (k :: us) = some (e, rest)) (hlength : rest.length ≤ us.length) :
    readMore least left (k :: us) = readMore least e rest := by
  have hnot : ¬ strength < least := by omega
  have hlt : rest.length < (k :: us).length := Nat.lt_succ_of_le hlength
  rw [readMore, List.head?_cons, Option.bind_some, hk, h]
  simp only [if_neg hnot, if_pos hlt]

/-- The parser starts with an operand. -/
lemma readExpr_of_operand {least : Nat} {t : Tree} {ts rest : List Token}
    (h : readOperand least ts = some (t, rest)) (hlength : rest.length < ts.length) :
    readExpr least ts = readMore least t rest := by
  rw [readExpr, h]
  simp [hlength]

/-- The parser goes on with a test, negated or not. -/
lemma readMore_test {least : Nat} {negated : Bool} {left e : Tree} {k : Keyword}
    {us rest : List Token} (hk : k = .like ∨ k = .between ∨ k = .in)
    (hleast : least ≤ comparisonStrength)
    (h : readTest negated left (.keyword k :: us) = some (e, rest))
    (hlength : rest.length ≤ us.length) :
    readMore least left (testTokens negated (.keyword k :: us)) = readMore least e rest := by
  cases negated with
  | true =>
    refine readMore_follow rfl hleast ?_ (Nat.le_succ_of_le hlength)
    rw [readFollow, h]
  | false =>
    have hfollow : followStrength? (.keyword k) = some comparisonStrength ∧
        operator? (.keyword k) = none := by
      rcases hk with rfl | rfl | rfl <;> exact ⟨rfl, rfl⟩
    refine readMore_follow hfollow.1 hleast ?_ hlength
    rw [readFollow, hfollow.2, h]
    all_goals rcases hk with rfl | rfl | rfl <;> simp

/-- The parser reads the right operand of an operator. -/
lemma readFollow_operator {rest after : List Token} {r : Tree} (op : BinaryOp) (left : Tree)
    (h : readExpr (operatorStrength op + 1) rest = some (r, after)) :
    readFollow left (operatorToken op :: rest) = some (.binary op left r, after) := by
  have hoperator := operator?_operatorToken op
  rw [readFollow, hoperator]
  · simp only [h, Option.map_some]
  all_goals intros; cases op <;> simp_all [operatorToken]

/-- What follows a test may be taken as a part of it, negated or not. -/
lemma testTokens_append (negated : Bool) (ts us : List Token) :
    testTokens negated ts ++ us = testTokens negated (ts ++ us) := by
  cases negated <;> rfl

/-- A test may follow what binds tightly enough. -/
lemma followedBy_test {strength : Nat} (h : comparisonStrength ≤ strength) {negated : Bool}
    {k : Keyword} {us : List Token} (hk : k = .like ∨ k = .between ∨ k = .in) :
    FollowedBy strength (testTokens negated (.keyword k :: us)) := by
  cases negated with
  | true =>
    rintro _ ⟨⟩ s ⟨⟩
    exact h
  | false =>
    rcases hk with rfl | rfl | rfl <;>
    · rintro _ ⟨⟩ s ⟨⟩
      exact h

/-! ## Trees that are found -/

/-- The parser finds a tree in a list of tokens: whatever does not bind more tightly may follow, and
the parser goes on there with the tree as its left operand. -/
def Tree.IsFound (t : Tree) (ts : List Token) : Prop :=
  ∀ (least : Nat) (rest : List Token), least ≤ t.strength → FollowedBy t.strength rest →
    readExpr least (ts ++ rest) = readMore least t rest

namespace Tree.IsFound

variable {e l r p low high t : Tree} {es ls rs ps hs ts us : List Token}

/-- In front of a token that cannot go on, a tree is read and left there. -/
lemma stop (h : e.IsFound es) {k : Token} (hk : followStrength? k = none) (rest : List Token) :
    readExpr 0 (es ++ k :: rest) = some (e, k :: rest) :=
  (h 0 _ (Nat.zero_le _) (followedBy_cons hk _ rest)).trans (readMore_end hk 0 e rest)

/-- A tree is read as a right operand where what follows binds less tightly than is asked for. -/
lemma operand (h : e.IsFound es) {strength least : Nat} {rest : List Token}
    (hleast : least ≤ e.strength) (hlt : strength < least) (hrest : FollowedBy strength rest) :
    readExpr least (es ++ rest) = some (e, rest) :=
  (h least rest hleast (hrest.mono (hlt.le.trans hleast))).trans (readMore_stop hrest hlt e)

/-- What is read as an operand is found. -/
lemma of_readOperand (hne : ts ≠ [])
    (h : ∀ least rest, least ≤ t.strength → FollowedBy t.strength rest →
      readOperand least (ts ++ rest) = some (t, rest)) : t.IsFound ts := by
  intro least rest hleast hrest
  refine readExpr_of_operand (h least rest hleast hrest) ?_
  have hpos := List.length_pos_iff.mpr hne
  simp only [List.length_append]
  omega

/-- A number is found with its sign. -/
lemma number (negative : Bool) (body : List Char) :
    (ofNumber negative body).IsFound
      ((if negative then [.mark .minus] else []) ++ [.number body]) := by
  refine of_readOperand (by simp) fun least rest _ _ => ?_
  cases negative with
  | true =>
    simp only [if_true, List.cons_append, List.nil_append]
    rw [readOperand]
  | false =>
    simp only [Bool.false_eq_true, if_false, List.nil_append, List.cons_append]
    rw [readOperand]

/-- A tree in parentheses is found. -/
lemma paren (he : e.IsFound es) :
    (Tree.paren e).IsFound (.mark .opening :: (es ++ [.mark .closing])) := by
  refine of_readOperand (by simp) fun least rest _ _ => ?_
  simp only [List.cons_append, List.append_assoc, List.nil_append]
  rw [readOperand, he.stop rfl]

/-- A call is found when its argument is. -/
lemma call (f : String) (he : e.IsFound es) :
    (Tree.call f e).IsFound (.name f :: .mark .opening :: (es ++ [.mark .closing])) := by
  refine of_readOperand (by simp) fun least rest _ _ => ?_
  simp only [List.cons_append, List.append_assoc, List.nil_append]
  rw [readOperand, he.stop rfl]

/-- A nested filter is found when its condition is. -/
lemma existsIn (table : String) (he : e.IsFound es) :
    (Tree.existsIn table e).IsFound (existsTokens table es) := by
  refine of_readOperand (by simp [existsTokens]) fun least rest _ _ => ?_
  simp only [existsTokens, List.cons_append, List.append_assoc, List.nil_append]
  rw [readOperand, he.stop rfl]
  rfl

/-- A negation is found when its operand is. -/
lemma not (he : e.IsFound es) (hstrength : notStrength ≤ e.strength) :
    (Tree.not e).IsFound (.keyword .not :: es) := by
  refine of_readOperand (by simp) fun least rest hleast hrest => ?_
  -- what follows binds less tightly than the prefix, as nothing there has the same strength
  have hloose : FollowedBy (notStrength - 1) rest := fun k hk s hs => by
    have hle : s ≤ notStrength := hrest k hk s hs
    have hne := followStrength?_ne hs
    omega
  have hprefix : least ≤ notStrength := hleast
  rw [List.cons_append, readOperand, if_pos hprefix, he.operand hstrength (by decide) hloose]
  rfl

/-- An operator is found when its operands are. -/
lemma binary {op : BinaryOp} (hl : l.IsFound ls) (hr : r.IsFound rs)
    (hstrong : operatorStrength op ≤ l.strength) (hstronger : operatorStrength op < r.strength) :
    (Tree.binary op l r).IsFound (ls ++ operatorToken op :: rs) := by
  intro least rest hleast hrest
  have hoperator := followStrength?_operatorToken op
  have hfollowed : FollowedBy l.strength (operatorToken op :: (rs ++ rest)) := by
    rintro _ ⟨⟩ s hs
    cases hoperator.symm.trans hs
    exact hstrong
  have hright : readExpr (operatorStrength op + 1) (rs ++ rest) = some (r, rest) :=
    hr.operand hstronger (Nat.lt_succ_self _) hrest
  rw [List.append_assoc, List.cons_append, hl least _ (hleast.trans hstrong) hfollowed]
  exact readMore_follow hoperator hleast (readFollow_operator op l hright) (by simp)

/-- A test for NULL is found when its operand is. -/
lemma isNull (negated : Bool) (he : e.IsFound es) (hstrength : comparisonStrength ≤ e.strength) :
    (Tree.isNull negated e).IsFound
      (es ++ .keyword .is :: testTokens negated [.keyword .null]) := by
  intro least rest hleast _
  have hfollowed : ∀ us, FollowedBy e.strength (.keyword .is :: us) := by
    rintro us _ ⟨⟩ s ⟨⟩
    exact hstrength
  rw [List.append_assoc, List.cons_append, he least _ (hleast.trans hstrength) (hfollowed _)]
  cases negated with
  | true =>
    refine readMore_follow rfl hleast ?_ (by simp [testTokens]; omega)
    simp only [testTokens, if_true, List.cons_append, List.nil_append]
    rw [readFollow]
  | false =>
    refine readMore_follow rfl hleast ?_ (by simp [testTokens])
    simp only [testTokens, Bool.false_eq_true, if_false, List.cons_append, List.nil_append]
    rw [readFollow]

/-- A test that may be negated is found when its operand is and its own tokens are read. -/
lemma test {negated : Bool} {k : Keyword} (hk : k = .like ∨ k = .between ∨ k = .in)
    (he : e.IsFound es) (hstrength : comparisonStrength ≤ e.strength)
    (ht : t.strength = comparisonStrength)
    (hread : ∀ rest, FollowedBy comparisonStrength rest →
      readTest negated e (.keyword k :: (us ++ rest)) = some (t, rest)) :
    t.IsFound (es ++ testTokens negated (.keyword k :: us)) := by
  intro least rest hleast hrest
  rw [ht] at hleast hrest
  rw [List.append_assoc, testTokens_append, List.cons_append,
    he least _ (hleast.trans hstrength) (followedBy_test hstrength hk)]
  exact readMore_test hk hleast (hread rest hrest) (by simp)

/-- A pattern is found when both sides are. -/
lemma like (negated : Bool) (he : e.IsFound es) (hp : p.IsFound ps)
    (hstrength : comparisonStrength ≤ e.strength) (hstronger : comparisonStrength < p.strength) :
    (Tree.like negated e p).IsFound (es ++ testTokens negated (.keyword .like :: ps)) := by
  refine test (.inl rfl) he hstrength rfl fun rest hrest => ?_
  rw [readTest, hp.operand hstronger (Nat.lt_succ_self _) hrest]
  rfl

/-- A range is found when its operand and its bounds are. -/
lemma between (negated : Bool) (he : e.IsFound es) (hlow : low.IsFound ls)
    (hhigh : high.IsFound hs) (hstrength : comparisonStrength ≤ e.strength)
    (hlowest : comparisonStrength < low.strength) (hhighest : comparisonStrength < high.strength) :
    (Tree.between negated e low high).IsFound
      (es ++ testTokens negated (.keyword .between :: (ls ++ .keyword .and :: hs))) := by
  refine test (.inr (.inl rfl)) he hstrength rfl fun rest hrest => ?_
  have hand : FollowedBy comparisonStrength (.keyword .and :: (hs ++ rest)) := by
    rintro _ ⟨⟩ s ⟨⟩
    decide
  have hlt : (hs ++ rest).length < (ls ++ .keyword .and :: (hs ++ rest)).length := by
    simp only [List.length_append, List.length_cons]
    omega
  rw [List.append_assoc, List.cons_append, readTest,
    hlow.operand hlowest (Nat.lt_succ_self _) hand]
  simp only [if_pos hlt, hhigh.operand hhighest (Nat.lt_succ_self _) hrest, Option.map_some]

end Tree.IsFound

/-! ## Lists of items -/

/-- The last item of a list is read up to the closing parenthesis. -/
lemma readItems_singleton {e : Tree} {es : List Token} (he : e.IsFound es)
    (rest : List Token) : readItems (es ++ .mark .closing :: rest) = some ([e], rest) := by
  rw [readItems, he.stop rfl]

/-- An item is read up to the comma, and the list goes on there. -/
lemma readItems_cons {e : Tree} {es us rest : List Token} {items : List Tree}
    (he : e.IsFound es) (hitems : readItems us = some (items, rest)) :
    readItems (es ++ .mark .comma :: us) = some (e :: items, rest) := by
  have hlt : us.length < (es ++ .mark .comma :: us).length := by
    simp only [List.length_append, List.length_cons]
    omega
  rw [readItems, he.stop rfl]
  simp only [if_pos hlt, hitems, Option.map_some]

/-- The items of a list are read up to the closing parenthesis. -/
lemma readItems_append {items : List Tree} {tss : List (List Token)}
    (h : List.Forall₂ Tree.IsFound items tss) (hne : items ≠ []) (rest : List Token) :
    readItems (commaTokens tss ++ .mark .closing :: rest) = some (items, rest) := by
  induction h with
  | nil => exact absurd rfl hne
  | @cons e ts items tss he hitems ih =>
    cases hitems with
    | nil =>
      rw [commaTokens, List.intercalate_singleton]
      exact readItems_singleton he rest
    | cons he' hitems' =>
      rw [commaTokens, List.intercalate_cons_cons, List.append_assoc, List.append_assoc]
      exact readItems_cons he (ih (by simp))

/-- No list of items starts with the closing parenthesis. -/
lemma readItems_closing (rest : List Token) : readItems (.mark .closing :: rest) = none := by
  rw [readItems, readExpr, readOperand] <;> simp

/-- A test for membership is found when its operand and its items are. -/
lemma Tree.IsFound.inList {e : Tree} {es : List Token} {items : List Tree}
    {tss : List (List Token)} (negated : Bool) (he : e.IsFound es)
    (hitems : List.Forall₂ Tree.IsFound items tss) (hstrength : comparisonStrength ≤ e.strength) :
    (Tree.inList negated e items).IsFound (es ++ testTokens negated
      (.keyword .in :: .mark .opening :: (commaTokens tss ++ [.mark .closing]))) := by
  refine test (.inr (.inr rfl)) he hstrength rfl fun rest _ => ?_
  rw [List.cons_append, List.append_assoc, List.singleton_append, readTest]
  cases items with
  | nil =>
    cases hitems
    rw [commaTokens, List.intercalate_nil, List.nil_append, readItems_closing]
    rfl
  | cons item items => rw [readItems_append hitems (by simp)]

/-! ## The parser finds the tree of the grammar -/

mutual

/-- A tree is found in the tokens that it is written as. -/
theorem Tree.isFound : ∀ (t : Tree) {ts : List Token}, t.IsWritten ts → t.IsFound ts
  | .integer n, ts, h => by
    rw [Tree.IsWritten] at h
    obtain ⟨negative, body, hn, rfl⟩ := h
    rw [← hn]
    exact .number negative body
  | .real digits, ts, h => by
    rw [Tree.IsWritten] at h
    obtain ⟨negative, body, hn, rfl⟩ := h
    rw [← hn]
    exact .number negative body
  | .text s, ts, h => by
    rw [Tree.IsWritten] at h
    subst h
    exact .of_readOperand (by simp) fun _ _ _ _ => by rw [List.cons_append, readOperand]; rfl
  | .blob bytes, ts, h => by
    rw [Tree.IsWritten] at h
    subst h
    exact .of_readOperand (by simp) fun _ _ _ _ => by rw [List.cons_append, readOperand]; rfl
  | .placeholder n, ts, h => by
    rw [Tree.IsWritten] at h
    subst h
    exact .of_readOperand (by simp) fun _ _ _ _ => by rw [List.cons_append, readOperand]; rfl
  | .column table name, ts, h => by
    rw [Tree.IsWritten] at h
    subst h
    refine .of_readOperand (by simp) fun _ _ _ _ => ?_
    simp only [List.cons_append, List.nil_append]
    rw [readOperand]
  | .paren e, ts, h => by
    rw [Tree.IsWritten] at h
    obtain ⟨es, he, rfl⟩ := h
    exact (e.isFound he).paren
  | .call f e, ts, h => by
    rw [Tree.IsWritten] at h
    obtain ⟨es, he, rfl⟩ := h
    exact (e.isFound he).call f
  | .existsIn table e, ts, h => by
    rw [Tree.IsWritten] at h
    obtain ⟨es, he, rfl⟩ := h
    exact (e.isFound he).existsIn table
  | .not e, ts, h => by
    rw [Tree.IsWritten] at h
    obtain ⟨es, he, hstrength, rfl⟩ := h
    exact (e.isFound he).not hstrength
  | .binary op l r, ts, h => by
    rw [Tree.IsWritten] at h
    obtain ⟨ls, rs, hl, hr, hstrong, hstronger, rfl⟩ := h
    exact (l.isFound hl).binary (r.isFound hr) hstrong hstronger
  | .isNull negated e, ts, h => by
    rw [Tree.IsWritten] at h
    obtain ⟨es, he, hstrength, rfl⟩ := h
    exact (e.isFound he).isNull negated hstrength
  | .like negated e p, ts, h => by
    rw [Tree.IsWritten] at h
    obtain ⟨es, ps, he, hp, hstrength, hstronger, rfl⟩ := h
    exact (e.isFound he).like negated (p.isFound hp) hstrength hstronger
  | .between negated e low high, ts, h => by
    rw [Tree.IsWritten] at h
    obtain ⟨es, ls, hs, he, hlow, hhigh, hstrength, hlowest, hhighest, rfl⟩ := h
    exact (e.isFound he).between negated (low.isFound hlow) (high.isFound hhigh) hstrength
      hlowest hhighest
  | .inList negated e items, ts, h => by
    rw [Tree.IsWritten] at h
    obtain ⟨es, tss, he, hitems, hstrength, rfl⟩ := h
    exact (e.isFound he).inList negated (Tree.areFound items hitems) hstrength

/-- The items of a list are found in the tokens that they are written as. -/
theorem Tree.areFound : ∀ (items : List Tree) {tss : List (List Token)},
    Tree.AreWritten items tss → List.Forall₂ Tree.IsFound items tss
  | [], _, h => by
    cases h
    exact .nil
  | e :: items, _, h => by
    rw [Tree.AreWritten] at h
    obtain ⟨ts, tss, he, hitems, rfl⟩ := h
    exact .cons (e.isFound he) (Tree.areFound items hitems)

end

/-- The parser finds the tree of a list of tokens that is written as one. -/
theorem Tree.IsWritten.parse?_eq {t : Tree} {ts : List Token} (h : t.IsWritten ts) :
    parse? ts = some t := by
  have hread : readExpr 0 (ts ++ []) = readMore 0 t [] :=
    t.isFound h 0 [] (Nat.zero_le _) (by simp [FollowedBy])
  have hstop : readMore 0 t [] = some (t, []) := by rw [readMore]; rfl
  rw [List.append_nil, hstop] at hread
  rw [parse?, hread]

/-- The tree of a text. -/
def readText? (text : String) : Option Tree :=
  (lex text.toList).bind fun ls => parse? (ls.map Lexeme.token)

/-- The tree of a text that is written as one is found. -/
lemma Reads.readText?_eq {text : String} {t : Tree} (h : Reads text t) :
    readText? text = some t := by
  obtain ⟨ls, hls, ht⟩ := h
  rw [readText?, hls, Option.bind_some, ht.parse?_eq]

/-- No text is written as two trees. -/
theorem Reads.unique {text : String} {t u : Tree} (ht : Reads text t) (hu : Reads text u) :
    t = u :=
  Option.some.inj (ht.readText?_eq.symm.trans hu.readText?_eq)

end TypedSql.Sql
