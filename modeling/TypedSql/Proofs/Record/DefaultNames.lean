import Mathlib.Tactic.SplitIfs
import TypedSql.Proofs.Record.Description
import TypedSql.Proofs.Store.Names

/-!
# Default table names

A record whose attributes give no table name is kept in the table that has the name of the record in
snake case. Snake case can be undone: underscores are left out, and the letter after one becomes
capital, as does the first. A name without underscores is given back by this, but for the case of
its first letter. So records with names in camel case get different tables. The names of these are
identifiers without capital letters, and a store, which does not look at the case of letters, tells
them apart as well.

## Main definitions

* `camelCase` — a name with its underscores undone.
* `IsCamelCase` — a capital letter, and then letters and digits.
* `RecordDeclaration.HasDefaultTable` — the attributes give no table name.

## Main results

* `camelCase_snakeCase` — a name is given back up to the case of its first letter.
* `snakeCase_eq_iff` — which names without underscores are the same in snake case.
* `isIdentifier_snakeCase`, `sameName_snakeCase` — identifiers stay identifiers, and in snake case
  the case of letters does not matter.
* `RecordDeclaration.defaultTables_apart` — default table names do not clash.
-/

set_option autoImplicit false

namespace TypedSql

open Text

/-! ## Capital and small letters -/

namespace Text

variable {c : Char}

/-- The capital letters by their code points. -/
lemma isUpper_iff : c.isUpper = true ↔ 65 ≤ c.toNat ∧ c.toNat ≤ 90 :=
  decide_eq_true_iff.trans (and_congr UInt32.le_iff_toNat_le UInt32.le_iff_toNat_le)

/-- The small letters by their code points. -/
lemma isLower_iff : c.isLower = true ↔ 97 ≤ c.toNat ∧ c.toNat ≤ 122 := by
  have hrange : c.isLower = (decide ('a'.val ≤ c.val) && decide (c.val ≤ 'z'.val)) := rfl
  rw [hrange, Bool.and_eq_true, decide_eq_true_iff, decide_eq_true_iff]
  exact and_congr UInt32.le_iff_toNat_le UInt32.le_iff_toNat_le

/-- The letters by their code points. -/
lemma isAlpha_iff : c.isAlpha = true ↔
    (65 ≤ c.toNat ∧ c.toNat ≤ 90) ∨ (97 ≤ c.toNat ∧ c.toNat ≤ 122) :=
  Bool.or_eq_true_iff.trans (or_congr isUpper_iff isLower_iff)

/-- The code point of a character that is made small. -/
lemma toNat_toLower (c : Char) : c.toLower.toNat =
    if 65 ≤ c.toNat ∧ c.toNat ≤ 90 then c.toNat + 32 else c.toNat := by
  have hrange : c.val ≥ 'A'.val ∧ c.val ≤ 'Z'.val ↔ 65 ≤ c.toNat ∧ c.toNat ≤ 90 :=
    and_congr UInt32.le_iff_toNat_le UInt32.le_iff_toNat_le
  delta Char.toLower
  by_cases h : 65 ≤ c.toNat ∧ c.toNat ≤ 90
  · have hdistance : ('a'.val - 'A'.val).toNat = 32 := rfl
    rw [dif_pos (hrange.mpr h), if_pos h, ← Char.toNat_val, UInt32.toNat_add, hdistance,
      Char.toNat_val]
    omega
  · rw [dif_neg (mt hrange.mp h), if_neg h]

/-- The code point of a character that is made capital. -/
lemma toNat_toUpper (c : Char) : c.toUpper.toNat =
    if 97 ≤ c.toNat ∧ c.toNat ≤ 122 then c.toNat - 32 else c.toNat := by
  have hrange : 'a'.val ≤ c.val ∧ c.val ≤ 'z'.val ↔ 97 ≤ c.toNat ∧ c.toNat ≤ 122 :=
    and_congr UInt32.le_iff_toNat_le UInt32.le_iff_toNat_le
  delta Char.toUpper
  by_cases h : 97 ≤ c.toNat ∧ c.toNat ≤ 122
  · have hdistance : ('A'.val - 'a'.val).toNat = 2 ^ 32 - 32 := rfl
    rw [dif_pos (hrange.mpr h), if_pos h, ← Char.toNat_val, UInt32.toNat_add, hdistance,
      Char.toNat_val]
    omega
  · rw [dif_neg (mt hrange.mp h), if_neg h]

/-- The letters of ASCII that are capital by the Unicode tables. -/
lemma isUpperCase_iff_of_isAlpha (h : c.isAlpha = true) :
    isUpperCase c = true ↔ 65 ≤ c.toNat ∧ c.toNat ≤ 90 := by
  have hascii : c.toNat < 0x80 := by
    have hrange := isAlpha_iff.mp h
    omega
  rw [isUpperCase_ascii hascii, isUpper_iff]

/-- The letters `A` to `Z` are capital. -/
lemma isUpperCase_of_isUpper (h : c.isUpper = true) : isUpperCase c = true := by
  have hrange := isUpper_iff.mp h
  exact (isUpperCase_iff_of_isAlpha (isAlpha_iff.mpr (.inl hrange))).mpr hrange

/-- What is not capital is kept when it is made small. -/
lemma toLower_of_not_isUpperCase (h : ¬ isUpperCase c = true) : c.toLower = c := by
  have hrange : ¬ (65 ≤ c.toNat ∧ c.toNat ≤ 90) :=
    mt (fun hc => isUpperCase_of_isUpper (isUpper_iff.mpr hc)) h
  rw [← Char.toNat_inj, toNat_toLower, if_neg hrange]

/-- What is capital is kept when it is made capital. -/
lemma toUpper_of_isUpperCase (h : isUpperCase c = true) : c.toUpper = c := by
  have hrange : ¬ (97 ≤ c.toNat ∧ c.toNat ≤ 122) := fun hc => by
    have hupper := (isUpperCase_iff_of_isAlpha (isAlpha_iff.mpr (.inr hc))).mp h
    omega
  rw [← Char.toNat_inj, toNat_toUpper, if_neg hrange]

/-- No character but an underscore becomes one when it is made small. -/
lemma toLower_ne_underscore (h : c ≠ '_') : c.toLower ≠ '_' := by
  have hcode : '_'.toNat = 95 := rfl
  rw [ne_eq, ← Char.toNat_inj, hcode] at h ⊢
  rw [toNat_toLower]
  split_ifs <;> omega

/-- The letters `A` to `Z` start names. -/
lemma isNameStart_of_isUpper (h : c.isUpper = true) : isNameStart c = true := by
  rw [isNameStart, isAlpha_iff.mpr (.inl (isUpper_iff.mp h)), Bool.true_or]

/-- A letter is still one when it is made small. -/
lemma isAlpha_toLower (h : c.isAlpha = true) : c.toLower.isAlpha = true := by
  rw [isAlpha_iff] at h ⊢
  rw [toNat_toLower]
  split_ifs <;> omega

/-- A character that starts names still does when it is made small. -/
lemma isNameStart_toLower (h : isNameStart c = true) : isNameStart c.toLower = true := by
  rw [isNameStart, Bool.or_eq_true, beq_iff_eq] at h
  rcases h with hletter | rfl
  · rw [isNameStart, isAlpha_toLower hletter, Bool.true_or]
  · rfl

/-- A character of names is still one when it is made small. -/
lemma isNameChar_toLower (h : isNameChar c = true) : isNameChar c.toLower = true := by
  by_cases hupper : c.isUpper = true
  · exact isNameChar_of_isNameStart (isNameStart_toLower (isNameStart_of_isUpper hupper))
  · have hkept : c.toLower = c := by
      rw [← Char.toNat_inj, toNat_toLower, if_neg (mt isUpper_iff.mpr hupper)]
    rwa [hkept]

end Text

/-! ## Snake case -/

section SnakeCase

variable {c : Char} {cs : List Char} {m n : String}

/-- The first character becomes small. -/
lemma snakeChars_first (c : Char) (rest : List Char) :
    snakeChars true (c :: rest) = c.toLower :: snakeChars false rest := by
  rw [snakeChars]
  split
  · rfl
  · rename_i hsmall
    rw [toLower_of_not_isUpperCase hsmall]

/-- A capital letter after the first character follows an underscore. -/
lemma snakeChars_capital (h : isUpperCase c = true) (rest : List Char) :
    snakeChars false (c :: rest) = '_' :: c.toLower :: snakeChars false rest := by
  rw [snakeChars, if_pos h]
  rfl

/-- Any other character is kept. -/
lemma snakeChars_small (h : ¬ isUpperCase c = true) (rest : List Char) :
    snakeChars false (c :: rest) = c :: snakeChars false rest := by
  rw [snakeChars, if_neg h]

/-- The case of the first letter does not matter. -/
lemma snakeChars_modifyHead (cs : List Char) :
    snakeChars true (cs.modifyHead Char.toUpper) = snakeChars true cs := by
  cases cs with
  | nil => rfl
  | cons c rest =>
    have hsmall : c.toUpper.toLower = c.toLower := by
      rw [← Char.toNat_inj, toNat_toLower, toNat_toLower, toNat_toUpper]
      split_ifs <;> omega
    rw [List.modifyHead_cons, snakeChars_first, snakeChars_first, hsmall]

/-! ### Undoing it -/

/-- The characters of a name without its underscores: the one after an underscore becomes capital,
as does the first if `capital` says so. -/
def camelChars (capital : Bool) : List Char → List Char
  | [] => []
  | c :: rest =>
    if c = '_' then camelChars true rest
    else (if capital then c.toUpper else c) :: camelChars false rest

/-- A name in camel case: without underscores, and with capital letters in their places. -/
def camelCase (name : String) : String := String.ofList (camelChars true name.toList)

/-- A small letter becomes capital where one is due. -/
lemma camelChars_toLower (h : c ≠ '_') (rest : List Char) :
    camelChars true (c.toLower :: rest) = c.toUpper :: camelChars false rest := by
  have hcapital : c.toLower.toUpper = c.toUpper := by
    rw [← Char.toNat_inj, toNat_toUpper, toNat_toUpper, toNat_toLower]
    split_ifs <;> omega
  rw [camelChars, if_neg (toLower_ne_underscore h), if_pos rfl, hcapital]

/-- After the first character, characters that are no underscores are given back. -/
lemma camelChars_snakeChars (h : '_' ∉ cs) : camelChars false (snakeChars false cs) = cs := by
  induction cs with
  | nil => rfl
  | cons c rest ih =>
    obtain ⟨hc, hrest⟩ : '_' ≠ c ∧ '_' ∉ rest := by simpa using h
    by_cases hcapital : isUpperCase c = true
    · -- the underscore makes the letter after it capital again
      rw [snakeChars_capital hcapital, camelChars, if_pos rfl, camelChars_toLower hc.symm,
        toUpper_of_isUpperCase hcapital, ih hrest]
    · rw [snakeChars_small hcapital, camelChars, if_neg hc.symm, ih hrest]
      rfl

/-- A name without underscores is given back up to the case of its first letter. -/
theorem camelCase_snakeCase (h : '_' ∉ n.toList) :
    (camelCase (snakeCase n)).toList = n.toList.modifyHead Char.toUpper := by
  rw [camelCase, snakeCase, String.toList_ofList, String.toList_ofList]
  cases hn : n.toList with
  | nil => rfl
  | cons c rest =>
    obtain ⟨hc, hrest⟩ : '_' ≠ c ∧ '_' ∉ rest := by simpa [hn] using h
    rw [snakeChars_first, camelChars_toLower hc.symm, camelChars_snakeChars hrest,
      List.modifyHead_cons]

/-- Names without underscores are the same in snake case if and only if they are the same up to the
case of the first letter. -/
theorem snakeCase_eq_iff (hm : '_' ∉ m.toList) (hn : '_' ∉ n.toList) :
    snakeCase m = snakeCase n ↔
      m.toList.modifyHead Char.toUpper = n.toList.modifyHead Char.toUpper := by
  constructor
  · intro h
    rw [← camelCase_snakeCase hm, ← camelCase_snakeCase hn, h]
  · intro h
    rw [snakeCase, snakeCase, ← snakeChars_modifyHead m.toList, h, snakeChars_modifyHead]

/-- An underscore in the name of a record may stand for the one before a capital letter. -/
example : snakeCase "Pet_owner" = snakeCase "PetOwner" := by decide +kernel

/-! ### Identifiers -/

/-- Characters of names become characters of names. -/
lemma all_isNameChar_snakeChars (h : cs.all isNameChar = true) :
    (snakeChars false cs).all isNameChar = true := by
  induction cs with
  | nil => rfl
  | cons c rest ih =>
    rw [List.all_cons, Bool.and_eq_true] at h
    by_cases hcapital : isUpperCase c = true
    · rw [snakeChars_capital hcapital, List.all_cons, List.all_cons, isNameChar_toLower h.1,
        ih h.2]
      rfl
    · rw [snakeChars_small hcapital, List.all_cons, h.1, ih h.2]
      rfl

/-- An identifier stays one. -/
theorem isIdentifier_snakeCase (h : IsIdentifier n) : IsIdentifier (snakeCase n) := by
  rw [IsIdentifier] at h
  rw [IsIdentifier, snakeCase, String.toList_ofList]
  cases hn : n.toList with
  | nil =>
    rw [hn] at h
    cases h
  | cons c rest =>
    rw [hn, isName, Bool.and_eq_true] at h
    rw [snakeChars_first, isName, isNameStart_toLower h.1, all_isNameChar_snakeChars h.2]
    rfl

/-! ### The case of letters -/

/-- No letter of a name in snake case changes when it is made small. -/
lemma map_toLower_snakeChars (first : Bool) (cs : List Char) :
    (snakeChars first cs).map Char.toLower = snakeChars first cs := by
  induction cs generalizing first with
  | nil => rfl
  | cons c rest ih =>
    have hsmall : c.toLower.toLower = c.toLower := by
      rw [← Char.toNat_inj, toNat_toLower, toNat_toLower]
      split_ifs <;> omega
    cases first with
    | true => rw [snakeChars_first, List.map_cons, hsmall, ih]
    | false =>
      by_cases hcapital : isUpperCase c = true
      · rw [snakeChars_capital hcapital, List.map_cons, List.map_cons, hsmall, ih]
        rfl
      · rw [snakeChars_small hcapital, List.map_cons, toLower_of_not_isUpperCase hcapital, ih]

/-- A store tells names in snake case apart unless they are equal. -/
theorem sameName_snakeCase : sameName (snakeCase m) (snakeCase n) = true ↔
    snakeCase m = snakeCase n := by
  rw [sameName_iff]
  simp only [snakeCase, String.toList_ofList, map_toLower_snakeChars, String.ofList_inj]

end SnakeCase

/-! ## Names in camel case -/

/-- Whether the characters are a capital letter, and then letters and digits, all of them ASCII
characters. -/
def isCamel : List Char → Bool
  | [] => false
  | c :: rest => c.isUpper && rest.all Char.isAlphanum

/-- A name is in camel case if it is a capital letter, and then letters and digits, all of them
ASCII characters. -/
def IsCamelCase (name : String) : Prop := isCamel name.toList = true

instance (name : String) : Decidable (IsCamelCase name) :=
  inferInstanceAs (Decidable (_ = _))

namespace IsCamelCase

variable {m n : String}

/-- The parts of a name in camel case. -/
lemma exists_cons (h : IsCamelCase n) : ∃ first rest, n.toList = first :: rest ∧
    first.isUpper = true ∧ ∀ c ∈ rest, c.isAlphanum = true := by
  rw [IsCamelCase] at h
  cases hn : n.toList with
  | nil =>
    rw [hn] at h
    cases h
  | cons first rest =>
    rw [hn, isCamel, Bool.and_eq_true, List.all_eq_true] at h
    exact ⟨first, rest, rfl, h⟩

/-- Names in camel case are identifiers. -/
lemma isIdentifier (h : IsCamelCase n) : IsIdentifier n := by
  obtain ⟨first, rest, hn, hfirst, hrest⟩ := h.exists_cons
  have hall : rest.all isNameChar = true := List.all_eq_true.mpr fun c hc => by
    rw [isNameChar, hrest c hc, Bool.true_or]
  rw [IsIdentifier, hn, isName, isNameStart_of_isUpper hfirst, hall]
  rfl

/-- There are no underscores in camel case. -/
lemma underscore_notMem (h : IsCamelCase n) : '_' ∉ n.toList := by
  obtain ⟨first, rest, hn, hfirst, hrest⟩ := h.exists_cons
  rw [hn, List.mem_cons, not_or]
  constructor
  · rintro rfl
    exact absurd hfirst (by decide)
  · intro hmem
    exact absurd (hrest '_' hmem) (by decide)

/-- The first letter is capital. -/
lemma modifyHead_toUpper (h : IsCamelCase n) :
    n.toList.modifyHead Char.toUpper = n.toList := by
  obtain ⟨first, rest, hn, hfirst, -⟩ := h.exists_cons
  rw [hn, List.modifyHead_cons, toUpper_of_isUpperCase (isUpperCase_of_isUpper hfirst)]

/-- Names in camel case that are the same in snake case are the same. -/
lemma eq_of_snakeCase_eq (hm : IsCamelCase m) (hn : IsCamelCase n)
    (h : snakeCase m = snakeCase n) : m = n := by
  rw [snakeCase_eq_iff hm.underscore_notMem hn.underscore_notMem, hm.modifyHead_toUpper,
    hn.modifyHead_toUpper] at h
  exact String.toList_inj.mp h

end IsCamelCase

/-! ## Records -/

namespace RecordDeclaration

/-- The attributes give no table name. -/
def HasDefaultTable (d : RecordDeclaration) : Prop := ∀ a ∈ d.attributes, a.IsSilent

/-- The table then has the name of the record in snake case. -/
lemma HasDefaultTable.table_eq {d : RecordDeclaration} {r : Record} (h : d.HasDefaultTable)
    (hr : d.derive = .ok r) : r.table = snakeCase d.name := by
  rcases (derive_ok.mp hr).2.1.table with ⟨before, a, after, hsplit, -, hname⟩ | ⟨-, htable⟩
  · have ha : a ∈ d.attributes := hsplit ▸ List.mem_append_right before List.mem_cons_self
    exact absurd (h a ha) hname.not_isSilent
  · exact htable

/-- Two different names of records, in camel case, are different in snake case, where they are
identifiers. So two records with such names, and with attributes that give no table name, have
tables that a store tells apart.

*Proof sketch.* Snake case can be undone for names without underscores, up to the case of the first
letter, which is capital in both names. In snake case there are no capital letters, so that names
which are not equal differ in more than the case of letters. -/
theorem defaultTables_apart :
    (∀ m n, IsCamelCase m → IsCamelCase n → m ≠ n → snakeCase m ≠ snakeCase n) ∧
    (∀ n, IsCamelCase n → IsIdentifier (snakeCase n)) ∧
    ∀ (d e : RecordDeclaration) (r s : Record), d.HasDefaultTable → e.HasDefaultTable →
      IsCamelCase d.name → IsCamelCase e.name → d.name ≠ e.name →
      d.derive = .ok r → e.derive = .ok s → sameName r.table s.table = false := by
  have happart : ∀ m n, IsCamelCase m → IsCamelCase n → m ≠ n → snakeCase m ≠ snakeCase n :=
    fun m n hm hn hne h => hne (hm.eq_of_snakeCase_eq hn h)
  refine ⟨happart, fun n hn => isIdentifier_snakeCase hn.isIdentifier, ?_⟩
  intro d e r s hd he hdname hename hne hr hs
  rw [hd.table_eq hr, he.table_eq hs, Bool.eq_false_iff, ne_eq, sameName_snakeCase]
  exact happart d.name e.name hdname hename hne

end RecordDeclaration

namespace Sample

/-- Servers with a run of capital letters in their name. -/
def capitalServer : RecordDeclaration where
  name := "HTTPServer2"
  fields := [⟨"name", .required .text, []⟩]

/-- Servers whose name differs from that in the case of letters only. -/
def smallServer : RecordDeclaration where
  name := "HttpServer2"
  fields := [⟨"name", .required .text, []⟩]

/-- The tables of the two servers have different names, which are identifiers. -/
theorem servers_apart :
    IsCamelCase capitalServer.name ∧ IsCamelCase smallServer.name ∧
    capitalServer.HasDefaultTable ∧ smallServer.HasDefaultTable ∧
    snakeCase capitalServer.name ≠ snakeCase smallServer.name ∧
    IsIdentifier (snakeCase capitalServer.name) ∧
    ∃ r s, capitalServer.derive = .ok r ∧ smallServer.derive = .ok s ∧
      sameName r.table s.table = false := by
  have hcapital : IsCamelCase capitalServer.name := by decide +kernel
  have hsmall : IsCamelCase smallServer.name := by decide +kernel
  have hne : capitalServer.name ≠ smallServer.name := by decide +kernel
  have hdefault : capitalServer.HasDefaultTable := nofun
  have hdefault' : smallServer.HasDefaultTable := nofun
  obtain ⟨hnames, hidentifier, htables⟩ := RecordDeclaration.defaultTables_apart
  have hderive : capitalServer.derive = .ok ⟨"h_t_t_p_server2",
      [⟨"name", .required .text, .new "name" (.plain .text)⟩]⟩ := by decide +kernel
  have hderive' : smallServer.derive = .ok ⟨"http_server2",
      [⟨"name", .required .text, .new "name" (.plain .text)⟩]⟩ := by decide +kernel
  exact ⟨hcapital, hsmall, hdefault, hdefault', hnames _ _ hcapital hsmall hne,
    hidentifier _ hcapital, _, _, hderive, hderive',
    htables _ _ _ _ hdefault hdefault' hcapital hsmall hne hderive hderive'⟩

end Sample

end TypedSql
