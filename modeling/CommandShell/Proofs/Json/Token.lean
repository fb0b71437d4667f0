import CommandShell.Json.Canonical
import CommandShell.Proofs.Number.Text
import Mathlib.Tactic.IntervalCases

/-!
# Strings and scalars in canonical texts

The text of a scalar tells the scalar, also where more text follows (`scalar_append_inj`). A
string is read character by character up to its closing quote (`decodeChar_append`). The other
scalars have texts of letters, digits, points and signs, which end where another character
stands, and no two of them have the same text.
-/

namespace CommandShell.Json

/-! ## Strings -/

/-- The character that a hexadecimal digit after another one of value `high` makes up. -/
def hexChar (high low : Char) : Char :=
  Char.ofNat (16 * (high.toNat - 48) + if low.isDigit then low.toNat - 48 else low.toNat - 87)

/-- The first character of a string, and what follows it. -/
def decodeChar : List Char → Option (Char × List Char)
  | '\\' :: 'u' :: _ :: _ :: high :: low :: r => some (hexChar high low, r)
  | '\\' :: 'n' :: r => some ('\n', r)
  | '\\' :: 'r' :: r => some ('\r', r)
  | '\\' :: 't' :: r => some ('\t', r)
  | '\\' :: 'b' :: r => some ('\x08', r)
  | '\\' :: 'f' :: r => some ('\x0c', r)
  | '\\' :: c :: r => some (c, r)
  | c :: r => some (c, r)
  | [] => none

theorem decodeChar_of_ne {c : Char} (h : c ≠ '\\') (r : List Char) :
    decodeChar (c :: r) = some (c, r) := by
  rw [decodeChar.eq_def]
  split <;> simp_all

/-- **A character is read back.** -/
theorem decodeChar_append (c : Char) (r : List Char) :
    decodeChar (encodeChar c ++ r) = some (c, r) := by
  by_cases hcontrol : c.toNat < 32
  · obtain ⟨n, hn⟩ : ∃ n, c.toNat = n := ⟨_, rfl⟩
    rw [← Char.ofNat_toNat c, hn]
    rw [hn] at hcontrol
    interval_cases n <;> rfl
  · have hne {d : Char} (hd : d.toNat < 32) : c ≠ d := by
      rintro rfl
      exact hcontrol hd
    unfold encodeChar
    split
    · subst_vars
      rfl
    · split
      · subst_vars
        rfl
      · rename_i hslash
        rw [if_neg (hne (by decide)), if_neg (hne (by decide)), if_neg (hne (by decide)),
          if_neg (hne (by decide)), if_neg (hne (by decide))]
        exact decodeChar_of_ne hslash r

theorem encodeChar_append_inj {c d : Char} {r s : List Char}
    (h : encodeChar c ++ r = encodeChar d ++ s) : c = d ∧ r = s := by
  have hdecode := decodeChar_append c r
  rw [h, decodeChar_append] at hdecode
  exact (Prod.mk.inj (Option.some.inj hdecode)).imp Eq.symm Eq.symm

/-- A quote that is not escaped is no character of a string. -/
theorem encodeChar_ne_quote (c : Char) (r s : List Char) : encodeChar c ++ r ≠ '\x22' :: s := by
  intro h
  have hdecode := decodeChar_append c r
  rw [h, decodeChar_of_ne (by decide)] at hdecode
  obtain ⟨rfl, -⟩ := Prod.mk.inj (Option.some.inj hdecode)
  cases h

/-- **A string is told by its text.** -/
theorem encodeString_append_inj {cs ds r s : List Char}
    (h : encodeString cs ++ r = encodeString ds ++ s) : cs = ds ∧ r = s := by
  simp only [encodeString, List.cons_append, List.append_assoc, List.nil_append, List.cons.injEq,
    true_and] at h
  induction cs generalizing ds with
  | nil =>
      cases ds with
      | nil => exact ⟨rfl, (List.cons.inj h).2⟩
      | cons d ds =>
          rw [List.flatMap_cons, List.append_assoc] at h
          exact absurd h.symm (encodeChar_ne_quote d _ _)
  | cons c cs ih =>
      rw [List.flatMap_cons, List.append_assoc] at h
      cases ds with
      | nil => exact absurd h (encodeChar_ne_quote c _ _)
      | cons d ds =>
          rw [List.flatMap_cons, List.append_assoc] at h
          obtain ⟨rfl, htail⟩ := encodeChar_append_inj h
          obtain ⟨rfl, hrest⟩ := ih htail
          exact ⟨rfl, hrest⟩

/-! ## Other scalars -/

/-- Letters, digits, points and signs make up the texts of scalars that are no strings. -/
def isPlain (c : Char) : Bool := c.isDigit || c.isAlpha || c == '.' || c == '-' || c == '+'

theorem eq_toString_of_integerText {n : Int} {t : String} (h : integerText n = .ok t) :
    t = toString n := by
  unfold integerText at h
  split at h
  · cases h
  · exact (Except.ok.inj h).symm

/-- The texts of the scalars that are no strings. -/
inductive Atom : Scalar → List Char → Prop where
  | null : Atom .null "null".toList
  | bool (b : Bool) : Atom (.bool b) (if b then "true".toList else "false".toList)
  | int (n : Int) : Atom (.int n) (toString n).toList
  | float (x : Binary64) : Atom (.float x) x.text.toList

theorem encodeScalar_cases {s : Scalar} {t : List Char} (h : encodeScalar s = .ok t) :
    (∃ name : String, s = .str name ∧ t = encodeString name.toList) ∨ Atom s t := by
  cases s with
  | null => exact Or.inr (Except.ok.inj h ▸ .null)
  | bool b => exact Or.inr (Except.ok.inj h ▸ .bool b)
  | int n =>
      cases htext : integerText n with
      | error f =>
          rw [encodeScalar, htext] at h
          cases h
      | ok u =>
          rw [encodeScalar, htext] at h
          obtain rfl := Except.ok.inj h
          rw [eq_toString_of_integerText htext]
          exact Or.inr (.int n)
  | float x => exact Or.inr (Except.ok.inj h ▸ .float x)
  | str name => exact Or.inl ⟨name, rfl, (Except.ok.inj h).symm⟩
  | date name => cases h
  | moment name => cases h

theorem Atom.plain {s : Scalar} {t : List Char} (h : Atom s t) : ∀ c ∈ t, isPlain c = true := by
  cases h with
  | null => exact List.all_eq_true.mp (by decide)
  | bool b => exact List.all_eq_true.mp (by cases b <;> decide)
  | int n =>
      intro c hc
      rcases mem_toString hc with hdigit | rfl
      · simp [isPlain, hdigit]
      · rfl
  | float x =>
      intro c hc
      have hmark : ∀ d ∈ ['.', '-', '+'], isPlain d = true :=
        List.all_eq_true.mp (by decide)
      rcases Binary64.mem_text hc with hdigit | halpha | hmem
      · simp [isPlain, hdigit]
      · simp [isPlain, halpha]
      · exact hmark c hmem

theorem Atom.ne_nil {s : Scalar} {t : List Char} (h : Atom s t) : t ≠ [] := by
  cases h with
  | null => decide
  | bool b => cases b <;> decide
  | int n =>
      rw [toList_toString]
      split
      · exact List.cons_ne_nil _ _
      · exact Nat.toDigits_ne_nil
  | float x =>
      obtain ⟨c, r, htext, -⟩ := x.head_text
      rw [htext]
      exact List.cons_ne_nil c r

/-- A name is no number. -/
theorem number_ne_name {c : Char} (hc : c ∈ ['n', 't', 'f']) (r : List Char) :
    (∀ n : Int, (toString n).toList ≠ c :: r) ∧ ∀ x : Binary64, x.text.toList ≠ c :: r := by
  obtain ⟨hdigit, hmark⟩ : c.isDigit = false ∧ c ∉ ['-', 'N', 'I'] := by
    simp only [List.mem_cons, List.not_mem_nil, or_false] at hc
    rcases hc with rfl | rfl | rfl <;> decide
  constructor
  · intro n heq
    rcases mem_toString (heq ▸ List.mem_cons_self) with h | rfl
    · rw [hdigit] at h
      cases h
    · exact hmark (by simp)
  · intro x heq
    obtain ⟨d, s, htext, hd⟩ := x.head_text
    obtain ⟨rfl, rfl⟩ := List.cons.inj (heq.symm.trans htext)
    rcases hd with h | h
    · rw [hdigit] at h
      cases h
    · exact hmark h

/-- An integer is no floating-point number. -/
theorem toString_ne_text (n : Int) (x : Binary64) : (toString n).toList ≠ x.text.toList := by
  intro heq
  obtain ⟨c, hc, hdigit, hminus⟩ := x.exists_mem_text
  rcases mem_toString (heq ▸ hc) with h | h
  · rw [hdigit] at h
    cases h
  · exact hminus h

/-- **No two of these scalars have the same text.** -/
theorem Atom.inj {a b : Scalar} {t u : List Char} (ha : Atom a t) (hb : Atom b u) (h : t = u) :
    a = b := by
  have hnull := number_ne_name (c := 'n') (by decide) "ull".toList
  have htrue := number_ne_name (c := 't') (by decide) "rue".toList
  have hfalse := number_ne_name (c := 'f') (by decide) "alse".toList
  cases ha with
  | null =>
      cases hb with
      | null => rfl
      | bool b => cases b <;> exact absurd h (by decide)
      | int n => exact absurd h.symm (hnull.1 n)
      | float x => exact absurd h.symm (hnull.2 x)
  | bool b =>
      cases hb with
      | null => cases b <;> exact absurd h (by decide)
      | bool b' => cases b <;> cases b' <;> first | rfl | exact absurd h (by decide)
      | int n => cases b <;> [exact absurd h.symm (hfalse.1 n); exact absurd h.symm (htrue.1 n)]
      | float x => cases b <;> [exact absurd h.symm (hfalse.2 x); exact absurd h.symm (htrue.2 x)]
  | int n =>
      cases hb with
      | null => exact absurd h (hnull.1 n)
      | bool b => cases b <;> [exact absurd h (hfalse.1 n); exact absurd h (htrue.1 n)]
      | int m => rw [toString_inj (String.toList_injective h)]
      | float x => exact absurd h (toString_ne_text n x)
  | float x =>
      cases hb with
      | null => exact absurd h (hnull.2 x)
      | bool b => cases b <;> [exact absurd h (hfalse.2 x); exact absurd h (htrue.2 x)]
      | int n => exact absurd h.symm (toString_ne_text n x)
      | float y => rw [Binary64.text_inj (String.toList_injective h)]

/-- **A scalar is told by its text**, where the text does not go on with a plain character. -/
theorem scalar_append_inj {a b : Scalar} {t u r s : List Char} (ha : encodeScalar a = .ok t)
    (hb : encodeScalar b = .ok u) (hr : Text.Stops isPlain r) (hs : Text.Stops isPlain s)
    (h : t ++ r = u ++ s) : a = b ∧ r = s := by
  have hquote {c : Scalar} {v w x : List Char} (hv : Atom c v) (ds : List Char) :
      encodeString ds ++ w ≠ v ++ x := by
    intro heq
    obtain ⟨d, v, rfl⟩ := List.exists_cons_of_ne_nil hv.ne_nil
    have hplain := hv.plain d List.mem_cons_self
    obtain rfl : '\x22' = d := (List.cons.inj heq).1
    cases hplain
  rcases encodeScalar_cases ha with ⟨name, rfl, rfl⟩ | hatom <;>
    rcases encodeScalar_cases hb with ⟨name', rfl, rfl⟩ | hatom'
  · obtain ⟨hname, hrest⟩ := encodeString_append_inj h
    exact ⟨by rw [String.toList_injective hname], hrest⟩
  · exact absurd h (hquote hatom' _)
  · exact absurd h.symm (hquote hatom _)
  · obtain ⟨htext, hrest⟩ := Text.append_inj_of_stops hatom.plain hatom'.plain hr hs h
    exact ⟨hatom.inj hatom' htext, hrest⟩

end CommandShell.Json
