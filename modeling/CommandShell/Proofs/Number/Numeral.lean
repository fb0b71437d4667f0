import CommandShell.Number.Numeral
import CommandShell.Proofs.Chain.RoundTrip

/-!
# Texts that are written like integers

A flag's value counts as an integer by its characters alone (`Numeral.isPlain`), and is then
read by rules of their own, with blanks, signs and underscores (`Numeral.read`). The two
agree: whatever is written like an integer is read as the integer that its digits stand
for, and refused only where it has more digits than the limit (`read_of_isPlain`).
-/

namespace CommandShell

namespace Text

/-- A decimal digit of any script stands behind the zero of that script. -/
theorem exists_zero_of_isDecimal {c : Char} (h : isDecimal c = true) :
    ∃ z ∈ zeroDigits, z ≤ c.toNat ∧ c.toNat < z + 10 := by
  unfold isDecimal digitValue? at h
  split at h
  · split at h
    · rename_i hdigit
      refine ⟨48, by decide, ?_⟩
      simp only [Char.isDigit, Bool.and_eq_true, decide_eq_true_eq, UInt32.le_iff_toNat_le] at hdigit
      have hlow : 48 ≤ c.toNat := hdigit.1
      have hhigh : c.toNat ≤ 57 := hdigit.2
      omega
    · cases h
  · rw [Option.isSome_map] at h
    obtain ⟨z, hz⟩ := Option.isSome_iff_exists.mp h
    have hrange := List.find?_some hz
    rw [Bool.and_eq_true, decide_eq_true_eq, decide_eq_true_eq] at hrange
    exact ⟨z, List.mem_of_find?_eq_some hz, hrange⟩

/-- No blank is a digit. -/
theorem not_isBlank_of_isDecimal {c : Char} (h : isDecimal c = true) : isBlank c = false := by
  obtain ⟨z, hz, hlow, hhigh⟩ := exists_zero_of_isDecimal h
  rw [Bool.eq_false_iff]
  intro hblank
  obtain ⟨range, hrange, hfirst, hlast⟩ := Ranges.has_iff.mp hblank
  have hapart : ∀ z ∈ zeroDigits, ∀ range ∈ blankRanges, range.2 < z ∨ z + 10 ≤ range.1 := by
    decide
  have := hapart z hz range hrange
  omega

end Text

namespace Numeral

/-- How many digits a text has. -/
def digitCount (text : String) : Nat := text.toList.countP Text.isDecimal

/-- The number that the digits of a text stand for, negative behind a minus. -/
def plainValue (text : String) : Int :=
  let n := Text.decimalValue 0 (text.toList.filter Text.isDecimal)
  if text.toList.head? = some '-' then -n else n

/-- A minus or nothing, digits, and a line end or nothing. -/
structure Plain (cs : List Char) (sign digits ending : List Char) : Prop where
  eq : cs = sign ++ digits ++ ending
  sign : sign = [] ∨ sign = ['-']
  nonempty : digits ≠ []
  digits : ∀ c ∈ digits, Text.isDecimal c = true
  ending : ending = [] ∨ ending = ['\n']

/-- A text without the minus in front of it. -/
def unsigned (cs : List Char) : List Char :=
  match cs with
  | '-' :: r => r
  | _ => cs

theorem eq_unsigned (cs : List Char) : cs = unsigned cs ∨ cs = '-' :: unsigned cs := by
  unfold unsigned
  split
  · exact Or.inr rfl
  · exact Or.inl rfl

/-- Digits, and behind them nothing or a line end: what a text is held against behind its
minus. -/
theorem exists_digits_iff {body : List Char} :
    (match body.dropWhile Text.isDecimal with
      | [] => !body.isEmpty
      | ['\n'] => body.length != 1
      | _ => false) = true ↔ ∃ digits ending, Plain body [] digits ending := by
  constructor
  · intro h
    have hsplit := List.takeWhile_append_dropWhile (p := Text.isDecimal) (l := body)
    have hdigits : ∀ c ∈ body.takeWhile Text.isDecimal, Text.isDecimal c = true :=
      List.all_eq_true.mp List.all_takeWhile
    split at h
    · rename_i hrest
      rw [hrest, List.append_nil] at hsplit
      rw [hsplit] at hdigits
      exact ⟨body, [], by simp, Or.inl rfl, by simpa using h, hdigits, Or.inl rfl⟩
    · rename_i hrest
      rw [hrest] at hsplit
      refine ⟨body.takeWhile Text.isDecimal, ['\n'], hsplit.symm, Or.inl rfl, ?_, hdigits,
        Or.inr rfl⟩
      intro hnil
      rw [hnil] at hsplit
      rw [← hsplit] at h
      cases h
    · cases h
  · rintro ⟨digits, ending, h⟩
    have hrest : body.dropWhile Text.isDecimal = ending.dropWhile Text.isDecimal := by
      rw [h.eq, List.nil_append, List.dropWhile_append_of_pos h.digits]
    have hbody : body = digits ++ ending := h.eq
    have hne := h.nonempty
    rcases h.ending with hnone | hline
    · rw [hrest, hnone]
      simp [hbody, hne]
    · have hstop : ['\n'].dropWhile Text.isDecimal = ['\n'] := by decide
      rw [hrest, hline, hstop]
      simp [hbody, hline, hne]

/-- **Which texts are written like integers.** -/
theorem isPlain_iff {cs : List Char} :
    isPlain cs = true ↔ ∃ sign digits ending, Plain cs sign digits ending := by
  constructor
  · intro h
    obtain ⟨digits, ending, hbody⟩ := (@exists_digits_iff (unsigned cs)).mp h
    rcases eq_unsigned cs with heq | heq
    · rw [← heq] at hbody
      exact ⟨[], digits, ending, hbody⟩
    · refine ⟨['-'], digits, ending, ?_, Or.inr rfl, hbody.nonempty, hbody.digits, hbody.ending⟩
      rw [heq, hbody.eq]
      rfl
  · rintro ⟨sign, digits, ending, h⟩
    refine (@exists_digits_iff (unsigned cs)).mpr ⟨digits, ending, ?_⟩
    obtain ⟨c, r, hcons⟩ := List.exists_cons_of_ne_nil h.nonempty
    refine ⟨?_, Or.inl rfl, h.nonempty, h.digits, h.ending⟩
    rw [h.eq]
    rcases h.sign with hnone | hminus
    · have hc : c ≠ '-' := by
        rintro rfl
        exact absurd (h.digits '-' (hcons ▸ List.mem_cons_self)) (by decide)
      rw [hnone, hcons]
      simp [unsigned, hc]
    · rw [hminus]
      rfl

/-- Digits are read without any of them being left out. -/
theorem digits?_of_isDecimal {cs : List Char} (hne : cs ≠ [])
    (h : ∀ c ∈ cs, Text.isDecimal c = true) : digits? cs = some cs := by
  fun_induction digits? cs with
  | case1 => exact absurd rfl hne
  | case2 => rfl
  | case3 c hc => exact absurd (h c List.mem_cons_self) hc
  | case4 c d r hc ih => exact absurd (h '_' (by simp)) (by decide)
  | case5 c d r hc => exact absurd (h c List.mem_cons_self) hc
  | case6 c r hnil hunderscore hc ih =>
      rw [ih hnil fun d hd => h d (List.mem_cons_of_mem c hd)]
      rfl
  | case7 c r hnil hunderscore hc => exact absurd (h c List.mem_cons_self) hc

namespace Plain

variable {cs sign digits ending : List Char}

/-- It begins with its sign or with a digit. -/
theorem dropWhile_isBlank (h : Plain cs sign digits ending) :
    cs.dropWhile Text.isBlank = cs := by
  obtain ⟨c, r, hcons⟩ := List.exists_cons_of_ne_nil h.nonempty
  have hc : Text.isBlank c = false :=
    Text.not_isBlank_of_isDecimal (h.digits c (hcons ▸ List.mem_cons_self))
  rw [h.eq, hcons]
  rcases h.sign with hnone | hminus
  · rw [hnone]
    exact List.dropWhile_cons_of_neg (by simp [hc])
  · rw [hminus]
    exact List.dropWhile_cons_of_neg (by decide)

theorem trimEnd_eq (h : Plain cs sign digits ending) : Text.trimEnd cs = sign ++ digits := by
  have hlast := List.getLast?_eq_getLast_of_ne_nil h.nonempty
  have hdigit := h.digits _ (List.getLast_mem h.nonempty)
  have hself : Text.trimEnd (sign ++ digits) = sign ++ digits := by
    refine Stage.trimEnd_eq_self ?_ (Text.not_isBlank_of_isDecimal hdigit)
    rw [List.getLast?_append, hlast]
    rfl
  rw [h.eq]
  rcases h.ending with hnone | hline
  · rw [hnone, List.append_nil, hself]
  · rw [hline, Stage.trimEnd_concat _ rfl, hself]

/-- The only blank that may stand at its ends is the line end. -/
theorem trim_eq (h : Plain cs sign digits ending) : Text.trim cs = sign ++ digits := by
  rw [Text.trim, h.dropWhile_isBlank, h.trimEnd_eq]

theorem signed_eq (h : Plain cs sign digits ending) :
    signed (sign ++ digits) = (decide (cs.head? = some '-'), digits) := by
  obtain ⟨c, r, hcons⟩ := List.exists_cons_of_ne_nil h.nonempty
  have hc : Text.isDecimal c = true := h.digits c (hcons ▸ List.mem_cons_self)
  rw [h.eq, hcons]
  rcases h.sign with hnone | hminus
  · have hminus : c ≠ '-' := by
      rintro rfl
      exact absurd hc (by decide)
    have hplus : c ≠ '+' := by
      rintro rfl
      exact absurd hc (by decide)
    simp [hnone, signed, hminus, hplus]
  · rw [hminus]
    rfl

theorem filter_eq (h : Plain cs sign digits ending) : cs.filter Text.isDecimal = digits := by
  have hsign : sign.filter Text.isDecimal = [] := by
    rcases h.sign with hnone | hminus
    · rw [hnone]
      rfl
    · rw [hminus]
      rfl
  have hending : ending.filter Text.isDecimal = [] := by
    rcases h.ending with hnone | hline
    · rw [hnone]
      rfl
    · rw [hline]
      rfl
  rw [h.eq, List.filter_append, List.filter_append, hsign, hending, List.append_nil,
    List.nil_append, List.filter_eq_self.mpr h.digits]

end Plain

/-- **What is written like an integer is read as one**, up to the limit of digits. -/
theorem read_of_isPlain {text : String} (h : isPlain text.toList = true) :
    read text = if limit < digitCount text then .error (.tooLong (digitCount text))
      else .ok (plainValue text) := by
  obtain ⟨sign, digits, ending, hplain⟩ := isPlain_iff.mp h
  have hread := digits?_of_isDecimal hplain.nonempty hplain.digits
  have hcount : digitCount text = digits.length := by
    rw [digitCount, List.countP_eq_length_filter, hplain.filter_eq]
  unfold read plainValue
  rw [hplain.trim_eq, hplain.signed_eq, hplain.filter_eq, hcount]
  simp only [hread, decide_eq_true_eq]

end Numeral

end CommandShell
