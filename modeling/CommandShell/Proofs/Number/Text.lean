import CommandShell.Proofs.Number.Digits
import CommandShell.Proofs.Number.Shortest

/-!
# The texts of floating-point numbers

A text tells the decimal number that it shows (`decimalValue_decimalText`): it has a point
among its digits, or an exponent behind them (`decimalText_cases`). That number rounds to the
one whose text it is, and to no other, so different numbers have different texts (`text_inj`).
-/

namespace CommandShell.Binary64

/-! ## Reading decimal numbers -/

/-- The number that digits stand for, with a point among them or without one. -/
def mantissaValue (cs : List Char) : ℚ :=
  Nat.ofDigitChars 10 (cs.filter Char.isDigit) 0 *
    10 ^ (-((cs.dropWhile (· ≠ '.')).length - 1 : Nat) : Int)

/-- The exponent that stands behind the digits, which is zero where none does. -/
def exponentValue : List Char → Int
  | 'e' :: '-' :: ds => -Nat.ofDigitChars 10 ds 0
  | 'e' :: '+' :: ds => Nat.ofDigitChars 10 ds 0
  | _ => 0

/-- The number that a text stands for. -/
def decimalValue (cs : List Char) : ℚ :=
  mantissaValue (cs.takeWhile (· ≠ 'e')) * 10 ^ exponentValue (cs.dropWhile (· ≠ 'e'))

theorem mantissaValue_point {xs ys : List Char} (hx : Digits xs) (hy : Digits ys) :
    mantissaValue (xs ++ '.' :: ys) =
      Nat.ofDigitChars 10 (xs ++ ys) 0 * 10 ^ (-ys.length : Int) := by
  have hplaces : (xs ++ '.' :: ys).dropWhile (· ≠ '.') = '.' :: ys := by
    rw [List.dropWhile_append_of_pos (hx.forall_ne rfl)]
    rfl
  rw [mantissaValue, hplaces, List.filter_append, hx.filter_eq]
  simp [hy.filter_eq]

theorem mantissaValue_digits {xs : List Char} (hx : Digits xs) :
    mantissaValue xs = Nat.ofDigitChars 10 xs 0 := by
  have hplaces := Text.dropWhile_append_of_stops (hx.forall_ne (d := '.') rfl) Text.stops_nil
  rw [List.append_nil] at hplaces
  rw [mantissaValue, hplaces, hx.filter_eq]
  simp

/-- A text without the letter has no exponent. -/
theorem decimalValue_append {xs r : List Char} (hx : ∀ c ∈ xs, decide (c ≠ 'e') = true)
    (hr : Text.Stops (· ≠ 'e') r) :
    decimalValue (xs ++ r) = mantissaValue xs * 10 ^ exponentValue r := by
  rw [decimalValue, Text.takeWhile_append_of_stops hx hr, Text.dropWhile_append_of_stops hx hr]

theorem decimalValue_point {x y : List Char} (hx : Digits x) (hy : Digits y) :
    decimalValue (x ++ '.' :: y) =
      Nat.ofDigitChars 10 (x ++ y) 0 * 10 ^ (-y.length : Int) := by
  have hmantissa : ∀ c ∈ x ++ '.' :: y, decide (c ≠ 'e') = true := by
    intro c hc
    rcases List.mem_append.mp hc with hc | hc
    · exact hx.forall_ne rfl c hc
    · rcases List.mem_cons.mp hc with rfl | hc
      · rfl
      · exact hy.forall_ne rfl c hc
  have h := decimalValue_append hmantissa Text.stops_nil
  rw [List.append_nil] at h
  rw [h, mantissaValue_point hx hy]
  simp [exponentValue]

/-- **The two shapes of a decimal text**: digits with a point among them, of the same number, or
the digits with a point after the first one, and an exponent. -/
theorem decimalText_cases {ds : List Char} (h : Digits ds) (hne : ds ≠ []) (power : Int) :
    (∃ x y, x ≠ [] ∧ Digits x ∧ Digits y ∧ decimalText ds power = x ++ '.' :: y ∧
        (Nat.ofDigitChars 10 (x ++ y) 0 : ℚ) * 10 ^ (-y.length : Int) =
          Nat.ofDigitChars 10 ds 0 * 10 ^ power) ∨
      ∃ (c : Char) (y z : List Char) (e : Int), ds = c :: y ∧ e = power + y.length ∧
        Digits z ∧ Nat.ofDigitChars 10 z 0 = e.natAbs ∧
        decimalText ds power = c :: (if y.isEmpty then [] else '.' :: y) ++
          'e' :: (if e < 0 then '-' else '+') :: z := by
  have hlen := List.length_pos_iff.mpr hne
  obtain ⟨point, hpoint⟩ : ∃ point : Int, ds.length + power = point := ⟨_, rfl⟩
  obtain rfl : power = point - ds.length := by omega
  rw [decimalText, hpoint]
  dsimp only
  split
  · left
    split
    · -- zeros and all digits behind the point
      refine ⟨['0'], List.replicate (-point).toNat '0' ++ ds, by simp, by simp [Digits],
        (digits_zeros _).append h, by simp, ?_⟩
      rw [List.singleton_append, Nat.ofDigitChars_cons, Nat.ofDigitChars_append, List.length_append,
        List.length_replicate]
      congr 2
      · simp
      · omega
    · split
      · -- zeros behind the digits, and one behind the point
        refine ⟨ds ++ List.replicate (point - ds.length).toNat '0', ['0'], by simp [hne],
          h.append (digits_zeros _), by simp [Digits], by simp, ?_⟩
        have hpower : (10 : ℚ) ^ (point - ds.length) = 10 ^ (point - ds.length).toNat := by
          rw [← zpow_natCast]
          congr 1
          omega
        rw [Nat.ofDigitChars_append, ofDigitChars_append_zeros, hpower]
        simp [Nat.ofDigitChars_cons]
        ring
      · refine ⟨ds.take point.toNat, ds.drop point.toNat, ?_,
          fun c hc => h c (List.mem_of_mem_take hc), fun c hc => h c (List.mem_of_mem_drop hc),
          rfl, ?_⟩
        · rw [← List.length_pos_iff, List.length_take]
          omega
        · rw [List.take_append_drop, List.length_drop]
          congr 2
          omega
  · right
    obtain ⟨c, y, rfl⟩ := List.exists_cons_of_ne_nil hne
    refine ⟨c, y, List.replicate (2 - (Nat.toDigits 10 (point - 1).natAbs).length) '0' ++
      Nat.toDigits 10 (point - 1).natAbs, point - 1, rfl, ?_,
      (digits_zeros _).append (digits_toDigits _), by simp [Nat.ofDigitChars_append], by simp⟩
    rw [List.length_cons]
    omega

/-- **A decimal text shows its digits times the power of ten.** -/
theorem decimalValue_decimalText {ds : List Char} (h : Digits ds) (hne : ds ≠ []) (power : Int) :
    decimalValue (decimalText ds power) = Nat.ofDigitChars 10 ds 0 * 10 ^ power := by
  rcases decimalText_cases h hne power with
    ⟨x, y, -, hx, hy, htext, hvalue⟩ | ⟨c, y, z, e, rfl, he, hz, hexponent, htext⟩
  · rw [htext, decimalValue_point hx hy, hvalue]
  · have hc : Digits [c] := fun d hd => h d (List.mem_cons.mpr (Or.inl (List.mem_singleton.mp hd)))
    have hy : Digits y := fun d hd => h d (List.mem_cons_of_mem _ hd)
    have hsign : exponentValue ('e' :: (if e < 0 then '-' else '+') :: z) = e := by
      split <;> simp only [exponentValue, hexponent] <;> omega
    have hmantissa : mantissaValue (c :: if y.isEmpty then [] else '.' :: y) =
        Nat.ofDigitChars 10 (c :: y) 0 * 10 ^ (-y.length : Int) := by
      cases y with
      | nil => simp [mantissaValue_digits hc]
      | cons d y => exact mantissaValue_point hc hy
    have hletter : ∀ d ∈ c :: (if y.isEmpty then [] else '.' :: y), decide (d ≠ 'e') = true := by
      rw [List.forall_mem_cons]
      refine ⟨hc.forall_ne rfl c (List.mem_singleton.mpr rfl), fun d hd => ?_⟩
      split at hd
      · cases hd
      · rcases List.mem_cons.mp hd with rfl | hd
        · rfl
        · exact hy.forall_ne rfl d hd
    rw [htext, decimalValue_append hletter (Text.stops_cons rfl), hsign, hmantissa, mul_assoc,
      ← zpow_add₀ (by norm_num)]
    congr 2
    omega

/-! ## The texts -/

/-- The text of a finite number without its sign. -/
def unsignedText (e : Fin 2047) (f : Fin fractionEnd) : List Char :=
  if significand e f = 0 then ['0', '.', '0']
  else decimalText (Nat.toDigits 10 (shortest e f).1) (shortest e f).2

theorem text_finite (negative : Bool) (e : Fin 2047) (f : Fin fractionEnd) :
    (finite negative e f).text.toList =
      if negative then '-' :: unsignedText e f else unsignedText e f := by
  rw [text, String.toList_ofList]
  rfl

/-- The number that the text shows rounds to the one whose text it is. -/
theorem holds_unsignedText (e : Fin 2047) (f : Fin fractionEnd) :
    (neighbourhood e f).Holds (decimalValue (unsignedText e f)) := by
  rw [unsignedText]
  split
  · rename_i hm
    have hvalue : decimalValue ['0', '.', '0'] = 0 := by
      have h := decimalValue_point (x := ['0']) (y := ['0']) (by simp [Digits]) (by simp [Digits])
      rw [List.singleton_append] at h
      rw [h]
      simp [Nat.ofDigitChars_cons]
    rw [hvalue, holds_neighbourhood_iff, hm]
    simp
    positivity
  · rename_i hm
    rw [decimalValue_decimalText (digits_toDigits _) Nat.toDigits_ne_nil,
      Nat.ofDigitChars_ten_toDigits, ← Neighbourhood.holds_iff]
    exact holds_shortest hm

theorem unsignedText_inj {e e' : Fin 2047} {f f' : Fin fractionEnd}
    (h : unsignedText e f = unsignedText e' f') : e = e' ∧ f = f' :=
  eq_of_holds (holds_unsignedText e f) (h ▸ holds_unsignedText e' f')

/-- What marks the texts of numbers that are no integers. -/
def IsMark (c : Char) : Prop := c = '.' ∨ c = 'e'

/-- A decimal text begins with a digit and has a mark in it. All else are digits and signs. -/
theorem decimalText_chars {ds : List Char} (h : Digits ds) (hne : ds ≠ []) (power : Int) :
    (∃ c r, decimalText ds power = c :: r ∧ c.isDigit = true) ∧
      (∃ c ∈ decimalText ds power, IsMark c) ∧
      ∀ c ∈ decimalText ds power, c.isDigit = true ∨ c ∈ ['.', 'e', '-', '+'] := by
  rcases decimalText_cases h hne power with
    ⟨x, y, hx, hxs, hys, htext, -⟩ | ⟨c, y, z, e, rfl, -, hz, -, htext⟩
  · rw [htext]
    obtain ⟨c, x, rfl⟩ := List.exists_cons_of_ne_nil hx
    refine ⟨⟨c, _, rfl, hxs c List.mem_cons_self⟩, ⟨'.', by simp, Or.inl rfl⟩, fun d hd => ?_⟩
    rcases List.mem_append.mp hd with hd | hd
    · exact Or.inl (hxs d hd)
    · exact (List.mem_cons.mp hd).symm.imp (hys d) fun heq => by simp [heq]
  · rw [htext]
    refine ⟨⟨c, _, rfl, h c List.mem_cons_self⟩, ⟨'e', by simp, Or.inr rfl⟩, fun d hd => ?_⟩
    have hmem : d ∈ c :: y ∨ d ∈ z ∨ d ∈ ['.', 'e', '-', '+'] := by
      rcases List.mem_append.mp hd with hd | hd
      · split at hd <;> simp at hd ⊢ <;> tauto
      · split at hd <;> simp at hd ⊢ <;> tauto
    rcases hmem with hd | hd | hd
    · exact Or.inl (h d hd)
    · exact Or.inl (hz d hd)
    · exact Or.inr hd

theorem unsignedText_chars (e : Fin 2047) (f : Fin fractionEnd) :
    (∃ c r, unsignedText e f = c :: r ∧ c.isDigit = true) ∧
      (∃ c ∈ unsignedText e f, IsMark c) ∧
      ∀ c ∈ unsignedText e f, c.isDigit = true ∨ c ∈ ['.', 'e', '-', '+'] := by
  rw [unsignedText]
  split
  · refine ⟨⟨'0', _, rfl, rfl⟩, ⟨'.', by simp, Or.inl rfl⟩, fun c hc => ?_⟩
    simp only [List.mem_cons, List.not_mem_nil, or_false] at hc
    rcases hc with rfl | rfl | rfl <;> decide
  · exact decimalText_chars (digits_toDigits _) Nat.toDigits_ne_nil _

theorem unsignedText_ne {c : Char} (hc : c.isDigit = false) (r : List Char) (e : Fin 2047)
    (f : Fin fractionEnd) : unsignedText e f ≠ c :: r := by
  obtain ⟨d, s, htext, hd⟩ := (unsignedText_chars e f).1
  rw [htext]
  rintro ⟨rfl, rfl⟩
  rw [hc] at hd
  cases hd

theorem text_finite_ne {y : Binary64} (h : y.toRat? = none) (negative : Bool) (e : Fin 2047)
    (f : Fin fractionEnd) : (finite negative e f).text.toList ≠ y.text.toList := by
  have hne {c : Char} (hc : c.isDigit = false) (r : List Char) := unsignedText_ne hc r e f
  rw [text_finite]
  cases y with
  | finite => cases h
  | notANumber =>
      cases negative with
      | false => exact hne rfl _
      | true => exact fun heq => nomatch (List.cons.inj heq).1
  | infinite sign =>
      cases negative <;> cases sign
      · exact hne rfl _
      · exact hne rfl _
      · exact fun heq => nomatch (List.cons.inj heq).1
      · exact fun heq => hne rfl _ (List.cons.inj heq).2

/-- **Different numbers have different texts.** -/
theorem text_inj {x y : Binary64} (h : x.text = y.text) : x = y := by
  have hlist := congrArg String.toList h
  cases x with
  | finite n e f =>
      cases y with
      | finite n' e' f' =>
          have hne (r : List Char) := unsignedText_ne (c := '-') rfl r
          rw [text_finite, text_finite] at hlist
          cases n <;> cases n'
          · obtain ⟨rfl, rfl⟩ := unsignedText_inj hlist
            rfl
          · exact absurd hlist (hne _ e f)
          · exact absurd hlist.symm (hne _ e' f')
          · obtain ⟨rfl, rfl⟩ := unsignedText_inj (List.cons.inj hlist).2
            rfl
      | infinite => exact absurd hlist (text_finite_ne rfl n e f)
      | notANumber => exact absurd hlist (text_finite_ne rfl n e f)
  | infinite n =>
      cases y with
      | finite n' e f => exact absurd hlist.symm (text_finite_ne rfl n' e f)
      | infinite n' => cases n <;> cases n' <;> first | rfl | exact absurd h (by decide)
      | notANumber => cases n <;> exact absurd h (by decide)
  | notANumber =>
      cases y with
      | finite n e f => exact absurd hlist.symm (text_finite_ne rfl n e f)
      | infinite n => cases n <;> exact absurd h (by decide)
      | notANumber => rfl

/-- What stands at the start of a text. -/
theorem head_text (x : Binary64) : ∃ c r, x.text.toList = c :: r ∧
    (c.isDigit = true ∨ c ∈ ['-', 'N', 'I']) := by
  cases x with
  | finite n e f =>
      obtain ⟨c, r, htext, hc⟩ := (unsignedText_chars e f).1
      rw [text_finite]
      cases n with
      | false => exact ⟨c, r, htext, Or.inl hc⟩
      | true => exact ⟨'-', _, rfl, Or.inr (by decide)⟩
  | infinite n =>
      cases n with
      | false => exact ⟨'I', _, rfl, Or.inr (by decide)⟩
      | true => exact ⟨'-', _, rfl, Or.inr (by decide)⟩
  | notANumber => exact ⟨'N', _, rfl, Or.inr (by decide)⟩

/-- The texts are made of digits, letters, points and signs. -/
theorem mem_text {x : Binary64} {c : Char} (h : c ∈ x.text.toList) :
    c.isDigit = true ∨ c.isAlpha = true ∨ c ∈ ['.', '-', '+'] := by
  cases x with
  | finite n e f =>
      have hmem : c = '-' ∨ c ∈ unsignedText e f := by
        rw [text_finite] at h
        cases n with
        | false => exact Or.inr h
        | true => exact List.mem_cons.mp h
      rcases hmem with rfl | hmem
      · decide
      · rcases (unsignedText_chars e f).2.2 c hmem with hdigit | hmark
        · exact Or.inl hdigit
        · simp only [List.mem_cons, List.not_mem_nil, or_false] at hmark
          rcases hmark with rfl | rfl | rfl | rfl <;> decide
  | infinite n =>
      have hall : (infinite n).text.toList.all fun d => d.isAlpha || d == '-' := by
        cases n <;> decide
      have hc := List.all_eq_true.mp hall c h
      simp only [Bool.or_eq_true, beq_iff_eq] at hc
      rcases hc with halpha | rfl
      · exact Or.inr (Or.inl halpha)
      · exact Or.inr (Or.inr (by simp))
  | notANumber =>
      have hall : notANumber.text.toList.all Char.isAlpha := by decide
      exact Or.inr (Or.inl (List.all_eq_true.mp hall c h))

/-- No text is one of an integer. -/
theorem exists_mem_text (x : Binary64) : ∃ c ∈ x.text.toList, c.isDigit = false ∧ c ≠ '-' := by
  cases x with
  | finite n e f =>
      obtain ⟨c, hc, hmark⟩ := (unsignedText_chars e f).2.1
      refine ⟨c, ?_, by rcases hmark with rfl | rfl <;> decide⟩
      rw [text_finite]
      cases n with
      | false => exact hc
      | true => exact List.mem_cons_of_mem _ hc
  | infinite n => cases n <;> exact ⟨'I', by decide, by decide⟩
  | notANumber => exact ⟨'N', by decide, by decide⟩

end CommandShell.Binary64
