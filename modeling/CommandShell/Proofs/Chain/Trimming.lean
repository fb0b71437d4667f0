import CommandShell.Proofs.Chain.Scanning

/-!
# Words of lines and words of their stages

A line that no bar divides has one stage, which is the line without the blanks at its
ends. Dividing lines and dividing stages go by the same quotes (`quote_behind`), so this is
the line in which every bar stands in quotes or behind a backslash (`pieces_eq_iff`). The
words of the stage are those of the line up to its last blanks, and these count for words
where a quote is open or where the first of them is escaped (`words_of_stages`).
-/

namespace CommandShell

/-! ## Quotes -/

namespace Quote

/-- Which quote is open behind a text. A character behind a backslash opens and closes
none. -/
def behind (q : Quote) : List Char → Quote
  | [] => q
  | ['\\'] => q
  | '\\' :: _ :: r => q.behind r
  | c :: r => (q.after c).behind r

theorem behind_cons {c : Char} (h : c ≠ '\\') (q : Quote) (r : List Char) :
    q.behind (c :: r) = (q.after c).behind r := by
  rw [behind]
  · rintro rfl
    exact absurd rfl h
  · rintro d r' rfl
    exact absurd rfl h

theorem after_of_not_isEscapable {c : Char} (h : Word.isEscapable c = false) (q : Quote) :
    q.after c = q := by
  simp only [Word.isEscapable, Bool.or_eq_false_iff, beq_eq_false_iff_ne] at h
  obtain ⟨⟨⟨-, hdouble⟩, hsingle⟩, -⟩ := h
  cases q <;> simp [after, hdouble, hsingle]

end Quote

namespace Word

theorem dangles_cons {c : Char} (h : c ≠ '\\') (r : List Char) :
    dangles (c :: r) = dangles r := by
  rw [dangles]
  · rintro rfl
    exact absurd rfl h
  · rintro d r' rfl
    exact absurd rfl h

/-- Whatever stands behind a backslash is no backslash that could be the last one. -/
theorem dangles_pair (c : Char) (r : List Char) : dangles ('\\' :: c :: r) = dangles r := by
  rw [dangles]
  split
  · rfl
  · rename_i hc
    refine dangles_cons ?_ r
    rintro rfl
    exact hc rfl

namespace Reading

theorem quote_step (g : Reading) (c : Char) : (g.step c).2.quote = g.quote.after c := by
  unfold step
  split
  · rfl
  · rename_i hturn
    have hsame : g.quote.after c = g.quote := by simpa [Quote.turnsAt] using hturn
    rw [hsame]
    split
    · rename_i hblank
      have hout : g.quote = .outside := by simpa using (Bool.and_eq_true_iff.mp hblank).2
      split
      · rfl
      · exact hout.symm
    · rfl

/-- **The two scanners go by the same quotes.** -/
theorem quote_read (g : Reading) (cs : List Char) : (g.read cs).2.quote = g.quote.behind cs := by
  fun_induction read g cs with
  | case1 => rfl
  | case2 => rfl
  | case3 g c r hc ih => exact ih
  | case4 g c r hc ih =>
      have hnot := Bool.eq_false_iff.mpr hc
      have hne : c ≠ '\\' := by
        rintro rfl
        cases hnot
      rw [ih, Quote.behind_cons hne, Quote.after_of_not_isEscapable hnot, Quote.behind]
      rfl
  | case5 g c r hlone hpair ih =>
      dsimp only
      rw [ih, quote_step, Quote.behind_cons (ne_backslash hlone hpair)]

end Reading

theorem quote_behind (cs : List Char) : (behind cs).quote = Quote.behind .outside cs :=
  Reading.quote_read {} cs

end Word

/-! ## Lines without separators -/

namespace Stage

theorem extend_eq_singleton_iff {cs p : List Char} {ps : List (List Char)} (h : ps ≠ []) :
    extend cs ps = [cs ++ p] ↔ ps = [p] := by
  obtain ⟨p', ps', rfl⟩ := List.exists_cons_of_ne_nil h
  simp [extend]

/-- A line is one piece when every bar stands in quotes or behind a backslash. -/
theorem pieces_eq_iff (q : Quote) (cs : List Char) :
    pieces q cs = [cs] ↔
      ∀ u v, cs = u ++ '|' :: v → q.behind u ≠ .outside ∨ Word.dangles u = true := by
  fun_induction pieces q cs with
  | case1 => simp
  | case2 q =>
      refine iff_of_true rfl fun u v h => ?_
      cases u with
      | nil => cases h
      | cons d u => simp at h
  | case3 q c r ih =>
      refine (extend_eq_singleton_iff (pieces_ne_nil q r)).trans (ih.trans ?_)
      constructor
      · intro h u v heq
        match u with
        | [] => cases heq
        | [d] =>
            obtain ⟨rfl, -⟩ := List.cons.inj heq
            exact Or.inr rfl
        | d :: e :: u =>
            obtain ⟨rfl, htail⟩ := List.cons.inj heq
            obtain ⟨rfl, hrest⟩ := List.cons.inj htail
            rw [Word.dangles_pair]
            exact h u v hrest
      · rintro h u v rfl
        have hpair := h ('\\' :: c :: u) v rfl
        rwa [Word.dangles_pair] at hpair
  | case4 q c r hlone hpair hbar =>
      obtain ⟨rfl, rfl⟩ := hbar
      refine iff_of_false (fun h => ?_) (fun h => ?_)
      · cases h
      · rcases h [] r rfl with h | h
        · exact h rfl
        · cases h
  | case5 q c r hlone hpair hbar ih =>
      have hc := Word.ne_backslash hlone hpair
      refine (extend_eq_singleton_iff (pieces_ne_nil _ r)).trans (ih.trans ?_)
      constructor
      · intro h u v heq
        cases u with
        | nil =>
            obtain ⟨rfl, -⟩ := List.cons.inj heq
            exact Or.inl fun hq => hbar ⟨rfl, hq⟩
        | cons d u =>
            obtain ⟨rfl, hrest⟩ := List.cons.inj heq
            rw [Quote.behind_cons hc, Word.dangles_cons hc]
            exact h u v hrest
      · rintro h u v rfl
        have hmore := h (c :: u) v rfl
        rwa [Quote.behind_cons hc, Word.dangles_cons hc] at hmore

end Stage

/-! ## Blanks at the ends -/

namespace Text

theorem ne_of_isBlank {c : Char} (h : isBlank c = true) : c ≠ '\\' ∧ c ≠ '\x22' ∧ c ≠ '\x27' := by
  refine ⟨?_, ?_, ?_⟩ <;>
    · rintro rfl
      cases h

/-- What is trimmed off the end are blanks. -/
theorem exists_eq_trimEnd_append (cs : List Char) :
    ∃ bs, cs = trimEnd cs ++ bs ∧ ∀ b ∈ bs, isBlank b = true := by
  induction cs with
  | nil => exact ⟨[], rfl, by simp⟩
  | cons c r ih =>
      obtain ⟨bs, hr, hbs⟩ := ih
      rw [trimEnd]
      split
      · rename_i hnil
        rw [hnil, List.nil_append] at hr
        split
        · rename_i hc
          exact ⟨c :: r, rfl, List.forall_mem_cons.mpr ⟨hc, hr ▸ hbs⟩⟩
        · exact ⟨bs, by rw [hr]; rfl, hbs⟩
      · rename_i d s hcons
        refine ⟨bs, ?_, hbs⟩
        rw [hcons] at hr
        rw [List.cons_append, ← hr]

end Text

namespace Word

namespace Reading

theorem turnsAt_of_isBlank {c : Char} (h : Text.isBlank c = true) (q : Quote) :
    q.turnsAt c = false := by
  obtain ⟨-, hdouble, hsingle⟩ := Text.ne_of_isBlank h
  cases q <;> simp [Quote.turnsAt, Quote.after, hdouble, hsingle]

/-- Blanks belong to the current word where a quote is open, and nowhere else. -/
theorem words_blanks {bs : List Char} (h : ∀ b ∈ bs, Text.isBlank b = true) (g : Reading) :
    g.words bs = close (g.current ++ if g.quote = .outside then [] else bs) g.quoted := by
  induction bs generalizing g with
  | nil => simp [words_nil]
  | cons b bs ih =>
      obtain ⟨hb, hbs⟩ := List.forall_mem_cons.mp h
      have hstep : g.step b = if g.quote = .outside then
          if g.current.isEmpty then ([], g) else ([⟨g.current, g.quoted⟩], {})
          else ([], g.join b) := by
        simp [step, turnsAt_of_isBlank hb, hb]
      rw [words_cons (Text.ne_of_isBlank hb).1, hstep]
      split
      · rename_i hout
        cases hcurrent : g.current with
        | nil => simp [ih hbs, hout, hcurrent]
        | cons c cs => simp [ih hbs, close]
      · rename_i hopen
        rw [ih hbs]
        simp [join, hopen]

end Reading

theorem isEscapable_of_isBlank {c : Char} (h : Text.isBlank c = true) (hspace : c ≠ ' ') :
    isEscapable c = false := by
  obtain ⟨hslash, hdouble, hsingle⟩ := Text.ne_of_isBlank h
  simp [isEscapable, hslash, hdouble, hsingle, hspace]

theorem close_inj {a b : List Char} {quoted : Bool} : close a quoted = close b quoted ↔ a = b := by
  cases a <;> cases b <;> simp [close]

/-- Blanks in front of a text are not part of its words. -/
theorem ofText_cons_of_isBlank {c : Char} (h : Text.isBlank c = true) (cs : List Char) :
    ofText (c :: cs) = ofText cs := by
  have hstep : Reading.step {} c = ([], {}) := by
    simp [Reading.step, Reading.turnsAt_of_isBlank h, h]
  show Reading.words {} (c :: cs) = Reading.words {} cs
  rw [Reading.words_cons (Text.ne_of_isBlank h).1, hstep]
  rfl

theorem ofText_trim (cs : List Char) : ofText (Text.trim cs) = ofText (Text.trimEnd cs) := by
  induction cs with
  | nil => rfl
  | cons c r ih =>
      by_cases hc : Text.isBlank c = true
      · have htrim : Text.trim (c :: r) = Text.trim r := by
          rw [Text.trim, List.dropWhile_cons_of_pos hc, Text.trim]
        rw [htrim, ih, Text.trimEnd]
        split
        · rename_i hnil
          rw [hnil, if_pos hc]
        · rename_i d s hcons
          rw [hcons, ofText_cons_of_isBlank hc]
      · rw [Text.trim, List.dropWhile_cons_of_neg hc]

/-- A text that dangles ends with the backslash, and what stands before it does not. -/
theorem eq_concat_of_dangles {cs : List Char} (h : dangles cs = true) :
    ∃ u, cs = u ++ ['\\'] ∧ dangles u = false := by
  fun_induction Quote.behind .outside cs with
  | case1 => cases h
  | case2 => exact ⟨[], rfl, rfl⟩
  | case3 q c r ih =>
      rw [dangles_pair] at h
      obtain ⟨u, rfl, hu⟩ := ih h
      exact ⟨'\\' :: c :: u, rfl, by rwa [dangles_pair]⟩
  | case4 q c r hlone hpair ih =>
      have hc := ne_backslash hlone hpair
      rw [dangles_cons hc] at h
      obtain ⟨u, rfl, hu⟩ := ih h
      exact ⟨c :: u, rfl, by rwa [dangles_cons hc]⟩

/-- An escaped space at the end is a character of the last word. Without it, the backslash
is one. -/
theorem ofText_concat_space_ne {cs bs : List Char} (h : dangles cs = true)
    (hbs : ∀ b ∈ bs, Text.isBlank b = true) : ofText cs ≠ ofText (cs ++ ' ' :: bs) := by
  obtain ⟨u, rfl, hu⟩ := eq_concat_of_dangles h
  have hrest (r : List Char) : ofText (u ++ r) = finished u ++ (behind u).words r :=
    ofText_append (by simp [hu])
  rw [List.append_assoc, hrest, hrest, List.singleton_append, Reading.words_backslash,
    Reading.words_escaped rfl, Reading.words_nil, Reading.words_blanks hbs]
  intro heq
  have hlast := close_inj.mp (List.append_cancel_left heq)
  simp [Reading.join] at hlast

/-- **The words of a line and of its stages.** A line is one stage when every bar stands in
quotes or behind a backslash. Its stage has the words of the line up to the last blanks.
These are the words of the line unless a quote is open there, or the first of the blanks is
an escaped space. -/
theorem words_of_stages {cs : List Char}
    (h : ∀ u v, cs = u ++ '|' :: v → (behind u).quote ≠ .outside ∨ dangles u = true) :
    (Stage.ofText cs).flatMap ofText = ofText (Text.trimEnd cs) ∧
      ((Stage.ofText cs).flatMap ofText = ofText cs ↔
        ∀ c bs, cs = Text.trimEnd cs ++ c :: bs →
          (behind (Text.trimEnd cs)).quote = .outside ∧
            (dangles (Text.trimEnd cs) = true → c ≠ ' ')) := by
  have hpieces : Stage.pieces .outside cs = [cs] := by
    rw [Stage.pieces_eq_iff]
    simpa only [quote_behind] using h
  have hwords : (Stage.ofText cs).flatMap ofText = ofText (Text.trimEnd cs) := by
    rw [← ofText_trim, Stage.ofText, hpieces, List.map_singleton]
    by_cases hempty : Text.trim cs = []
    · simp [hempty]
      rfl
    · simp [hempty]
  refine ⟨hwords, ?_⟩
  rw [hwords]
  obtain ⟨bs, hcs, hbs⟩ := Text.exists_eq_trimEnd_append cs
  generalize Text.trimEnd cs = t at hcs ⊢
  subst hcs
  cases bs with
  | nil => simp
  | cons c bs =>
      obtain ⟨hc, hblanks⟩ := List.forall_mem_cons.mp hbs
      have honly : (∀ c' bs', t ++ c :: bs = t ++ c' :: bs' → (behind t).quote = .outside ∧
          (dangles t = true → c' ≠ ' ')) ↔
          (behind t).quote = .outside ∧ (dangles t = true → c ≠ ' ') := by
        refine ⟨fun hall => hall c bs rfl, fun hcond c' bs' heq => ?_⟩
        obtain ⟨rfl, -⟩ := List.cons.inj (List.append_cancel_left heq)
        exact hcond
      rw [honly]
      by_cases hspace : dangles t = true ∧ c = ' '
      · obtain ⟨hd, rfl⟩ := hspace
        exact iff_of_false (ofText_concat_space_ne hd hblanks) fun hcond => hcond.2 hd rfl
      · have hc' : dangles t = true → c ≠ ' ' := fun hd heq => hspace ⟨hd, heq⟩
        have hrest : dangles t = true → ∀ d ∈ (c :: bs).head?, isEscapable d = false := by
          rintro hd d ⟨rfl⟩
          exact isEscapable_of_isBlank hc (hc' hd)
        rw [ofText_append hrest, ofText_eq t, Reading.words_blanks hbs,
          List.append_cancel_left_eq, close_inj]
        split
        · rename_i hout
          simpa [hout] using hc'
        · rename_i hopen
          simp [hopen]

/-- A bar in quotes, and an escaped space at the end, which the stage does not have any
more. -/
theorem words_of_escaped_space :
    (∀ u v, "print \x22a|b\x22 c\\ ".toList = u ++ '|' :: v →
      (behind u).quote ≠ .outside ∨ dangles u = true) ∧
    (Stage.ofText "print \x22a|b\x22 c\\ ".toList).flatMap ofText =
      [⟨"print".toList, false⟩, ⟨"a|b".toList, true⟩, ⟨"c\\".toList, false⟩] ∧
    ofText "print \x22a|b\x22 c\\ ".toList =
      [⟨"print".toList, false⟩, ⟨"a|b".toList, true⟩, ⟨"c ".toList, false⟩] := by
  have hpieces : Stage.pieces .outside "print \x22a|b\x22 c\\ ".toList =
      ["print \x22a|b\x22 c\\ ".toList] := by decide
  rw [Stage.pieces_eq_iff] at hpieces
  simp only [← quote_behind] at hpieces
  exact ⟨hpieces, (words_of_stages hpieces).1, by decide⟩

end Word

end CommandShell
