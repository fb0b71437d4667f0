import CommandShell.Proofs.Chain.Trimming

/-!
# Stages are in normal form

The stages of a line are trimmed, none is empty, and each is the only stage of itself. With
bars between them they are a line with the same stages again (`ofText_join_of_normal`), and
no quote is open behind a stage unless it is the last (`stages_in_normal_form`). To trim a
piece may leave a backslash at its end, whose character was a blank. The quotes do not
change by that, and a space in front of the next bar takes the place of the blank.
-/

namespace CommandShell

/-! ## Trimming twice -/

namespace Text

theorem trimEnd_cons_of_not_isBlank {c : Char} (h : isBlank c = false) (r : List Char) :
    trimEnd (c :: r) = c :: trimEnd r := by
  rw [trimEnd]
  split
  · rename_i hnil
    rw [hnil, if_neg (Bool.eq_false_iff.mp h)]
  · rename_i d s hcons
    rw [hcons]

theorem trimEnd_trimEnd (cs : List Char) : trimEnd (trimEnd cs) = trimEnd cs := by
  induction cs with
  | nil => rfl
  | cons c r ih =>
      have hc : trimEnd (c :: r) = [] ∨ trimEnd (c :: r) = c :: trimEnd r := by
        rw [trimEnd]
        split
        · rename_i hnil
          rw [hnil]
          split
          · exact Or.inl rfl
          · exact Or.inr rfl
        · rename_i d s hcons
          exact Or.inr (by rw [hcons])
      rcases hc with hnil | hcons
      · rw [hnil]
        rfl
      · rw [hcons]
        rw [trimEnd] at hcons
        rw [trimEnd, ih]
        exact hcons

theorem trim_trim (cs : List Char) : trim (trim cs) = trim cs := by
  have hfront : (trim cs).dropWhile isBlank = trim cs := by
    unfold trim
    cases hrest : cs.dropWhile isBlank with
    | nil => rfl
    | cons c r =>
        have hc : isBlank c = false := by
          have hhead := List.head?_dropWhile_not isBlank cs
          rw [hrest] at hhead
          simpa using hhead
        rw [trimEnd_cons_of_not_isBlank hc, List.dropWhile_cons_of_neg (by simp [hc])]
  rw [trim, hfront, trim, trimEnd_trimEnd]

/-- What is trimmed off the two ends are blanks. -/
theorem exists_eq_append_trim_append (cs : List Char) :
    ∃ front behind, cs = front ++ (trim cs ++ behind) ∧ (∀ b ∈ front, isBlank b = true) ∧
      ∀ b ∈ behind, isBlank b = true := by
  obtain ⟨behind, hrest, hbehind⟩ := exists_eq_trimEnd_append (cs.dropWhile isBlank)
  refine ⟨cs.takeWhile isBlank, behind, ?_, List.all_eq_true.mp List.all_takeWhile, hbehind⟩
  rw [trim, ← hrest, List.takeWhile_append_dropWhile]

end Text

/-! ## Blanks and quotes -/

namespace Quote

theorem after_of_isBlank {c : Char} (h : Text.isBlank c = true) (q : Quote) : q.after c = q := by
  obtain ⟨-, hdouble, hsingle⟩ := Text.ne_of_isBlank h
  cases q <;> simp [after, hdouble, hsingle]

theorem behind_cons_of_isBlank {c : Char} (h : Text.isBlank c = true) (q : Quote)
    (r : List Char) : q.behind (c :: r) = q.behind r := by
  rw [behind_cons (Text.ne_of_isBlank h).1, after_of_isBlank h]

theorem behind_blanks_append {bs : List Char} (h : ∀ b ∈ bs, Text.isBlank b = true) (q : Quote)
    (t : List Char) : q.behind (bs ++ t) = q.behind t := by
  induction bs with
  | nil => rfl
  | cons b bs ih =>
      obtain ⟨hb, hbs⟩ := List.forall_mem_cons.mp h
      rw [List.cons_append, behind_cons_of_isBlank hb, ih hbs]

theorem behind_blanks {bs : List Char} (h : ∀ b ∈ bs, Text.isBlank b = true) (q : Quote) :
    q.behind bs = q := by
  have hbs := behind_blanks_append h q []
  rwa [List.append_nil] at hbs

/-- Blanks behind a text turn no quotes, escaped or not. -/
theorem behind_append_blanks {bs : List Char} (h : ∀ b ∈ bs, Text.isBlank b = true) (q : Quote)
    (t : List Char) : q.behind (t ++ bs) = q.behind t := by
  fun_induction behind q t with
  | case1 q => exact behind_blanks h q
  | case2 q =>
      cases bs with
      | nil => rfl
      | cons b bs => exact behind_blanks (List.forall_mem_cons.mp h).2 q
  | case3 q c r ih => exact ih
  | case4 q c r hlone hpair ih =>
      rw [List.cons_append, behind_cons (Word.ne_backslash hlone hpair), ih]

end Quote

namespace Word

theorem dangles_concat {c : Char} (h : c ≠ '\\') (t : List Char) : dangles (t ++ [c]) = false := by
  fun_induction Quote.behind .outside t with
  | case1 => exact dangles_cons h []
  | case2 => exact dangles_pair c []
  | case3 q d r ih => exact (dangles_pair d _).trans ih
  | case4 q d r hlone hpair ih => exact (dangles_cons (ne_backslash hlone hpair) _).trans ih

end Word

namespace Stage

/-! ## Texts in one piece -/

theorem undivided_of_append {q : Quote} {t rest : List Char}
    (h : pieces q (t ++ rest) = [t ++ rest]) : pieces q t = [t] := by
  rw [pieces_eq_iff] at h ⊢
  rintro u v rfl
  exact h u (v ++ rest) (by simp)

theorem undivided_of_blanks_append {q : Quote} {bs t : List Char}
    (hbs : ∀ b ∈ bs, Text.isBlank b = true) (h : pieces q (bs ++ t) = [bs ++ t]) :
    pieces q t = [t] := by
  induction bs with
  | nil => exact h
  | cons b bs ih =>
      obtain ⟨hb, hblanks⟩ := List.forall_mem_cons.mp hbs
      refine ih hblanks ?_
      rw [pieces_eq_iff] at h ⊢
      intro u v heq
      have hmore := h (b :: u) v (congrArg (b :: ·) heq)
      rwa [Quote.behind_cons_of_isBlank hb, Word.dangles_cons (Text.ne_of_isBlank hb).1] at hmore

theorem undivided_concat {q : Quote} {t : List Char} (h : pieces q t = [t]) {c : Char}
    (hc : c ≠ '|') : pieces q (t ++ [c]) = [t ++ [c]] := by
  rw [pieces_eq_iff] at h ⊢
  intro u v heq
  rcases List.eq_nil_or_concat v with rfl | ⟨w, d, rfl⟩
  · exact absurd (List.append_inj_right' heq rfl) (by simpa using hc)
  · rw [List.concat_eq_append, ← List.cons_append, ← List.append_assoc] at heq
    exact h u w (List.append_inj_left' heq rfl)

/-- A bar ends a text in one piece where no quote is open and nothing is escaped. -/
theorem pieces_bar {q : Quote} {t : List Char} (h : pieces q t = [t])
    (hquote : q.behind t = .outside) (hends : Word.dangles t = false) (rest : List Char) :
    pieces q (t ++ '|' :: rest) = t :: pieces .outside rest := by
  fun_induction Quote.behind q t with
  | case1 q =>
      obtain rfl : q = .outside := hquote
      exact pieces_cons (by decide) .outside rest
  | case2 q => cases hends
  | case3 q c r ih =>
      rw [pieces_backslash] at h
      rw [Word.dangles_pair] at hends
      have hr := (extend_eq_singleton_iff (pieces_ne_nil q r)).mp h
      rw [List.cons_append, List.cons_append, pieces_backslash, ih hr hquote hends]
      rfl
  | case4 q c r hlone hpair ih =>
      have hc := Word.ne_backslash hlone hpair
      rw [pieces_cons hc] at h
      rw [Word.dangles_cons hc] at hends
      split at h
      · cases h
      · rename_i hbar
        have hr := (extend_eq_singleton_iff (pieces_ne_nil _ r)).mp h
        rw [List.cons_append, pieces_cons hc, if_neg hbar, ih hr hquote hends]
        rfl

/-- A line is one piece, or its first piece ends at a bar, with every quote closed. -/
theorem pieces_cases (q : Quote) (cs : List Char) :
    pieces q cs = [cs] ∨ ∃ t rest, cs = t ++ '|' :: rest ∧
      pieces q cs = t :: pieces .outside rest ∧ pieces q t = [t] ∧ q.behind t = .outside := by
  fun_induction pieces q cs with
  | case1 => exact Or.inl rfl
  | case2 => exact Or.inl rfl
  | case3 q c r ih =>
      rcases ih with hr | ⟨t, rest, rfl, hpieces, ht, hquote⟩
      · exact Or.inl (by rw [hr]; rfl)
      · refine Or.inr ⟨'\\' :: c :: t, rest, rfl, by rw [hpieces]; rfl, ?_, hquote⟩
        rw [pieces_backslash, ht]
        rfl
  | case4 q c r hlone hpair hbar =>
      obtain ⟨rfl, rfl⟩ := hbar
      exact Or.inr ⟨[], r, rfl, rfl, rfl, rfl⟩
  | case5 q c r hlone hpair hbar ih =>
      have hc := Word.ne_backslash hlone hpair
      rcases ih with hr | ⟨t, rest, rfl, hpieces, ht, hquote⟩
      · exact Or.inl (by rw [hr]; rfl)
      · refine Or.inr ⟨c :: t, rest, rfl, by rw [hpieces]; rfl, ?_, ?_⟩
        · rw [pieces_cons hc, if_neg hbar, ht]
          rfl
        · rwa [Quote.behind_cons hc]

/-! ## Stages -/

/-- A text that is trimmed, not empty, and in one piece. -/
structure IsStage (t : List Char) : Prop where
  ne_nil : t ≠ []
  trimmed : Text.trim t = t
  undivided : pieces .outside t = [t]

/-- Stages with every quote closed behind each but the last. -/
inductive Normal : List (List Char) → Prop where
  | nil : Normal []
  | last {t : List Char} (h : IsStage t) : Normal [t]
  | cons {t : List Char} {ts : List (List Char)} (h : IsStage t)
      (hquote : Quote.behind .outside t = .outside) (hts : Normal ts) : Normal (t :: ts)

theorem isStage_trim {p : List Char} (h : pieces .outside p = [p]) (hne : Text.trim p ≠ []) :
    IsStage (Text.trim p) := by
  refine ⟨hne, Text.trim_trim p, ?_⟩
  obtain ⟨front, behind, heq, hfront, -⟩ := Text.exists_eq_append_trim_append p
  rw [heq] at h
  exact undivided_of_append (undivided_of_blanks_append hfront h)

theorem behind_trim (p : List Char) :
    Quote.behind .outside (Text.trim p) = Quote.behind .outside p := by
  obtain ⟨front, behind, heq, hfront, hbehind⟩ := Text.exists_eq_append_trim_append p
  conv_rhs =>
    rw [heq, Quote.behind_blanks_append hfront, Quote.behind_append_blanks hbehind]

theorem normal_ofText (cs : List Char) : Normal (ofText cs) := by
  induction hn : cs.length using Nat.strongRecOn generalizing cs with
  | _ n ih =>
      rcases pieces_cases .outside cs with hone | ⟨p, rest, rfl, hpieces, hp, hquote⟩
      · rw [ofText, hone, List.map_singleton]
        by_cases hne : Text.trim cs = []
        · simpa [hne] using Normal.nil
        · simpa [hne] using Normal.last (isStage_trim hone hne)
      · have hrest : Normal (ofText rest) := ih rest.length (by simp at hn; omega) rest rfl
        rw [ofText, hpieces, List.map_cons, List.filter_cons]
        by_cases hne : Text.trim p = []
        · rw [if_neg (by simpa using hne)]
          exact hrest
        · rw [if_pos (by simpa using hne)]
          exact .cons (isStage_trim hp hne) ((behind_trim p).trans hquote) hrest

theorem IsStage.ofText_eq {t : List Char} (h : IsStage t) : ofText t = [t] := by
  rw [ofText, h.undivided, List.map_singleton, h.trimmed]
  simp [h.ne_nil]

theorem trim_concat {c : Char} (hc : Text.isBlank c = true) (t : List Char) :
    Text.trim (t ++ [c]) = Text.trim t := by
  rw [Text.trim, Text.trim, List.dropWhile_append]
  split
  · rename_i hempty
    rw [List.isEmpty_iff.mp hempty, List.dropWhile_cons_of_pos hc]
    rfl
  · exact trimEnd_concat _ hc

/-- **Stages in normal form are those of the line in which bars stand between them.** -/
theorem ofText_join_of_normal {ts : List (List Char)} (h : Normal ts) : ofText (join ts) = ts := by
  induction h with
  | nil => rfl
  | last h => exact h.ofText_eq
  | @cons t ts h hquote hts ih =>
      cases ts with
      | nil => exact h.ofText_eq
      | cons u us =>
          -- a backslash at the end of the stage escapes the space and not the bar
          have hends : pieces .outside ((t ++ [' ']) ++ '|' :: ' ' :: join (u :: us)) =
              (t ++ [' ']) :: pieces .outside (' ' :: join (u :: us)) :=
            pieces_bar (undivided_concat h.undivided (by decide))
              ((Quote.behind_append_blanks (List.all_eq_true.mp (by decide)) _ t).trans hquote)
              (Word.dangles_concat (by decide) t) _
          have hspace : pieces .outside (' ' :: join (u :: us)) =
              extend [' '] (pieces .outside (join (u :: us))) :=
            pieces_cons (by decide) .outside _
          have hjoin : join (t :: u :: us) = (t ++ [' ']) ++ '|' :: ' ' :: join (u :: us) := by
            simp [join]
          have hkept : decide (t ≠ []) = true := by simpa using h.ne_nil
          rw [hjoin, ofText, hends, hspace, List.map_cons, trim_concat (by decide), h.trimmed,
            map_trim_extend_space (pieces_ne_nil _ _), List.filter_cons, if_pos hkept]
          exact congrArg (t :: ·) ih

theorem Normal.isStage {ts : List (List Char)} (h : Normal ts) : ∀ t ∈ ts, IsStage t := by
  induction h with
  | nil => exact fun t ht => nomatch ht
  | last h => exact List.forall_mem_singleton.mpr h
  | cons h hquote hts ih => exact List.forall_mem_cons.mpr ⟨h, ih⟩

theorem Normal.quote_dropLast {ts : List (List Char)} (h : Normal ts) :
    ∀ t ∈ ts.dropLast, Quote.behind .outside t = .outside := by
  induction h with
  | nil => exact fun t ht => nomatch ht
  | last h => exact fun t ht => nomatch ht
  | @cons t ts h hquote hts ih =>
      cases ts with
      | nil => exact fun t ht => nomatch ht
      | cons u us => exact List.forall_mem_cons.mpr ⟨hquote, ih⟩

/-- **The stages of every line are in normal form**, and the scanner of words has no quote
open behind any of them but the last. -/
theorem stages_in_normal_form (cs : List Char) :
    (∀ t ∈ ofText cs, t ≠ [] ∧ Text.trim t = t ∧ ofText t = [t]) ∧
      ofText (join (ofText cs)) = ofText cs ∧
      ∀ t ∈ (ofText cs).dropLast, (Word.behind t).quote = .outside := by
  have hnormal := normal_ofText cs
  refine ⟨fun t ht => ?_, ofText_join_of_normal hnormal, fun t ht => ?_⟩
  · have hstage := hnormal.isStage t ht
    exact ⟨hstage.ne_nil, hstage.trimmed, hstage.ofText_eq⟩
  · rw [Word.quote_behind]
    exact hnormal.quote_dropLast t ht

/-- The first stage loses a blank behind its backslash, and the last has a quote that is never
closed. -/
theorem stages_with_loose_ends :
    ofText "a\\\t| \x22b|\x22 || c\\|\x27| ".toList =
        ["a\\".toList, "\x22b|\x22".toList, "c\\|\x27|".toList] ∧
      ofText "a\\".toList = ["a\\".toList] ∧ (Word.behind "a\\".toList).quote = .outside ∧
      (Word.behind "c\\|\x27|".toList).quote = .single := by
  obtain ⟨hstage, -, hquote⟩ := stages_in_normal_form "a\\\t| \x22b|\x22 || c\\|\x27| ".toList
  exact ⟨by decide, (hstage _ (by decide)).2.2, hquote _ (by decide), by decide⟩

end Stage

end CommandShell
