import CommandShell.Proofs.Chain.RoundTrip

/-!
# Words and the blanks between them

What the scanner of words remembers behind a text is its reading of that text, and the
words of a longer text are those that the reading has closed and those that are scanned
from it on (`Reading.words_append`). So a blank between two words divides the words as it
divides the text, but for one thing: the mark of a quote that opened before the blank is
left behind when no character has followed it, and then the next word counts as quoted
(`ofText_append_space`).
-/

namespace CommandShell.Word

/-! ## Readings -/

/-- What the scanner remembers between two characters. -/
structure Reading where
  /-- the quote that is open -/
  quote : Quote := .outside
  /-- the characters of the current word -/
  current : List Char := []
  /-- a quote opened in front of them -/
  quoted : Bool := false
deriving DecidableEq, Repr

/-- The text ends right behind a backslash that makes nothing ordinary yet. -/
def dangles : List Char → Bool
  | [] => false
  | ['\\'] => true
  | '\\' :: c :: r => if isEscapable c then dangles r else dangles (c :: r)
  | _ :: r => dangles r

/-- The scanner has no rule for a backslash but its first ones. -/
theorem ne_backslash {c : Char} {r : List Char} (hlone : c = '\\' → r = [] → False)
    (hpair : ∀ (d : Char) (r' : List Char), c = '\\' → r = d :: r' → False) : c ≠ '\\' := by
  rintro rfl
  cases r with
  | nil => exact hlone rfl rfl
  | cons d r' => exact hpair d r' rfl rfl

namespace Reading

/-- The words that are scanned from a reading on. -/
def words (g : Reading) (cs : List Char) : List Word := scan g.quote g.current g.quoted cs

/-- A character joins the current word. -/
def join (g : Reading) (c : Char) : Reading := { g with current := g.current ++ [c] }

/-- A character that is no backslash opens or closes the quotes, ends the current word, or
joins it. The word that it ends comes first. -/
def step (g : Reading) (c : Char) : List Word × Reading :=
  if g.quote.turnsAt c then
    ([], { g with
      quote := g.quote.after c
      quoted := g.quoted || (g.quote == .outside && g.current.isEmpty) })
  else if Text.isBlank c && g.quote == .outside then
    if g.current.isEmpty then ([], g) else ([⟨g.current, g.quoted⟩], {})
  else ([], g.join c)

/-- The words that end within a text, and the reading behind it. -/
def read (g : Reading) : List Char → List Word × Reading
  | [] => ([], g)
  | ['\\'] => ([], g.join '\\')
  | '\\' :: c :: r =>
    if isEscapable c then (g.join c).read r else (g.join '\\').read (c :: r)
  | c :: r => ((g.step c).1 ++ ((g.step c).2.read r).1, ((g.step c).2.read r).2)

/-- A quote has opened, and no character of a word has come since. -/
def isHollow (g : Reading) : Bool := g.current.isEmpty && g.quoted

end Reading

/-- The words that end within a text. -/
def finished (cs : List Char) : List Word := (Reading.read {} cs).1

/-- The reading behind a text. -/
def behind (cs : List Char) : Reading := (Reading.read {} cs).2

namespace Reading

theorem words_nil (g : Reading) : g.words [] = close g.current g.quoted := by
  unfold words
  rw [scan]

theorem words_cons {c : Char} (h : c ≠ '\\') (g : Reading) (r : List Char) :
    g.words (c :: r) = (g.step c).1 ++ (g.step c).2.words r := by
  unfold words step
  rw [scan_cons h]
  split
  · rfl
  · split
    · rename_i hblank
      have hout : g.quote = .outside := by simpa using (Bool.and_eq_true_iff.mp hblank).2
      split
      · rename_i hempty
        rw [List.isEmpty_iff.mp hempty]
        rfl
      · rw [hout]
        rfl
    · rfl

theorem words_escaped {c : Char} (h : isEscapable c = true) (g : Reading) (r : List Char) :
    g.words ('\\' :: c :: r) = (g.join c).words r :=
  scan_backslash h g.quote g.current g.quoted r

theorem words_unescaped {c : Char} (h : isEscapable c = false) (g : Reading) (r : List Char) :
    g.words ('\\' :: c :: r) = (g.join '\\').words (c :: r) := by
  unfold words
  rw [scan, if_neg (by simp [h])]
  rfl

theorem words_backslash (g : Reading) : g.words ['\\'] = (g.join '\\').words [] := by
  unfold words
  rw [scan, scan]
  rfl

/-- **The words of a text that goes on**, unless an escape in its first part reaches into
the second. -/
theorem words_append {a b : List Char}
    (h : dangles a = true → ∀ c ∈ b.head?, isEscapable c = false) (g : Reading) :
    g.words (a ++ b) = (g.read a).1 ++ (g.read a).2.words b := by
  fun_induction dangles a generalizing g with
  | case1 => rfl
  | case2 =>
      cases b with
      | nil => exact words_backslash g
      | cons c r => exact words_unescaped (h rfl c rfl) g r
  | case3 c r hc ih =>
      rw [read, if_pos hc, ← ih h]
      exact words_escaped hc g _
  | case4 c r hc ih =>
      rw [read, if_neg hc, ← ih h]
      exact words_unescaped (Bool.eq_false_iff.mpr hc) g _
  | case5 c r hlone hpair ih =>
      rw [read, List.cons_append, words_cons (ne_backslash hlone hpair), ih h, List.append_assoc]
      · exact hlone
      · exact hpair

/-- A blank outside quotes ends the current word. The mark of a quote stays behind if there
is no word. -/
theorem words_space {g : Reading} (h : g.quote = .outside) (b : List Char) :
    g.words (' ' :: b) = close g.current g.quoted ++ words { quoted := g.isHollow } b := by
  obtain ⟨q, current, quoted⟩ := g
  obtain rfl : q = .outside := h
  have hstep : step ⟨.outside, current, quoted⟩ ' ' =
      if current.isEmpty then ([], ⟨.outside, current, quoted⟩) else ([⟨current, quoted⟩], {}) :=
    rfl
  rw [words_cons (by decide), hstep]
  cases current <;> rfl

end Reading

theorem ofText_append {a b : List Char}
    (h : dangles a = true → ∀ c ∈ b.head?, isEscapable c = false) :
    ofText (a ++ b) = finished a ++ (behind a).words b :=
  Reading.words_append h {}

/-- The last word of a text ends with it. -/
theorem ofText_eq (a : List Char) :
    ofText a = finished a ++ close (behind a).current (behind a).quoted := by
  have hall := ofText_append (a := a) (b := []) (by simp)
  rwa [List.append_nil, Reading.words_nil] at hall

/-! ## What a quote leaves behind -/

/-- The first of the words counts as quoted. -/
def markFirst : List Word → List Word
  | [] => []
  | w :: ws => { w with quoted := true } :: ws

theorem markFirst_eq_self_iff {ws : List Word} :
    markFirst ws = ws ↔ ∀ w ∈ ws.head?, w.quoted = true := by
  cases ws with
  | nil => simp [markFirst]
  | cons w ws =>
      obtain ⟨text, quoted⟩ := w
      cases quoted <;> simp [markFirst]

/-- A mark that was left behind is that of the first word. -/
theorem scan_marked (q : Quote) (current : List Char) (quoted : Bool) (cs : List Char) :
    scan q current true cs = markFirst (scan q current quoted cs) := by
  fun_induction scan q current quoted cs with
  | case1 q current quoted =>
      rw [scan]
      cases current <;> rfl
  | case2 q current quoted =>
      rw [scan]
      unfold close
      split <;> rfl
  | case3 q current quoted c r hc ih => rw [scan_backslash hc, ih]
  | case4 q current quoted c r hc ih => rw [scan, if_neg hc, ih]
  | case5 q current quoted c r hlone hpair hturn ih =>
      rw [scan_cons (ne_backslash hlone hpair), if_pos hturn, Bool.true_or, ih]
  | case6 q current quoted c r hlone hpair hturn hblank hempty ih =>
      rw [scan_cons (ne_backslash hlone hpair), if_neg hturn, if_pos hblank, if_pos hempty, ih]
  | case7 q current quoted c r hlone hpair hturn hblank hempty ih =>
      rw [scan_cons (ne_backslash hlone hpair), if_neg hturn, if_pos hblank, if_neg hempty]
      rfl
  | case8 q current quoted c r hlone hpair hturn hblank ih =>
      rw [scan_cons (ne_backslash hlone hpair), if_neg hturn, if_neg hblank, ih]

/-- **What comes before a blank does not count for the words behind it**, but for the mark
of a quote that was left behind. It shows where the first of these words is not quoted
itself. -/
theorem ofText_append_space {a : List Char} (hquote : (behind a).quote = .outside)
    (hends : dangles a = false) (b : List Char) :
    ofText (a ++ ' ' :: b) =
        ofText a ++ (if (behind a).isHollow then markFirst (ofText b) else ofText b) ∧
      (ofText (a ++ ' ' :: b) = ofText a ++ ofText b ↔
        ((behind a).isHollow = true → ∀ w ∈ (ofText b).head?, w.quoted = true)) := by
  have hwhole : ofText (a ++ ' ' :: b) =
      ofText a ++ (if (behind a).isHollow then markFirst (ofText b) else ofText b) := by
    rw [ofText_append (by simp [hends]), Reading.words_space hquote, ← List.append_assoc, ← ofText_eq]
    congr 1
    cases (behind a).isHollow with
    | false => rfl
    | true => exact scan_marked .outside [] false b
  refine ⟨hwhole, ?_⟩
  rw [hwhole, List.append_cancel_left_eq]
  cases (behind a).isHollow with
  | false => simp
  | true =>
      rw [if_pos rfl, markFirst_eq_self_iff]
      exact ⟨fun h _ => h, fun h => h rfl⟩

/-- An empty word in quotes turns the flag behind it into an argument. -/
theorem ofText_empty_quotes :
    (behind "print \x22\x22".toList).quote = .outside ∧ dangles "print \x22\x22".toList = false ∧
      ofText "print \x22\x22 --loud".toList =
        [⟨"print".toList, false⟩, ⟨"--loud".toList, true⟩] ∧
      ofText "print \x22\x22 --loud".toList ≠
        ofText "print \x22\x22".toList ++ ofText "--loud".toList := by
  have hquote : (behind "print \x22\x22".toList).quote = .outside := by decide
  have hends : dangles "print \x22\x22".toList = false := by decide
  obtain ⟨hwords, hlocal⟩ := ofText_append_space hquote hends "--loud".toList
  refine ⟨hquote, hends, hwords, fun h => ?_⟩
  exact absurd (hlocal.mp h (by decide) _ rfl) (by decide)

end CommandShell.Word
