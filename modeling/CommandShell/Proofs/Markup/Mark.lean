import CommandShell.Markup.Mark
import CommandShell.Pattern.Reader
import CommandShell.Proofs.Markup.Reference
import CommandShell.Proofs.Pattern.Span

/-!
# Marking loses nothing

A text in which the matches of a pattern are marked still says which text it was and what
was marked (`highlight_lossless`), and with delimiters in the place of the marks it is that
text with the delimiters around the matches (`render_highlight`). Both hold whatever the
text looks like, since a mark begins with a character that no written text contains and
every reference that is written ends in a semicolon: the symbols of marked pieces are those
of the pieces one by one (`symbols_ofPieces`), and they are decoded one by one
(`decode_delimited_append`).
-/

namespace CommandShell

namespace Pattern

/-- The matches that are not empty. -/
def Tree.hits (t : Tree) (text : List Char) : List Span :=
  (t.spans text).filter (!·.isEmpty)

/-- The part of a text that a span takes up. -/
def Span.part (s : Span) (text : List Char) : List Char := text.extract s.start s.stop

theorem Tree.hits_inOrder (t : Tree) (text : List Char) : InOrder text.length (t.hits text) :=
  (t.spans_inOrder text).filter _

theorem Tree.start_lt_stop_of_mem_hits {t : Tree} {text : List Char} {s : Span}
    (h : s ∈ t.hits text) : s.start < s.stop := by
  have hle := ((t.hits_inOrder text).within s h).1
  have hne : s.start ≠ s.stop := by simpa [Span.isEmpty] using (List.mem_filter.mp h).2
  exact Nat.lt_of_le_of_ne hle hne

end Pattern

namespace Markup

open Pattern (InOrder Span Tree)

/-! ## The symbols of a marked text -/

/-- What a marked text consists of. -/
inductive Symbol where
  | opening
  | closing
  | char (c : Char)
deriving DecidableEq, Repr

/-- The symbols of a marked text. The characters of a mark that has been read are counted
down. -/
def symbolsFrom : Nat → List Char → List Symbol
  | _, [] => []
  | n + 1, _ :: cs => symbolsFrom n cs
  | 0, c :: cs =>
    if openMark.isPrefixOf (c :: cs) then .opening :: symbolsFrom (openMark.length - 1) cs
    else if closeMark.isPrefixOf (c :: cs) then .closing :: symbolsFrom (closeMark.length - 1) cs
    else .char c :: symbolsFrom 0 cs

def symbols (content : List Char) : List Symbol := symbolsFrom 0 content

/-- What is written for a symbol when delimiters take the place of the marks. -/
def Symbol.shown (opening closing : List Char) : Symbol → List Char
  | .opening => opening
  | .closing => closing
  | .char c => [c]

/-- The stretches between each opening mark and the next closing one. There are none to be
told where a mark opens inside of another, or one closes or stays open alone. -/
def sectionsFrom : Option (List Char) → List Symbol → Option (List (List Char))
  | none, [] => some []
  | none, .char _ :: r => sectionsFrom none r
  | none, .opening :: r => sectionsFrom (some []) r
  | none, .closing :: _ => none
  | some _, [] => none
  | some cs, .char c :: r => sectionsFrom (some (cs ++ [c])) r
  | some _, .opening :: _ => none
  | some cs, .closing :: r => (sectionsFrom none r).map (cs :: ·)

/-- The stretches of a marked text that are marked, in order. -/
def sections? (content : List Char) : Option (List (List Char)) :=
  sectionsFrom none (symbols content)

theorem replaceMarks_eq (opening closing : List Char) (n : Nat) (cs : List Char) :
    replaceMarks opening closing n cs =
      (symbolsFrom n cs).flatMap (Symbol.shown opening closing) := by
  fun_induction symbolsFrom n cs with
  | case1 => simp [replaceMarks]
  | case2 n c cs ih => simpa only [replaceMarks] using ih
  | case3 c cs hopen ih => simp [replaceMarks, hopen, ih, Symbol.shown]
  | case4 c cs hopen hclose ih => simp [replaceMarks, hopen, hclose, ih, Symbol.shown]
  | case5 c cs hopen hclose ih => simp [replaceMarks, hopen, hclose, ih, Symbol.shown]

theorem symbols_openMark_append (rest : List Char) :
    symbols (openMark ++ rest) = .opening :: symbols rest := rfl

theorem symbols_closeMark_append (rest : List Char) :
    symbols (closeMark ++ rest) = .closing :: symbols rest := rfl

/-- A text without the character that marks begin with is taken as it stands. -/
theorem symbols_append {cs : List Char} (h : '<' ∉ cs) (rest : List Char) :
    symbols (cs ++ rest) = cs.map .char ++ symbols rest := by
  induction cs with
  | nil => rfl
  | cons c cs ih =>
      obtain ⟨hc, hcs⟩ := not_or.mp (mt List.mem_cons.mpr h)
      have hopen : openMark.isPrefixOf (c :: (cs ++ rest)) = false := by
        simp [openMark, List.isPrefixOf, hc]
      have hclose : closeMark.isPrefixOf (c :: (cs ++ rest)) = false := by
        simp [closeMark, List.isPrefixOf, hc]
      have hrest : symbols (c :: (cs ++ rest)) = .char c :: symbols (cs ++ rest) := by
        simp [symbols, symbolsFrom, hopen, hclose]
      rw [List.cons_append, hrest, ih hcs]
      rfl

/-! ## Pieces -/

/-- The symbols of a piece. -/
def Piece.symbols (p : Piece) : List Symbol :=
  if p.marked then .opening :: ((Reference.encode p.text).map .char ++ [.closing])
  else (Reference.encode p.text).map .char

theorem symbols_written_append (p : Piece) (rest : List Char) :
    symbols (p.written ++ rest) = p.symbols ++ symbols rest := by
  have htext (rest : List Char) := symbols_append (Reference.lt_notMem_encode p.text) rest
  unfold Piece.written Piece.symbols
  split
  · rw [List.append_assoc, List.append_assoc, symbols_openMark_append, htext,
      symbols_closeMark_append]
    simp
  · exact htext rest

/-- **The symbols of marked pieces are those of the pieces, one by one.** -/
theorem symbols_ofPieces (ps : List Piece) :
    symbols (ofPieces ps) = ps.flatMap Piece.symbols := by
  induction ps with
  | nil => rfl
  | cons p ps ih =>
      rw [ofPieces, List.flatMap_cons, ← ofPieces, symbols_written_append, ih, List.flatMap_cons]

theorem sectionsFrom_char (cs : List Char) (r : List Symbol) :
    sectionsFrom none (cs.map .char ++ r) = sectionsFrom none r := by
  induction cs with
  | nil => rfl
  | cons c cs ih => exact ih

theorem sectionsFrom_marked (ds cs : List Char) (r : List Symbol) :
    sectionsFrom (some ds) (cs.map .char ++ .closing :: r) =
      (sectionsFrom none r).map ((ds ++ cs) :: ·) := by
  induction cs generalizing ds with
  | nil => rw [List.append_nil]; rfl
  | cons c cs ih =>
      have h := ih (ds ++ [c])
      rwa [List.append_assoc] at h

/-- The marked stretches of marked pieces are the marked pieces. -/
theorem sections?_ofPieces (ps : List Piece) :
    sections? (ofPieces ps) =
      some ((ps.filter (·.marked)).map fun p => Reference.encode p.text) := by
  rw [sections?, symbols_ofPieces]
  induction ps with
  | nil => rfl
  | cons p ps ih =>
      rw [List.flatMap_cons, Piece.symbols]
      split
      · rename_i hmarked
        rw [List.cons_append, List.append_assoc, List.singleton_append, sectionsFrom,
          sectionsFrom_marked, ih, List.filter_cons_of_pos hmarked]
        rfl
      · rename_i hplain
        rw [sectionsFrom_char, ih, List.filter_cons_of_neg hplain]

/-- A piece with delimiters in the place of its marks. -/
def Piece.delimited (opening closing : List Char) (p : Piece) : List Char :=
  if p.marked then opening ++ p.text ++ closing else p.text

section Delimiters

variable {opening closing : List Char}

theorem decode_delimited_append (hopening : '&' ∉ opening) (hclosing : '&' ∉ closing) (p : Piece)
    (rest : List Char) :
    Reference.decode (p.symbols.flatMap (Symbol.shown opening closing) ++ rest) =
      (Reference.decode rest).map (p.delimited opening closing ++ ·) := by
  have htext : ((Reference.encode p.text).map Symbol.char).flatMap (Symbol.shown opening closing) =
      Reference.encode p.text := by
    rw [List.flatMap_map]
    exact List.flatMap_singleton' _
  unfold Piece.symbols Piece.delimited
  split
  · have hsymbols : (Symbol.opening :: ((Reference.encode p.text).map .char ++ [.closing])).flatMap
        (Symbol.shown opening closing) = opening ++ (Reference.encode p.text ++ closing) := by
      rw [List.flatMap_cons, List.flatMap_append, htext, List.flatMap_singleton]
      rfl
    rw [hsymbols, List.append_assoc, List.append_assoc, Reference.decode_append hopening,
      Reference.decode_encode_append, Reference.decode_append hclosing, Reference.map_map_append,
      Reference.map_map_append, List.append_assoc]
  · rw [htext, Reference.decode_encode_append]

theorem render_ofPieces (hopening : '&' ∉ opening) (hclosing : '&' ∉ closing) (ps : List Piece) :
    render opening closing (ofPieces ps) = .ok (ps.flatMap (Piece.delimited opening closing)) := by
  rw [render, replaceMarks_eq, ← symbols, symbols_ofPieces]
  induction ps with
  | nil => rfl
  | cons p ps ih =>
      rw [List.flatMap_cons, List.flatMap_append, decode_delimited_append hopening hclosing, ih,
        List.flatMap_cons]
      rfl

end Delimiters

theorem strip_ofPieces (ps : List Piece) : strip (ofPieces ps) = .ok (ps.flatMap Piece.text) := by
  have hplain : Piece.delimited [] [] = Piece.text := by
    funext p
    simp [Piece.delimited]
  rw [strip, render_ofPieces List.not_mem_nil List.not_mem_nil, hplain]

/-! ## Cutting a text -/

/-- Wherever a text is cut, its pieces are the whole text. -/
theorem text_piecesFrom (start : Nat) (text : List Char) (spans : List Span) :
    (piecesFrom start text spans).flatMap Piece.text = text := by
  induction spans generalizing start text with
  | nil => simp [piecesFrom]
  | cons s spans ih =>
      simp only [piecesFrom, List.flatMap_cons, ih, List.take_append_drop]

/-- The marked pieces of a text that is cut at the ends of spans are the parts that the spans
take up. -/
theorem marked_piecesFrom {text : List Char} {spans : List Span}
    (h : InOrder text.length spans) {start : Nat} (hstart : ∀ s ∈ spans, start ≤ s.start) :
    ((piecesFrom start (text.drop start) spans).filter (·.marked)).map Piece.text =
      spans.map (·.part text) := by
  induction spans generalizing start with
  | nil => rfl
  | cons s spans ih =>
      obtain ⟨hle, -, hbehind, hrest⟩ := InOrder.cons_iff.mp h
      have hdrop : (text.drop start).drop (s.start - start) = text.drop s.start := by
        rw [List.drop_drop, Nat.add_sub_cancel' (hstart s List.mem_cons_self)]
      have hnext : (text.drop s.start).drop (s.stop - s.start) = text.drop s.stop := by
        rw [List.drop_drop, Nat.add_sub_cancel' hle]
      simp only [piecesFrom, hdrop, hnext]
      rw [List.filter_cons_of_neg Bool.false_ne_true, List.filter_cons_of_pos rfl, List.map_cons,
        List.map_cons, ih hrest hbehind]
      rfl

/-- The pieces into which a text is cut for its matches. -/
theorem highlight_eq (pattern : Tree) (text : List Char) :
    highlight pattern text = ofPieces (piecesFrom 0 text (pattern.hits text)) :=
  rfl

theorem strip_highlight (pattern : Tree) (text : List Char) :
    strip (highlight pattern text) = .ok text := by
  rw [highlight_eq, strip_ofPieces, text_piecesFrom]

/-- **Marking loses nothing.** Without its marks a marked text is the text again. Its marks
stand in pairs, none inside of another, and what they enclose is what the pattern matches,
in order: every match that is not empty. -/
theorem highlight_lossless (pattern : Tree) (text : List Char) :
    strip (highlight pattern text) = .ok text ∧
      ∃ sections, sections? (highlight pattern text) = some sections ∧
        sections.map Reference.decode = (pattern.hits text).map fun s => .ok (s.part text) := by
  refine ⟨strip_highlight pattern text, ?_⟩
  rw [highlight_eq]
  refine ⟨_, sections?_ofPieces _, ?_⟩
  have hmarked := marked_piecesFrom (pattern.hits_inOrder text) (fun s _ => Nat.zero_le s.start)
  rw [List.drop_zero] at hmarked
  have hdecode : (fun p : Piece => Reference.decode (Reference.encode p.text)) =
      fun p => .ok p.text :=
    funext fun p => Reference.decode_encode p.text
  have hok := congrArg (List.map (Except.ok : _ → Except Numeral.Fault _)) hmarked
  simp only [List.map_map, Function.comp_def] at hok ⊢
  rw [hdecode, hok]

/-! ## Delimiters in a text -/

/-- What is put in at a place of a text: a closing delimiter where a span ends, and behind it
an opening one where a span begins. -/
def delimitersAt (opening closing : List Char) (spans : List Span) (place : Nat) : List Char :=
  (if ∃ s ∈ spans, s.stop = place then closing else []) ++
    if ∃ s ∈ spans, s.start = place then opening else []

/-- A text from a place on, with delimiters put in and nothing else changed. -/
def delimitFrom (opening closing : List Char) (spans : List Span) : Nat → List Char → List Char
  | place, [] => delimitersAt opening closing spans place
  | place, c :: cs =>
    delimitersAt opening closing spans place ++
      c :: delimitFrom opening closing spans (place + 1) cs

/-- A text with delimiters around spans. -/
def delimited (opening closing : List Char) (spans : List Span) (text : List Char) : List Char :=
  delimitFrom opening closing spans 0 text

section Delimiters

variable (opening closing : List Char)

/-- Where no span begins or ends, a text goes on as it is. -/
theorem delimitFrom_append {spans : List Span} (place : Nat) (cs rest : List Char)
    (h : ∀ i, place ≤ i → i < place + cs.length → delimitersAt opening closing spans i = []) :
    delimitFrom opening closing spans place (cs ++ rest) =
      cs ++ delimitFrom opening closing spans (place + cs.length) rest := by
  induction cs generalizing place with
  | nil => rfl
  | cons c cs ih =>
      rw [List.length_cons] at h
      have hhere := h place (Nat.le_refl place) (by omega)
      have hrest := ih (place + 1) fun i hlow hhigh => h i (by omega) (by omega)
      rw [List.cons_append, delimitFrom, hhere, hrest, List.length_cons, List.nil_append,
        List.cons_append, Nat.add_assoc, Nat.add_comm 1]

theorem delimitFrom_nil (place : Nat) (text : List Char) :
    delimitFrom opening closing [] place text = text := by
  have hnone (i : Nat) : delimitersAt opening closing [] i = [] := by simp [delimitersAt]
  have h := delimitFrom_append opening closing place text [] fun i _ _ => hnone i
  rwa [List.append_nil, delimitFrom, hnone, List.append_nil] at h

theorem delimitersAt_cons (s : Span) (spans : List Span) (place : Nat) :
    delimitersAt opening closing (s :: spans) place =
      (if s.stop = place ∨ ∃ b ∈ spans, b.stop = place then closing else []) ++
        if s.start = place ∨ ∃ b ∈ spans, b.start = place then opening else [] := by
  simp only [delimitersAt, List.mem_cons, or_and_right, exists_or, exists_eq_left]

/-- A span counts no more behind its end. -/
theorem delimitFrom_cons_of_lt {s : Span} {place : Nat} (hle : s.start ≤ s.stop)
    (hlt : s.stop < place) (spans : List Span) (text : List Char) :
    delimitFrom opening closing (s :: spans) place text =
      delimitFrom opening closing spans place text := by
  have hsame (i : Nat) (hi : s.stop < i) : delimitersAt opening closing (s :: spans) i =
      delimitersAt opening closing spans i := by
    have hstart : s.start ≠ i := by omega
    have hstop : s.stop ≠ i := by omega
    rw [delimitersAt_cons]
    simp only [hstart, hstop, false_or, delimitersAt]
  induction text generalizing place with
  | nil => exact hsame place hlt
  | cons c cs ih =>
      rw [delimitFrom, delimitFrom, hsame place hlt, ih (Nat.lt_succ_of_lt hlt)]

/-- The first of some spans has its delimiters around it, and what is behind it depends on the
other spans only. -/
theorem delimitFrom_span {s : Span} {spans : List Span} {place : Nat}
    {before middle : List Char} (hs : s.start < s.stop)
    (hspans : ∀ b ∈ spans, s.stop ≤ b.start ∧ b.start < b.stop)
    (hstart : place + before.length = s.start) (hstop : s.start + middle.length = s.stop)
    (behind : List Char) :
    delimitFrom opening closing (s :: spans) place (before ++ (middle ++ behind)) =
      before ++ (opening ++ middle ++ closing ++
        delimitFrom opening closing spans s.stop behind) := by
  have hnostop (i : Nat) (hi : i ≤ s.stop) : ¬∃ b ∈ spans, b.stop = i := by
    rintro ⟨b, hb, rfl⟩
    have := hspans b hb
    omega
  have hnostart (i : Nat) (hi : i < s.stop) : ¬∃ b ∈ spans, b.start = i := by
    rintro ⟨b, hb, rfl⟩
    have := hspans b hb
    omega
  have hnone (i : Nat) (hne : s.start ≠ i) (hi : i < s.stop) :
      delimitersAt opening closing (s :: spans) i = [] := by
    simp only [delimitersAt_cons, hne, Nat.ne_of_gt hi, hnostop i (Nat.le_of_lt hi),
      hnostart i hi, or_self, if_false, List.append_nil]
  have hopen : delimitersAt opening closing (s :: spans) s.start = opening := by
    simp only [delimitersAt_cons, Nat.ne_of_gt hs, hnostop _ (Nat.le_of_lt hs), or_self, true_or,
      if_false, if_true, List.nil_append]
  have hclose : delimitersAt opening closing (s :: spans) s.stop =
      closing ++ delimitersAt opening closing spans s.stop := by
    rw [delimitersAt_cons]
    simp only [delimitersAt, Nat.ne_of_lt hs, hnostop _ (Nat.le_refl _), true_or, false_or, if_true,
      if_false, List.nil_append]
  have hbehind : delimitFrom opening closing (s :: spans) s.stop behind =
      closing ++ delimitFrom opening closing spans s.stop behind := by
    cases behind with
    | nil => exact hclose
    | cons c cs =>
        rw [delimitFrom, delimitFrom, hclose, List.append_assoc,
          delimitFrom_cons_of_lt opening closing (Nat.le_of_lt hs) (Nat.lt_succ_self _)]
  rw [delimitFrom_append opening closing place before _
    fun i _ hi => hnone i (by omega) (by omega), hstart]
  congr 1
  -- the span has a first character, in front of which the opening delimiter stands
  match middle, hstop with
  | [], hstop => exact absurd hstop (Nat.ne_of_lt hs)
  | c :: cs, hstop =>
      rw [List.length_cons] at hstop
      rw [List.cons_append, delimitFrom, hopen,
        delimitFrom_append opening closing _ cs _ fun i _ hi => hnone i (by omega) (by omega),
        Nat.add_right_comm, Nat.add_assoc, hstop, hbehind]
      simp only [List.append_assoc, List.cons_append]

/-- The pieces of a text with delimiters in the place of marks are the text with delimiters
around the spans. -/
theorem delimited_piecesFrom {spans : List Span} {size : Nat} (h : InOrder size spans)
    (hspans : ∀ s ∈ spans, s.start < s.stop) {start : Nat} (hstart : ∀ s ∈ spans, start ≤ s.start)
    (text : List Char) (hsize : start + text.length = size) :
    (piecesFrom start text spans).flatMap (Piece.delimited opening closing) =
      delimitFrom opening closing spans start text := by
  -- behind the first span the text is shorter and its place a later one, so both are general
  induction spans generalizing start text with
  | nil => simp [piecesFrom, Piece.delimited, delimitFrom_nil]
  | cons s spans ih =>
      obtain ⟨hle, hend, hbehind, hrest⟩ := InOrder.cons_iff.mp h
      obtain ⟨hs, hspans⟩ := List.forall_mem_cons.mp hspans
      have hfirst := hstart s List.mem_cons_self
      have hmiddle : start + (text.take (s.start - start)).length = s.start := by
        rw [List.length_take]
        omega
      have hstop : s.start +
          ((text.drop (s.start - start)).take (s.stop - s.start)).length = s.stop := by
        rw [List.length_take, List.length_drop]
        omega
      have hspan := delimitFrom_span opening closing hs
        (fun b hb => ⟨hbehind b hb, hspans b hb⟩) hmiddle hstop
        ((text.drop (s.start - start)).drop (s.stop - s.start))
      rw [List.take_append_drop, List.take_append_drop] at hspan
      rw [hspan, ← ih hrest hspans hbehind]
      · simp [piecesFrom, Piece.delimited]
      · rw [List.length_drop, List.length_drop]
        omega

end Delimiters

/-- **A marked text with delimiters in the place of its marks** is the text with the delimiters
around every match that is not empty, whatever stands at the ends of a match. No delimiter
has an ampersand, so none begins a reference. -/
theorem render_highlight (pattern : Tree) (text : List Char) {opening closing : List Char}
    (hopening : '&' ∉ opening) (hclosing : '&' ∉ closing) :
    render opening closing (highlight pattern text) =
      .ok (delimited opening closing (pattern.hits text) text) := by
  rw [highlight_eq, render_ofPieces hopening hclosing,
    delimited_piecesFrom opening closing (pattern.hits_inOrder text)
      (fun _ hs => Tree.start_lt_stop_of_mem_hits hs) (fun s _ => Nat.zero_le s.start) text
      (Nat.zero_add _)]
  rfl

/-- A match ends amid what reads like a reference, and nothing changes but for the brackets. -/
theorem render_highlight_amid :
    '&' ∉ brackets.1 ∧ '&' ∉ brackets.2 ∧
      render brackets.1 brackets.2
          (highlight (Tree.literal false ['&', 'l']) ['a', '&', 'l', 't', ';', '&', 'l']) =
        .ok ['a', '[', '&', 'l', ']', 't', ';', '[', '&', 'l', ']'] := by
  have hopening : '&' ∉ brackets.1 := by decide
  have hclosing : '&' ∉ brackets.2 := by decide
  refine ⟨hopening, hclosing, (render_highlight _ _ hopening hclosing).trans ?_⟩
  exact congrArg Except.ok (by decide)

end Markup

end CommandShell
