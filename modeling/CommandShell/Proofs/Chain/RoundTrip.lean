import CommandShell.Chain.Reader
import Mathlib.Data.List.Forall2
import Mathlib.Data.List.Induction

/-!
# Written lines are read back

A chain is written as a line of input: every name, argument, key and value in double
quotes, flags behind two dashes, and bars between the stages. Reading the line gives
the chain back, whatever characters stand in its texts (`Chain.read?_write`).

Two scanners go over the line one after the other, each with its own rules. What is
written in one place is one piece for the first (`Stage.Whole`) and one word for the
second (`Word.Stands`). Both are said of whatever text follows, so that they hold of
texts that are put together.
-/

namespace CommandShell

/-! ## Writing -/

namespace Word

/-- A backslash in front of every backslash and every double quote. -/
def escape (cs : List Char) : List Char :=
  cs.flatMap fun c => if c = '\\' ∨ c = '\x22' then ['\\', c] else [c]

/-- A text in double quotes. -/
def quote (s : String) : List Char := '\x22' :: escape s.toList ++ ['\x22']

/-- A flag: one that is only set has no value. -/
def writeFlag (flag : String × Value) : List Char :=
  '-' :: '-' :: quote flag.1 ++
    match flag.2 with
    | .str s => '=' :: quote s
    | _ => []

end Word

/-- A command with its arguments and then its flags. -/
def Fragment.write (f : Fragment) : List Char :=
  Word.quote f.name ++ (f.args.map Word.quote ++ f.flags.map Word.writeFlag).flatMap (' ' :: ·)

/-- The stages of a line with bars between them. -/
def Stage.join : List (List Char) → List Char
  | [] => []
  | [t] => t
  | t :: ts => t ++ ' ' :: '|' :: ' ' :: join ts

/-- A chain as a line of input. -/
def Chain.write (c : Chain) : String := String.ofList (Stage.join (c.fragments.map Fragment.write))

/-- What can be written so that it is read again. -/
structure Fragment.IsWritable (f : Fragment) : Prop where
  name : f.name ≠ ""
  args : ∀ arg ∈ f.args, arg ≠ ""
  distinct : (Table.names f.flags).Nodup
  keys : ∀ flag ∈ f.flags, '=' ∉ flag.1.toList
  values : ∀ flag ∈ f.flags, (∃ s, flag.2 = .str s) ∨ flag.2 = .bool true

/-! ## Stages -/

namespace Stage

theorem extend_append (cs ds : List Char) (ps : List (List Char)) :
    extend (cs ++ ds) ps = extend cs (extend ds ps) := by
  cases ps with
  | nil => rfl
  | cons p ps => simp [extend]

theorem extend_ne_nil (cs : List Char) (ps : List (List Char)) : extend cs ps ≠ [] := by
  cases ps <;> simp [extend]

theorem pieces_ne_nil (q : Quote) (cs : List Char) : pieces q cs ≠ [] := by
  fun_cases pieces q cs <;> simp [extend_ne_nil, *]

theorem pieces_cons {c : Char} (h : c ≠ '\\') (q : Quote) (r : List Char) :
    pieces q (c :: r) =
      if c = '|' ∧ q = .outside then [] :: pieces q r else extend [c] (pieces (q.after c) r) := by
  rw [pieces]
  · rintro rfl
    exact absurd rfl h
  · rintro d r' rfl
    exact absurd rfl h

theorem pieces_backslash (q : Quote) (c : Char) (r : List Char) :
    pieces q ('\\' :: c :: r) = extend ['\\', c] (pieces q r) := by
  rw [pieces]

theorem pieces_escape (cs rest : List Char) :
    pieces .double (Word.escape cs ++ '\x22' :: rest) =
      extend (Word.escape cs ++ ['\x22']) (pieces .outside rest) := by
  induction cs with
  | nil => exact pieces_cons (by decide) .double rest
  | cons c cs ih =>
      by_cases hc : c = '\\' ∨ c = '\x22'
      · have hesc : Word.escape (c :: cs) = '\\' :: c :: Word.escape cs := by
          simp [Word.escape, hc]
        rw [hesc, List.cons_append, List.cons_append, pieces_backslash, ih, ← extend_append]
        rfl
      · have hesc : Word.escape (c :: cs) = c :: Word.escape cs := by
          simp [Word.escape, hc]
        obtain ⟨hslash, hquote⟩ := not_or.mp hc
        rw [hesc, List.cons_append, pieces_cons hslash, if_neg (by simp), Quote.after]
        simp only [hquote, if_false]
        rw [ih, ← extend_append]
        rfl

/-- Bars that stand in a text do not divide it: it is one piece, together with what comes up to the
next bar. -/
def Whole (t : List Char) : Prop :=
  ∀ rest, pieces .outside (t ++ rest) = extend t (pieces .outside rest)

theorem whole_append {t u : List Char} (ht : Whole t) (hu : Whole u) : Whole (t ++ u) := by
  intro rest
  rw [List.append_assoc, ht, hu, extend_append]

theorem whole_nil : Whole [] := by
  intro rest
  obtain ⟨p, ps, hp⟩ := List.exists_cons_of_ne_nil (pieces_ne_nil .outside rest)
  simp [hp, extend]

/-- A character that is no bar, no backslash and no quote. -/
theorem whole_cons {c : Char} {t : List Char} (hc : c ∉ ['|', '\\', '\x22', '\x27'])
    (ht : Whole t) : Whole (c :: t) := by
  intro rest
  simp only [List.mem_cons, List.not_mem_nil, or_false, not_or] at hc
  obtain ⟨hbar, hslash, hdouble, hsingle⟩ := hc
  rw [List.cons_append, pieces_cons hslash, if_neg (by simp [hbar]), Quote.after]
  simp only [hdouble, hsingle, if_false]
  rw [ht, ← extend_append]
  rfl

theorem whole_quote (s : String) : Whole (Word.quote s) := by
  intro rest
  have hopen : pieces .outside ('\x22' :: (Word.escape s.toList ++ '\x22' :: rest)) =
      extend ['\x22'] (pieces .double (Word.escape s.toList ++ '\x22' :: rest)) :=
    pieces_cons (by decide) .outside _
  rw [pieces_escape, ← extend_append] at hopen
  simpa [Word.quote] using hopen

theorem whole_flatMap {ts : List (List Char)} (h : ∀ t ∈ ts, Whole t) :
    Whole (ts.flatMap (' ' :: ·)) := by
  induction ts with
  | nil => exact whole_nil
  | cons t ts ih =>
      have ht := whole_cons (c := ' ') (by decide) (h t List.mem_cons_self)
      exact whole_append ht (ih fun u hu => h u (List.mem_cons_of_mem t hu))

theorem whole_writeFlag (flag : String × Value) : Whole (Word.writeFlag flag) := by
  unfold Word.writeFlag
  refine whole_cons (by decide) (whole_cons (by decide) (whole_append (whole_quote _) ?_))
  split
  · exact whole_cons (by decide) (whole_quote _)
  · exact whole_nil

theorem whole_write (f : Fragment) : Whole f.write := by
  refine whole_append (whole_quote f.name) (whole_flatMap ?_)
  intro t ht
  rcases List.mem_append.mp ht with ht | ht
  · obtain ⟨arg, -, rfl⟩ := List.mem_map.mp ht
    exact whole_quote arg
  · obtain ⟨flag, -, rfl⟩ := List.mem_map.mp ht
    exact whole_writeFlag flag

/-! ### Blanks around a stage -/

theorem trimEnd_concat (t : List Char) {c : Char} (hc : Text.isBlank c = true) :
    Text.trimEnd (t ++ [c]) = Text.trimEnd t := by
  induction t with
  | nil => simp [Text.trimEnd, hc]
  | cons d t ih => simp only [List.cons_append, Text.trimEnd, ih]

theorem trimEnd_eq_self {t : List Char} {d : Char} (ht : t.getLast? = some d)
    (hd : Text.isBlank d = false) : Text.trimEnd t = t := by
  induction t with
  | nil => rfl
  | cons c t ih =>
      cases t with
      | nil =>
          obtain rfl : c = d := by simpa using ht
          simp [Text.trimEnd, hd]
      | cons e t =>
          rw [List.getLast?_cons_cons] at ht
          rw [Text.trimEnd, ih ht]

/-- A blank in front of a stage does not count. -/
theorem trim_space_cons (t : List Char) : Text.trim (' ' :: t) = Text.trim t := by
  have hblank : Text.isBlank ' ' = true := rfl
  rw [Text.trim, List.dropWhile_cons_of_pos hblank]
  rfl

/-- A text with a quote at either end. -/
def IsEnclosed (t : List Char) : Prop := t.head? = some '\x22' ∧ t.getLast? = some '\x22'

theorem trim_of_isEnclosed {t : List Char} (h : IsEnclosed t) : Text.trim t = t := by
  obtain ⟨hhead, hlast⟩ := h
  obtain ⟨u, rfl⟩ := List.head?_eq_some_iff.mp hhead
  rw [Text.trim, List.dropWhile_cons_of_neg (by decide)]
  exact trimEnd_eq_self hlast rfl

theorem trim_concat_space {t : List Char} (h : IsEnclosed t) : Text.trim (t ++ [' ']) = t := by
  obtain ⟨hhead, hlast⟩ := h
  obtain ⟨u, rfl⟩ := List.head?_eq_some_iff.mp hhead
  rw [Text.trim, List.cons_append, List.dropWhile_cons_of_neg (by decide), ← List.cons_append,
    trimEnd_concat _ rfl]
  exact trimEnd_eq_self hlast rfl

theorem getLast?_quote (s : String) : (Word.quote s).getLast? = some '\x22' :=
  List.getLast?_concat

theorem getLast?_writeFlag (flag : String × Value) :
    (Word.writeFlag flag).getLast? = some '\x22' := by
  unfold Word.writeFlag
  split
  · simp only [List.getLast?_append, List.getLast?_cons, getLast?_quote, Option.getD_some,
      Option.or_some]
  · rw [List.append_nil, List.getLast?_cons_cons, List.getLast?_cons, getLast?_quote]
    rfl

theorem getLast?_append_flatMap {t : List Char} (ht : t.getLast? = some '\x22')
    {us : List (List Char)} (hus : ∀ u ∈ us, u.getLast? = some '\x22') :
    (t ++ us.flatMap (' ' :: ·)).getLast? = some '\x22' := by
  induction us generalizing t with
  | nil => simpa using ht
  | cons u us ih =>
      have hu := hus u List.mem_cons_self
      rw [List.flatMap_cons, ← List.append_assoc]
      refine ih ?_ fun v hv => hus v (List.mem_cons_of_mem u hv)
      rw [List.getLast?_append, List.getLast?_cons, hu]
      rfl

theorem isEnclosed_write (f : Fragment) : IsEnclosed f.write := by
  refine ⟨rfl, getLast?_append_flatMap (getLast?_quote f.name) ?_⟩
  intro t ht
  rcases List.mem_append.mp ht with ht | ht
  · obtain ⟨arg, -, rfl⟩ := List.mem_map.mp ht
    exact getLast?_quote arg
  · obtain ⟨flag, -, rfl⟩ := List.mem_map.mp ht
    exact getLast?_writeFlag flag

/-! ### The stages of a line -/

theorem map_trim_extend_space {ps : List (List Char)} (h : ps ≠ []) :
    (extend [' '] ps).map Text.trim = ps.map Text.trim := by
  obtain ⟨p, ps, rfl⟩ := List.exists_cons_of_ne_nil h
  simp [extend, trim_space_cons]

theorem pieces_append_bar {t : List Char} (ht : Whole t) (rest : List Char) :
    pieces .outside (t ++ ' ' :: '|' :: ' ' :: rest) =
      (t ++ [' ']) :: extend [' '] (pieces .outside rest) := by
  have hspace (r : List Char) : pieces .outside (' ' :: r) = extend [' '] (pieces .outside r) :=
    pieces_cons (by decide) .outside r
  have hbar (r : List Char) : pieces .outside ('|' :: r) = [] :: pieces .outside r :=
    pieces_cons (by decide) .outside r
  rw [ht, hspace, hbar, hspace]
  simp [extend]

/-- **Bars divide what was joined.** -/
theorem map_trim_pieces_join {ts : List (List Char)} (hne : ts ≠ []) (hw : ∀ t ∈ ts, Whole t)
    (he : ∀ t ∈ ts, IsEnclosed t) : (pieces .outside (join ts)).map Text.trim = ts := by
  induction ts with
  | nil => exact absurd rfl hne
  | cons t ts ih =>
      have ht := hw t List.mem_cons_self
      have hte := he t List.mem_cons_self
      cases ts with
      | nil =>
          have hpieces : pieces .outside t = [t] := by
            have hrest := ht []
            rwa [List.append_nil, pieces, extend, List.append_nil] at hrest
          rw [join, hpieces, List.map_singleton, trim_of_isEnclosed hte]
      | cons u us =>
          have hmore := ih (by simp) (fun v hv => hw v (List.mem_cons_of_mem t hv))
            (fun v hv => he v (List.mem_cons_of_mem t hv))
          rw [join, pieces_append_bar ht, List.map_cons, trim_concat_space hte,
            map_trim_extend_space (pieces_ne_nil _ _), hmore]
          simp

theorem ofText_join {fs : List Fragment} (hne : fs ≠ []) :
    ofText (join (fs.map Fragment.write)) = fs.map Fragment.write := by
  have hw : ∀ t ∈ fs.map Fragment.write, Whole t := by
    rintro _ ht
    obtain ⟨f, -, rfl⟩ := List.mem_map.mp ht
    exact whole_write f
  have he : ∀ t ∈ fs.map Fragment.write, IsEnclosed t := by
    rintro _ ht
    obtain ⟨f, -, rfl⟩ := List.mem_map.mp ht
    exact isEnclosed_write f
  rw [ofText, map_trim_pieces_join (by simpa using hne) hw he, List.filter_eq_self]
  intro t ht
  have hhead := (he t ht).1
  rw [decide_eq_true_eq]
  rintro rfl
  cases hhead

end Stage

/-! ## Words -/

namespace Word

theorem scan_cons {c : Char} (h : c ≠ '\\') (q : Quote) (current : List Char) (quoted : Bool)
    (r : List Char) :
    scan q current quoted (c :: r) =
      if q.turnsAt c then scan (q.after c) current (quoted || (q == .outside && current.isEmpty)) r
      else if Text.isBlank c && q == .outside then
        if current.isEmpty then scan q [] quoted r else ⟨current, quoted⟩ :: scan q [] false r
      else scan q (current ++ [c]) quoted r := by
  rw [scan]
  · rintro rfl
    exact absurd rfl h
  · rintro d r' rfl
    exact absurd rfl h

theorem scan_backslash {c : Char} (h : isEscapable c = true) (q : Quote) (current : List Char)
    (quoted : Bool) (r : List Char) :
    scan q current quoted ('\\' :: c :: r) = scan q (current ++ [c]) quoted r := by
  rw [scan, if_pos h]

/-- Between quotes the escaped text is read back. -/
theorem scan_escape (cs current : List Char) (quoted : Bool) (rest : List Char) :
    scan .double current quoted (escape cs ++ '\x22' :: rest) =
      scan .outside (current ++ cs) quoted rest := by
  induction cs generalizing current with
  | nil =>
      have hclose : scan .double current quoted ('\x22' :: rest) =
          scan .outside current (quoted || false) rest :=
        scan_cons (by decide) .double current quoted rest
      rw [Bool.or_false] at hclose
      simpa [escape] using hclose
  | cons c cs ih =>
      by_cases hc : c = '\\' ∨ c = '\x22'
      · have hesc : escape (c :: cs) = '\\' :: c :: escape cs := by simp [escape, hc]
        have hable : isEscapable c = true := by rcases hc with rfl | rfl <;> rfl
        rw [hesc, List.cons_append, List.cons_append, scan_backslash hable, ih]
        simp
      · have hesc : escape (c :: cs) = c :: escape cs := by simp [escape, hc]
        obtain ⟨hslash, hquote⟩ := not_or.mp hc
        have hturn : Quote.turnsAt .double c = false := by
          simp [Quote.turnsAt, Quote.after, hquote]
        rw [hesc, List.cons_append, scan_cons hslash, hturn]
        simp [ih]

/-- A quoted text joins the current word, which counts as quoted if this is its beginning. -/
theorem scan_quote (s : String) (current : List Char) (quoted : Bool) (rest : List Char) :
    scan .outside current quoted (quote s ++ rest) =
      scan .outside (current ++ s.toList) (quoted || current.isEmpty) rest := by
  have hopen : scan .outside current quoted
      ('\x22' :: (escape s.toList ++ '\x22' :: rest)) = _ :=
    scan_cons (by decide) .outside current quoted _
  have hturn : Quote.turnsAt .outside '\x22' = true := rfl
  rw [hturn, if_pos rfl, Quote.after, if_pos rfl, scan_escape] at hopen
  simpa [quote] using hopen

/-- An ordinary character joins the current word. -/
theorem scan_ordinary {c : Char} (hc : c ∉ ['\\', '\x22', '\x27'])
    (hblank : Text.isBlank c = false) (current : List Char) (quoted : Bool) (rest : List Char) :
    scan .outside current quoted (c :: rest) = scan .outside (current ++ [c]) quoted rest := by
  simp only [List.mem_cons, List.not_mem_nil, or_false, not_or] at hc
  obtain ⟨hslash, hdouble, hsingle⟩ := hc
  rw [scan_cons hslash]
  simp [Quote.turnsAt, Quote.after, hdouble, hsingle, hblank]

/-- A text that stands for one word, whatever follows it. -/
def Stands (t : List Char) (w : Word) : Prop :=
  w.text ≠ [] ∧
    ∀ rest, scan .outside [] false (t ++ rest) = scan .outside w.text w.quoted rest

theorem stands_quote {s : String} (h : s ≠ "") : Stands (quote s) ⟨s.toList, true⟩ := by
  refine ⟨by simpa using h, fun rest => ?_⟩
  rw [scan_quote]
  rfl

/-- The word that is read for a flag. -/
def ofFlag (flag : String × Value) : Word where
  text := '-' :: '-' :: flag.1.toList ++
    match flag.2 with
    | .str s => '=' :: s.toList
    | _ => []
  quoted := false

theorem stands_writeFlag (flag : String × Value) : Stands (writeFlag flag) (ofFlag flag) := by
  obtain ⟨key, value⟩ := flag
  refine ⟨by simp [ofFlag], fun rest => ?_⟩
  unfold writeFlag ofFlag
  dsimp only
  rw [List.append_assoc, List.cons_append, List.cons_append, List.cons_append, List.cons_append,
    scan_ordinary (by decide) rfl, scan_ordinary (by decide) rfl, scan_quote]
  split
  · rw [List.cons_append, scan_ordinary (by decide) rfl, scan_quote]
    simp
  · simp

theorem scan_space {w : Word} (hw : w.text ≠ []) (rest : List Char) :
    scan .outside w.text w.quoted (' ' :: rest) = w :: scan .outside [] false rest := by
  rw [scan_cons (by decide)]
  have hblank : Text.isBlank ' ' = true := rfl
  simp [Quote.turnsAt, Quote.after, hblank, hw]

/-- Words with blanks between them are read one by one. -/
theorem scan_flatMap {w : Word} (hw : w.text ≠ []) {ts : List (List Char)} {ws : List Word}
    (h : List.Forall₂ Stands ts ws) :
    scan .outside w.text w.quoted (ts.flatMap (' ' :: ·)) = w :: ws := by
  induction h generalizing w with
  | nil => simp [scan, close, hw]
  | cons ht _ ih =>
      rw [List.flatMap_cons, List.cons_append, scan_space hw, ht.2, ih ht.1]

theorem argument?_quote (s : String) : argument? ⟨s.toList, true⟩ = some s := by
  simp [argument?, flag?]

/-- A value is what stands behind the first equals sign. -/
theorem assignment_value {key : String} (h : '=' ∉ key.toList) (s : String) :
    assignment (key.toList ++ '=' :: s.toList) = (key, .str s) := by
  have hkey : ∀ c ∈ key.toList, decide (c ≠ '=') = true := by
    intro c hc
    exact decide_eq_true (ne_of_mem_of_not_mem hc h)
  unfold assignment
  rw [List.takeWhile_append_of_pos hkey, List.dropWhile_append_of_pos hkey]
  simp

theorem assignment_key {key : String} (h : '=' ∉ key.toList) :
    assignment key.toList = (key, .bool true) := by
  have hkey : ∀ c ∈ key.toList, decide (c ≠ '=') = true := by
    intro c hc
    exact decide_eq_true (ne_of_mem_of_not_mem hc h)
  have htake : key.toList.takeWhile (· ≠ '=') = key.toList := by
    have hall : (key.toList ++ []).takeWhile (· ≠ '=') = key.toList ++ [] :=
      List.takeWhile_append_of_pos hkey
    rwa [List.append_nil] at hall
  have hdrop : key.toList.dropWhile (· ≠ '=') = [] := by
    have hall : (key.toList ++ []).dropWhile (· ≠ '=') = [] := List.dropWhile_append_of_pos hkey
    rwa [List.append_nil] at hall
  unfold assignment
  rw [htake, hdrop]
  simp

theorem flag?_ofFlag {flag : String × Value} (hkey : '=' ∉ flag.1.toList)
    (hvalue : (∃ s, flag.2 = .str s) ∨ flag.2 = .bool true) :
    flag? (ofFlag flag) = some flag := by
  obtain ⟨key, value⟩ := flag
  rcases hvalue with ⟨s, hs⟩ | htrue
  · obtain rfl : value = .str s := hs
    exact congrArg some (assignment_value hkey s)
  · obtain rfl : value = .bool true := htrue
    have hread := congrArg some (assignment_key hkey)
    rw [← List.append_nil key.toList] at hread
    exact hread

end Word

/-! ## Fragments and chains -/

namespace Table

variable {α : Type}

theorem put_of_not_mem {t : Table α} {name : String} (h : name ∉ names t) (a : α) :
    put name a t = t ++ [(name, a)] := by
  induction t with
  | nil => rfl
  | cons e t ih =>
      obtain ⟨n, b⟩ := e
      obtain ⟨hne, hmem⟩ : name ≠ n ∧ name ∉ names t := by simpa [names] using h
      rw [put, if_neg (Ne.symm hne), ih hmem]
      rfl

/-- Entries of different names are a table as they stand. -/
theorem ofList_of_nodup {t : Table α} (h : (names t).Nodup) : ofList t = t := by
  induction t using List.reverseRecOn with
  | nil => rfl
  | append_singleton t e ih =>
      obtain ⟨ht, -, hdisjoint⟩ : (names t).Nodup ∧ (names [e]).Nodup ∧ _ := by
        rw [names, List.map_append] at h
        exact List.nodup_append.mp h
      have hnew : e.1 ∉ names t := fun hmem => hdisjoint _ hmem _ (by simp [names]) rfl
      have hlast : ofList (t ++ [e]) = put e.1 e.2 (ofList t) := by
        unfold ofList
        rw [List.foldl_append]
        rfl
      rw [hlast, ih ht, put_of_not_mem hnew]

end Table

namespace Fragment

variable {f : Fragment}

/-- The words that are read for a fragment. -/
theorem words_write (h : f.IsWritable) : Word.ofText f.write =
    ⟨f.name.toList, true⟩ ::
      (f.args.map (fun arg => ⟨arg.toList, true⟩) ++ f.flags.map Word.ofFlag) := by
  have hname := Word.stands_quote h.name
  have hargs : List.Forall₂ Word.Stands (f.args.map Word.quote)
      (f.args.map fun arg => ⟨arg.toList, true⟩) := by
    rw [List.forall₂_map_left_iff, List.forall₂_map_right_iff, List.forall₂_same]
    exact fun arg harg => Word.stands_quote (h.args arg harg)
  have hflags : List.Forall₂ Word.Stands (f.flags.map Word.writeFlag)
      (f.flags.map Word.ofFlag) := by
    rw [List.forall₂_map_left_iff, List.forall₂_map_right_iff, List.forall₂_same]
    exact fun flag _ => Word.stands_writeFlag flag
  rw [Word.ofText, Fragment.write, hname.2]
  exact Word.scan_flatMap hname.1 (List.rel_append hargs hflags)

theorem ofWords_words (h : f.IsWritable) :
    ofWords (⟨f.name.toList, true⟩ ::
      (f.args.map (fun arg => ⟨arg.toList, true⟩) ++ f.flags.map Word.ofFlag)) = f := by
  have hflag (flag : String × Value) (hmem : flag ∈ f.flags) :
      Word.flag? (Word.ofFlag flag) = some flag :=
    Word.flag?_ofFlag (h.keys flag hmem) (h.values flag hmem)
  have hargs : (f.args.map (fun arg => (⟨arg.toList, true⟩ : Word)) ++
      f.flags.map Word.ofFlag).filterMap
      Word.argument? = f.args := by
    rw [List.filterMap_append, List.filterMap_map, List.filterMap_map]
    have hnone : f.flags.filterMap (Word.argument? ∘ Word.ofFlag) = [] := by
      rw [List.filterMap_eq_nil_iff]
      intro flag hmem
      simp [Word.argument?, hflag flag hmem]
    rw [hnone, List.append_nil]
    exact (List.filterMap_congr fun arg _ => Word.argument?_quote arg).trans List.filterMap_some
  have hflags : (f.args.map (fun arg => (⟨arg.toList, true⟩ : Word)) ++
      f.flags.map Word.ofFlag).filterMap
      Word.flag? = f.flags := by
    rw [List.filterMap_append, List.filterMap_map, List.filterMap_map]
    have hnone : f.args.filterMap (Word.flag? ∘ fun arg => ⟨arg.toList, true⟩) = [] :=
      List.filterMap_eq_nil_iff.mpr fun arg _ => rfl
    rw [hnone, List.nil_append]
    exact (List.filterMap_congr hflag).trans List.filterMap_some
  rw [ofWords, hargs, hflags, Table.ofList_of_nodup h.distinct, String.ofList_toList]

/-- A fragment that was written is read back. -/
theorem ofText_write (h : f.IsWritable) : ofText f.write = f := by
  rw [ofText, words_write h, ofWords_words h]

end Fragment

namespace Chain

theorem map_ofText_write {fs : List Fragment} (h : ∀ f ∈ fs, f.IsWritable) :
    ((fs.map Fragment.write).map Fragment.ofText).filter (·.name ≠ "") = fs := by
  have hread : (fs.map Fragment.write).map Fragment.ofText = fs := by
    rw [List.map_map]
    exact (List.map_congr_left fun f hf => Fragment.ofText_write (h f hf)).trans (List.map_id fs)
  rw [hread, List.filter_eq_self]
  exact fun f hf => decide_eq_true (h f hf).name

/-- **What was written is read back**, whatever the characters of its texts. -/
theorem read?_write (c : Chain) (h : ∀ f ∈ c.fragments, f.IsWritable) :
    read? c.write = some c := by
  obtain ⟨fs, hne⟩ := c
  rw [read?, write, String.toList_ofList, Stage.ofText_join hne, map_ofText_write h, ofList?,
    dif_pos hne]

/-- Two stages with bars, quotes, backslashes, blanks, dashes and equals signs in their texts. -/
def thorny : Chain :=
  ⟨[{ name := "a|b", args := [" ", "say \x22hi\x22 \\", "--x=1", "-"] },
    { name := "\x27", args := ["\u3000"],
      flags := [("k y", .str "|="), ("", .bool true), ("-\x22", .str "")] }], by simp⟩

theorem read?_write_thorny :
    (∀ f ∈ thorny.fragments, f.IsWritable) ∧ read? thorny.write = some thorny := by
  have h : ∀ f ∈ thorny.fragments, f.IsWritable := by
    intro f hf
    simp only [thorny, List.mem_cons, List.not_mem_nil, or_false] at hf
    rcases hf with rfl | rfl
    · constructor <;> simp [Table.names]
    · constructor <;> simp [Table.names]
  exact ⟨h, read?_write thorny h⟩

end Chain

end CommandShell
