import CommandShell.Diagnostics.Compression
import CommandShell.Proofs.Text.Segment
import Mathlib.Data.List.Chain
import Mathlib.Data.List.TakeWhile

/-!
# Stamps that are left blank

A stamp that repeats the last one shown becomes blank, and nothing is lost by it: the line keeps its
length and its text (`Kept`), and where every stamp of the log can be read, each blank one is the
nearest one above it that can be (`refill_blankRepeated`). What one line comes to is said once, in
`Blanks`; whatever is claimed of the whole log follows line by line from its three cases.
-/

namespace CommandShell.Diagnostics

variable {shown shown' : Option (List Char)} {line out : String} {stamp tail : List Char}

/-! ## Lines with a stamp -/

/-- **A stamp stands between brackets** at the start of its line and has no closing one in it. -/
theorem stamp?_eq_some_iff :
    stamp? line = some (stamp, tail) ↔ line.toList = '[' :: stamp ++ ']' :: tail ∧ ']' ∉ stamp := by
  constructor
  · intro h
    rw [stamp?] at h
    split at h
    next r hline =>
      split at h
      next rest hrest =>
        obtain ⟨rfl, rfl⟩ : r.takeWhile (fun c => decide (c ≠ ']')) = stamp ∧ rest = tail := by
          simpa only [Option.some.injEq, Prod.mk.injEq] using h
        refine ⟨?_, fun hmem => by simpa using List.mem_takeWhile_imp hmem⟩
        rw [hline, List.cons_append, ← hrest, List.takeWhile_append_dropWhile]
      next => cases h
    next => cases h
  · rintro ⟨hline, hstamp⟩
    have hkind : ∀ c ∈ stamp, decide (c ≠ ']') = true := fun c hc =>
      decide_eq_true fun heq => hstamp (heq ▸ hc)
    have hstops : Text.Stops (fun c => decide (c ≠ ']')) (']' :: tail) := Text.stops_cons rfl
    rw [stamp?, hline, List.cons_append]
    simp only [Text.dropWhile_append_of_stops hkind hstops,
      Text.takeWhile_append_of_stops hkind hstops]

theorem stamp?_blanked (stamp tail : List Char) :
    stamp? (blanked stamp tail) = some (List.replicate stamp.length ' ', tail) :=
  stamp?_eq_some_iff.mpr ⟨by simp [blanked], by simp [List.mem_replicate]⟩

theorem length_blanked (h : stamp? line = some (stamp, tail)) :
    (blanked stamp tail).length = line.length := by
  obtain ⟨hline, -⟩ := stamp?_eq_some_iff.mp h
  rw [← String.length_toList, ← String.length_toList, hline]
  simp [blanked]

/-- Nothing can be read of the stamp: it is empty, or it is made of spaces. -/
def Faded (stamp : List Char) : Prop := ∀ c ∈ stamp, c = ' '

-- by the characters of the stamp: a search would find the instance that goes through all there are
instance : DecidablePred Faded := fun stamp => List.decidableBAll (· = ' ') stamp

theorem faded_replicate (n : Nat) : Faded (List.replicate n ' ') :=
  fun _ hc => List.eq_of_mem_replicate hc

/-! ## What one line comes to -/

/-- Behind the stamp shown last, how a line is shown and which stamp is the last one then. -/
inductive Blanks (line : String) : Option (List Char) → String → Option (List Char) → Prop
  | unstamped {shown : Option (List Char)} (h : stamp? line = none) : Blanks line shown line shown
  | repeated {stamp tail : List Char} (h : stamp? line = some (stamp, tail)) :
      Blanks line (some stamp) (blanked stamp tail) (some stamp)
  | anew {shown : Option (List Char)} {stamp tail : List Char}
      (h : stamp? line = some (stamp, tail)) (hne : shown ≠ some stamp) :
      Blanks line shown line (some stamp)

theorem exists_blanks (shown : Option (List Char)) (line : String) (lines : List String) :
    ∃ out shown', Blanks line shown out shown' ∧
      blankFrom shown (line :: lines) = out :: blankFrom shown' lines := by
  rw [blankFrom]
  split
  next h => exact ⟨_, _, .unstamped h, rfl⟩
  next stamp tail h =>
    split
    next hsame =>
      subst hsame
      exact ⟨_, _, .repeated h, rfl⟩
    next hne => exact ⟨_, _, .anew h hne, rfl⟩

/-- What a line keeps whether its stamp is shown or not. -/
structure Kept (line out : String) : Prop where
  length : out.length = line.length
  rest : (stamp? out).map Prod.snd = (stamp? line).map Prod.snd
  unstamped : stamp? line = none → out = line

theorem Kept.refl (line : String) : Kept line line := ⟨rfl, rfl, fun _ => rfl⟩

theorem Blanks.kept (h : Blanks line shown out shown') : Kept line out := by
  cases h with
  | unstamped h => exact .refl line
  | repeated h =>
      exact ⟨length_blanked h, by simp [stamp?_blanked, h], fun hnone => by simp [h] at hnone⟩
  | anew h hne => exact .refl line

theorem forall₂_kept (shown : Option (List Char)) (lines : List String) :
    List.Forall₂ Kept lines (blankFrom shown lines) := by
  induction lines generalizing shown with
  | nil => exact .nil
  | cons line lines ih =>
      obtain ⟨out, shown', hout, heq⟩ := exists_blanks shown line lines
      rw [heq]
      exact .cons hout.kept (ih shown')

/-- Every line stays, with its stamp or without. -/
theorem length_blankRepeated (lines : List String) :
    (blankRepeated lines).length = lines.length :=
  (forall₂_kept none lines).length_eq.symm

/-! ## Successive stamps -/

/-- Two stamps are not the same, unless nothing can be read of them. -/
def Differ (s t : List Char × List Char) : Prop := s.1 = t.1 → Faded s.1

/-- Below a line with the stamp `s`, if that is the one shown last or cannot be read. -/
theorem isChain_blankFrom {s : List Char × List Char} (hs : ¬ Faded s.1 → shown = some s.1)
    (lines : List String) : (s :: (blankFrom shown lines).filterMap stamp?).IsChain Differ := by
  induction lines generalizing s shown with
  | nil => exact .singleton s
  | cons line lines ih =>
      obtain ⟨out, shown', hout, heq⟩ := exists_blanks shown line lines
      rw [heq]
      cases hout with
      | unstamped h =>
          rw [List.filterMap_cons_none h]
          exact ih hs
      | repeated h =>
          rw [List.filterMap_cons_some (stamp?_blanked _ _)]
          exact .cons_cons (fun hsame => hsame ▸ faded_replicate _)
            (ih fun hread => absurd (faded_replicate _) hread)
      | anew h hne =>
          rw [List.filterMap_cons_some h]
          refine .cons_cons (fun hsame => ?_) (ih fun _ => rfl)
          -- the stamp above could be read, so it was the one shown last, and this one is another
          by_contra hread
          exact hne ((hs hread).trans (congrArg some hsame))

/-- **No stamp is shown twice in a row.** -/
theorem isChain_blankRepeated (lines : List String) :
    ((blankRepeated lines).filterMap stamp?).IsChain Differ :=
  (isChain_blankFrom (s := ([], [])) (fun hread => absurd (faded_replicate 0) hread) lines).tail

/-! ## Filling the blanks -/

/-- The stamp of a line, if it can be read. -/
def legible? (line : String) : Option (List Char) :=
  ((stamp? line).map Prod.fst).filter fun stamp => ¬ Faded stamp

/-- The nearest stamp above that can be read; lines without one are passed over. -/
def nearest? (above : List String) : Option (List Char) := (above.filterMap legible?).getLast?

/-- Puts a stamp, if there is one, in the place of a blank one. -/
def fill (stamp : Option (List Char)) (line : String) : String :=
  match stamp? line with
  | none => line
  | some (t, tail) =>
    if Faded t then String.ofList ('[' :: stamp.getD t ++ ']' :: tail) else line

/-- Fills each blank stamp with the nearest one above it that can be read. -/
def refill (lines : List String) : List String :=
  lines.mapIdx fun i line => fill (nearest? (lines.take i)) line

/-- The same for lines with others above them. -/
def refillBelow (above lines : List String) : List String :=
  lines.mapIdx fun i line => fill (nearest? (above ++ lines.take i)) line

theorem refillBelow_nil (lines : List String) : refillBelow [] lines = refill lines := rfl

theorem refillBelow_cons (above : List String) (line : String) (lines : List String) :
    refillBelow above (line :: lines) =
      fill (nearest? above) line :: refillBelow (above ++ [line]) lines := by
  simp [refillBelow, List.mapIdx_cons]

theorem nearest?_concat (above : List String) (line : String) :
    nearest? (above ++ [line]) = (legible? line).or (nearest? above) := by
  rw [nearest?, List.filterMap_append, List.getLast?_append]
  cases h : legible? line <;> simp [h, nearest?]

theorem legible?_of_stamp (h : stamp? line = some (stamp, tail)) (hread : ¬ Faded stamp) :
    legible? line = some stamp := by
  simp [legible?, h, hread]

theorem legible?_blanked (stamp tail : List Char) : legible? (blanked stamp tail) = none := by
  simp [legible?, stamp?_blanked, faded_replicate]

/-- The stamp of a line can be read, if it has one. -/
def Readable (line : String) : Prop := ∀ s ∈ stamp? line, ¬ Faded s.1

instance : DecidablePred Readable :=
  fun line => inferInstanceAs (Decidable (∀ s ∈ stamp? line, ¬ Faded s.1))

/-- What a line shows is remembered, and below a blank one the stamp shown last still is. -/
theorem Blanks.legible?_or (h : Blanks line shown out shown') (hread : Readable line) :
    (legible? out).or shown = shown' := by
  cases h with
  | unstamped h => simp [legible?, h]
  | repeated h => simp [legible?_blanked]
  | anew h hne => simp [legible?_of_stamp h (hread _ h)]

/-- **The stamp shown last is the one that a line has lost.** -/
theorem Blanks.fill_eq (h : Blanks line shown out shown') (hread : Readable line) :
    fill shown out = line := by
  cases h with
  | unstamped h => simp [fill, h]
  | repeated h =>
      simp only [fill, stamp?_blanked, faded_replicate, if_true, Option.getD_some,
        ← (stamp?_eq_some_iff.mp h).1]
      exact String.ofList_toList
  | anew h hne =>
      have hlegible := hread _ h
      simp [fill, h, hlegible]

theorem refillBelow_blankFrom {above : List String} (habove : nearest? above = shown)
    {lines : List String} (hread : ∀ line ∈ lines, Readable line) :
    refillBelow above (blankFrom shown lines) = lines := by
  -- the two sides remember the same stamp: the last one shown is the nearest above the next line
  induction lines generalizing above shown with
  | nil => rfl
  | cons line lines ih =>
      rw [List.forall_mem_cons] at hread
      obtain ⟨out, shown', hout, heq⟩ := exists_blanks shown line lines
      have habove' : nearest? (above ++ [out]) = shown' := by
        rw [nearest?_concat, habove, hout.legible?_or hread.1]
      rw [heq, refillBelow_cons, habove, hout.fill_eq hread.1, ih habove' hread.2]

theorem refill_blankRepeated {lines : List String} (hread : ∀ line ∈ lines, Readable line) :
    refill (blankRepeated lines) = lines := by
  rw [← refillBelow_nil]
  exact refillBelow_blankFrom rfl hread

/-- **Blanking the repeated stamps loses nothing.** Each line keeps its length and the text after
its stamp. Where no stamp is empty or made of spaces, the log comes back when each blank stamp is
filled with the nearest one above it that is not blank. And no two lines with a stamp, one next
after the other, show the same one unless it is blank. -/
theorem blankRepeated_loses_nothing (lines : List String) :
    List.Forall₂ Kept lines (blankRepeated lines) ∧
      ((∀ line ∈ lines, Readable line) → refill (blankRepeated lines) = lines) ∧
      ((blankRepeated lines).filterMap stamp?).IsChain Differ :=
  ⟨forall₂_kept none lines, refill_blankRepeated, isChain_blankRepeated lines⟩

/-- The first stamp comes again below a line without one and then below its own blank. -/
def aroundNoon : List String :=
  ["[12:00] a", "no stamp", "[12:00] b", "[12:00] c", "[12:01] d", "[12:00] e"]

theorem blankRepeated_loses_nothing_around_noon :
    (∀ line ∈ aroundNoon, Readable line) ∧
      blankRepeated aroundNoon =
        ["[12:00] a", "no stamp", "[     ] b", "[     ] c", "[12:01] d", "[12:00] e"] ∧
      refill (blankRepeated aroundNoon) = aroundNoon := by
  have hread : ∀ line ∈ aroundNoon, Readable line := by decide
  exact ⟨hread, by decide, (blankRepeated_loses_nothing aroundNoon).2.1 hread⟩

end CommandShell.Diagnostics
