import CommandShell.Diagnostics.Compression
import Mathlib.Data.List.Chain

/-!
# The runs of a log

A run is a maximal block of equal lines that follow each other. A list of lines has its runs in one
way only (`runs_eq_of_blocks`). While a log is compressed, each run that is over stands there with
its number, and the last one, whose line may come again, without (`Tally.Stands`); what is shown in
the end is one line for each run (`compress_shows_runs`).
-/

namespace CommandShell.Diagnostics

/-! ## Blocks of equal elements -/

section

variable {α : Type}

/-- The list is made of the blocks, each an element and how often it stands there, and blocks
that follow each other are of different elements. -/
structure Blocks (blocks : List (α × Nat)) (l : List α) : Prop where
  whole : blocks.flatMap (fun b => List.replicate b.2 b.1) = l
  pos : ∀ b ∈ blocks, 0 < b.2
  maximal : blocks.IsChain (fun b c => b.1 ≠ c.1)

theorem Blocks.nil : Blocks ([] : List (α × Nat)) [] := ⟨rfl, by simp, .nil⟩

theorem Blocks.single (x : α) : Blocks [(x, 1)] [x] := ⟨rfl, by simp, .singleton _⟩

theorem Blocks.extend {x : α} {n : Nat} {blocks : List (α × Nat)} {l : List α}
    (h : Blocks ((x, n) :: blocks) l) : Blocks ((x, n + 1) :: blocks) (x :: l) := by
  obtain ⟨rfl, hpos, hmax⟩ := h
  refine ⟨by simp [List.replicate_succ], ?_, ?_⟩
  · simp only [List.forall_mem_cons] at hpos ⊢
    exact ⟨Nat.succ_pos n, hpos.2⟩
  · cases hmax with
    | singleton => exact .singleton _
    | cons_cons hne hmax => exact .cons_cons hne hmax

theorem Blocks.start {x y : α} {n : Nat} {blocks : List (α × Nat)} {l : List α} (hne : x ≠ y)
    (h : Blocks ((y, n) :: blocks) l) : Blocks ((x, 1) :: (y, n) :: blocks) (x :: l) := by
  obtain ⟨rfl, hpos, hmax⟩ := h
  exact ⟨by simp, by simpa using hpos, .cons_cons hne hmax⟩

/-- Read from its end, a list has the same blocks. -/
theorem Blocks.reverse {blocks : List (α × Nat)} {l : List α} (h : Blocks blocks l) :
    Blocks blocks.reverse l.reverse := by
  obtain ⟨rfl, hpos, hmax⟩ := h
  refine ⟨?_, by simpa using hpos, ?_⟩
  · simp [List.reverse_flatMap, Function.comp_def]
  · exact List.isChain_reverse.mpr (hmax.imp fun _ _ hne => hne.symm)

theorem Blocks.mem {blocks : List (α × Nat)} {l : List α} (h : Blocks blocks l) {b : α × Nat}
    (hb : b ∈ blocks) : b.1 ∈ l := by
  rw [← h.whole, List.mem_flatMap]
  exact ⟨b, hb, List.mem_replicate.mpr ⟨(h.pos b hb).ne', rfl⟩⟩

end

/-! ## Runs of lines -/

/-- Puts a line in front of the runs of those behind it. -/
def addToRuns (line : String) : List (String × Nat) → List (String × Nat)
  | [] => [(line, 1)]
  | (first, n) :: rest => if line = first then (first, n + 1) :: rest else (line, 1) :: (first, n) :: rest

/-- The maximal blocks of equal lines, each with its length. -/
def runs : List String → List (String × Nat)
  | [] => []
  | line :: rest => addToRuns line (runs rest)

/-- How a run is shown. -/
def runText (run : String × Nat) : String :=
  if run.2 ≤ 1 then run.1 else s!"{run.1} (x{run.2})"

/-- **The runs of lines are those of what the lines stand for**, where a line tells it. -/
theorem exists_blocks {α : Type} (line : α → String) {l : List α}
    (h : ∀ x ∈ l, ∀ y ∈ l, line x = line y → x = y) :
    ∃ blocks, Blocks blocks l ∧ runs (l.map line) = blocks.map fun b => (line b.1, b.2) := by
  induction l with
  | nil => exact ⟨[], .nil, rfl⟩
  | cons x l ih =>
      obtain ⟨blocks, hblocks, hruns⟩ :=
        ih fun y hy z hz => h y (List.mem_cons_of_mem _ hy) z (List.mem_cons_of_mem _ hz)
      cases blocks with
      | nil =>
          obtain rfl : [] = l := hblocks.whole
          exact ⟨[(x, 1)], .single x, rfl⟩
      | cons b blocks =>
          obtain ⟨y, n⟩ := b
          have hy : y ∈ l := hblocks.mem List.mem_cons_self
          by_cases hsame : line x = line y
          · obtain rfl := h x List.mem_cons_self y (List.mem_cons_of_mem _ hy) hsame
            exact ⟨(x, n + 1) :: blocks, hblocks.extend, by simp [runs, hruns, addToRuns]⟩
          · exact ⟨(x, 1) :: (y, n) :: blocks, hblocks.start fun heq => hsame (heq ▸ rfl),
              by simp [runs, hruns, addToRuns, hsame]⟩

theorem blocks_runs (lines : List String) : Blocks (runs lines) lines := by
  obtain ⟨blocks, hblocks, hruns⟩ := exists_blocks id (l := lines) fun _ _ _ _ h => h
  have hsame : runs lines = blocks := by simpa using hruns
  exact hsame ▸ hblocks

/-- Copies of a line in front of a run of another one are a run of their own. -/
theorem runs_replicate_append {line : String} {rest : List String}
    (h : ∀ run ∈ (runs rest).head?, line ≠ run.1) (n : Nat) :
    runs (List.replicate (n + 1) line ++ rest) = (line, n + 1) :: runs rest := by
  induction n with
  | zero =>
      cases hruns : runs rest with
      | nil => simp [runs, hruns, addToRuns]
      | cons run others =>
          have hne : line ≠ run.1 := h run (by simp [hruns])
          simp [runs, hruns, addToRuns, hne]
  | succ n ih =>
      rw [List.replicate_succ, List.cons_append, runs, ih]
      simp [addToRuns]

/-- **A list of lines has its runs in one way only.** -/
theorem runs_eq_of_blocks {blocks : List (String × Nat)} {lines : List String}
    (h : Blocks blocks lines) : runs lines = blocks := by
  induction blocks generalizing lines with
  | nil =>
      obtain rfl : [] = lines := h.whole
      rfl
  | cons b blocks ih =>
      obtain ⟨line, n⟩ := b
      obtain ⟨rfl, hpos, hmax⟩ := h
      rw [List.forall_mem_cons] at hpos
      rw [List.isChain_cons] at hmax
      have hrest := ih ⟨rfl, hpos.2, hmax.2⟩
      obtain ⟨m, rfl⟩ := Nat.exists_eq_add_one.mpr hpos.1
      rw [List.flatMap_cons, runs_replicate_append (by rw [hrest]; exact hmax.1), hrest]

/-! ## Counting while the lines come -/

namespace Tally

/-- What is shown of the lines so far, given their runs, the last one first: the last line stands
as it came, and each line below it is that of a run that is over. -/
inductive Stands : Tally → List (String × Nat) → Prop
  | fresh : Stands {} []
  | during (line : String) (n : Nat) (ended : List (String × Nat)) :
      Stands ⟨line :: ended.map runText, some line, n + 1⟩ ((line, n + 1) :: ended)

variable {t : Tally} {blocks : List (String × Nat)} {seen : List String}

theorem close_of_stands (h : Stands t blocks) : t.close = blocks.map runText := by
  cases h with
  | fresh => rfl
  | during line n ended => cases n <;> simp [close, runText]

/-- One more line belongs to the last run, or it starts a run and the last one is over. -/
theorem stands_take (h : Stands t blocks) (hseen : Blocks blocks seen) (line : String) :
    ∃ blocks', Stands (t.take line) blocks' ∧ Blocks blocks' (line :: seen) := by
  have hclose := close_of_stands h
  cases h with
  | fresh =>
      obtain rfl : [] = seen := hseen.whole
      exact ⟨[(line, 1)], .during line 0 [], .single line⟩
  | during last n ended =>
      by_cases hsame : last = line
      · -- the line is counted, and what is shown stays as it is
        subst hsame
        refine ⟨(last, n + 2) :: ended, ?_, hseen.extend⟩
        simpa [take] using Stands.during last (n + 1) ended
      · -- the run is over, and its number is written before the line is shown
        refine ⟨(line, 1) :: (last, n + 1) :: ended, ?_, hseen.start (Ne.symm hsame)⟩
        simpa [take, hsame, hclose] using Stands.during line 0 ((last, n + 1) :: ended)

theorem stands_foldl (h : Stands t blocks) (hseen : Blocks blocks seen) (lines : List String) :
    ∃ blocks', Stands (lines.foldl take t) blocks' ∧ Blocks blocks' (lines.reverse ++ seen) := by
  induction lines generalizing t blocks seen with
  | nil => exact ⟨blocks, h, hseen⟩
  | cons line lines ih =>
      obtain ⟨blocks', hstands, hblocks⟩ := stands_take h hseen line
      simpa using ih hstands hblocks

end Tally

theorem compress_eq_map_runs (lines : List String) : compress lines = (runs lines).map runText := by
  obtain ⟨blocks, hstands, hblocks⟩ := Tally.stands_foldl .fresh .nil lines
  have hruns : runs lines = blocks.reverse := runs_eq_of_blocks (by simpa using hblocks.reverse)
  rw [compress, Tally.close_of_stands hstands, hruns, List.map_reverse]

/-- **Each run is shown by one line.** The runs are the one way to take the lines apart into
blocks of equal lines of which no two that follow each other are of the same line. Each is shown,
in order, by its line, behind which stands its length if this is not one, whatever the line
looks like; and the lines come back where as many copies stand for what is shown. -/
theorem compress_shows_runs (lines : List String) :
    (∀ blocks, Blocks blocks lines ↔ blocks = runs lines) ∧
      compress lines = (runs lines).map (fun run =>
        if run.2 = 1 then run.1 else run.1 ++ " (x" ++ toString run.2 ++ ")") ∧
      ((compress lines).zip (runs lines)).flatMap (fun p => List.replicate p.2.2 p.2.1) = lines := by
  have hblocks := blocks_runs lines
  have hcompress := compress_eq_map_runs lines
  refine ⟨fun blocks => ⟨fun h => (runs_eq_of_blocks h).symm, fun h => h ▸ hblocks⟩, ?_, ?_⟩
  · rw [hcompress]
    refine List.map_congr_left fun run hrun => ?_
    have hpos : 0 < run.2 := hblocks.pos run hrun
    by_cases hone : run.2 = 1
    · simp [runText, hone]
    · have hmore : ¬ run.2 ≤ 1 := by omega
      simp [runText, hone, hmore, toString]
  · have hlength : (runs lines).length ≤ (compress lines).length := by
      rw [hcompress, List.length_map]
    calc ((compress lines).zip (runs lines)).flatMap (fun p => List.replicate p.2.2 p.2.1)
        = (((compress lines).zip (runs lines)).map Prod.snd).flatMap
            (fun run => List.replicate run.2 run.1) := by rw [List.flatMap_map]
      _ = (runs lines).flatMap (fun run => List.replicate run.2 run.1) := by
            rw [List.map_snd_zip hlength]
      _ = lines := hblocks.whole

/-- What is shown does not tell the runs: a line may look as if it were a run. -/
example : compress ["a (x2)", "a", "a", "a (x2)"] = ["a (x2)", "a (x2)", "a (x2)"] := by decide

end CommandShell.Diagnostics
