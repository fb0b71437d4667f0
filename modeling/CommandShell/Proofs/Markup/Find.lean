import CommandShell.Markup.Find
import CommandShell.Proofs.Markup.Mark

/-!
# Finding lines filters them by what they show

A line shows a text under its label (`Line.face`). What is found in some lines are those that
a pattern occurs in, under the same labels and with the same texts (`faces_findLines`), so
what is found in what was found are the lines that both patterns occur in, and to look for
the same once more changes nothing (`findLines_filters`).

A line of marked text shows nothing where it refers to a character by too long a number, and
then nothing is found at all; every other line shows something (`Line.exists_visible`).
-/

namespace CommandShell

open Pattern (Tree)

/-- What a line shows and the label under which it shows it. -/
def Line.face (line : Line) : Except Numeral.Fault (String × List Char) :=
  line.visible.map (line.label, ·)

/-- What lines show, as far as all of them show something. -/
def Line.faces (lines : List Line) : Except Numeral.Fault (List (String × List Char)) :=
  lines.mapM Line.face

theorem Line.faces_cons (line : Line) (lines : List Line) :
    Line.faces (line :: lines) = (do
      let face ← line.face
      let more ← Line.faces lines
      return face :: more) :=
  List.mapM_cons

/-- A line shows something unless it has marked text with a reference by too long a number. -/
theorem Line.exists_visible {line : Line} (h : line.kind = .markup →
    Markup.Reference.Readable (Markup.replaceMarks [] [] 0 line.content.toList)) :
    ∃ text, line.visible = .ok text := by
  unfold Line.visible
  split
  · rename_i hkind
    exact (h hkind).exists_decode
  · exact ⟨_, rfl⟩

namespace Markup

/-! ## Lines that are found -/

/-- The line that stands for one with a match. -/
def foundLine (pattern : Tree) (face : String × List Char) : Line :=
  .markup (String.ofList (highlight pattern face.2)) face.1

/-- A line that was found shows what the line showed that it stands for. -/
theorem face_foundLine (pattern : Tree) (face : String × List Char) :
    (foundLine pattern face).face = .ok face := by
  simp [Line.face, Line.visible, foundLine, Line.markup, strip_highlight, Except.map]

theorem faces_foundLines (pattern : Tree) (faces : List (String × List Char)) :
    Line.faces (faces.map (foundLine pattern)) = .ok faces := by
  induction faces with
  | nil => rfl
  | cons face faces ih =>
      rw [List.map_cons, Line.faces_cons, face_foundLine, ih]
      rfl

theorem findLine?_eq (pattern : Tree) (line : Line) :
    findLine? pattern line = line.face.map fun face =>
      if pattern.occursIn face.2 then some (foundLine pattern face) else none := by
  rw [findLine?, Line.face]
  cases line.visible with
  | error f => rfl
  | ok text =>
      change (if pattern.occursIn text = true then _ else _) = Except.ok (if _ then _ else _)
      split <;> rfl

/-- **To find lines is to filter what they show.** -/
theorem findLines_eq (pattern : Tree) (lines : List Line) :
    findLines pattern lines = (Line.faces lines).map fun faces =>
      (faces.filter fun face => pattern.occursIn face.2).map (foundLine pattern) := by
  induction lines with
  | nil => rfl
  | cons line lines ih =>
      rw [findLines, findLine?_eq, ih, Line.faces_cons]
      cases line.face with
      | error f => rfl
      | ok face =>
          cases Line.faces lines with
          | error f => rfl
          | ok faces =>
              change Except.ok (Option.toList (if _ then _ else _) ++ _) =
                Except.ok (List.map _ (List.filter _ (face :: faces)))
              rw [List.filter_cons]
              split <;> rfl

theorem exists_faces_iff (lines : List Line) :
    (∃ faces, Line.faces lines = .ok faces) ↔ ∀ line ∈ lines, ∃ text, line.visible = .ok text := by
  induction lines with
  | nil => exact iff_of_true ⟨[], rfl⟩ fun _ h => (nomatch h)
  | cons line lines ih =>
      rw [List.forall_mem_cons, ← ih, Line.faces_cons, Line.face]
      cases line.visible with
      | error f => exact iff_of_false (fun ⟨_, h⟩ => nomatch h) fun ⟨⟨_, h⟩, _⟩ => nomatch h
      | ok text =>
          cases Line.faces lines with
          | error f => exact iff_of_false (fun ⟨_, h⟩ => nomatch h) fun ⟨_, _, h⟩ => nomatch h
          | ok faces => exact iff_of_true ⟨_, rfl⟩ ⟨⟨_, rfl⟩, _, rfl⟩

theorem exists_findLines_iff (pattern : Tree) (lines : List Line) :
    (∃ found, findLines pattern lines = .ok found) ↔
      ∀ line ∈ lines, ∃ text, line.visible = .ok text := by
  rw [← exists_faces_iff, findLines_eq]
  cases Line.faces lines with
  | error f => exact iff_of_false (fun ⟨_, h⟩ => nomatch h) fun ⟨_, h⟩ => nomatch h
  | ok faces => exact iff_of_true ⟨_, rfl⟩ ⟨_, rfl⟩

theorem kind_of_findLines {pattern : Tree} {lines found : List Line}
    (h : findLines pattern lines = .ok found) {line : Line} (hline : line ∈ found) :
    line.kind = .markup := by
  rw [findLines_eq] at h
  cases hfaces : Line.faces lines with
  | error f => rw [hfaces] at h; cases h
  | ok faces =>
      rw [hfaces] at h
      cases h
      obtain ⟨face, -, rfl⟩ := List.mem_map.mp hline
      rfl

/-- What was found shows what was kept. -/
theorem faces_findLines (pattern : Tree) (lines : List Line) :
    (findLines pattern lines >>= Line.faces) =
      (Line.faces lines).map (·.filter fun face => pattern.occursIn face.2) := by
  rw [findLines_eq]
  cases Line.faces lines with
  | error f => rfl
  | ok faces => exact faces_foundLines pattern _

/-- What is found in what was found are the lines that both patterns occur in, with the matches of
the second one marked. -/
theorem findLines_findLines (p q : Tree) (lines : List Line) :
    (findLines p lines >>= findLines q) = (Line.faces lines).map fun faces =>
      (faces.filter fun face => p.occursIn face.2 && q.occursIn face.2).map (foundLine q) := by
  rw [findLines_eq]
  cases Line.faces lines with
  | error f => rfl
  | ok faces =>
      have hagain := findLines_eq q ((faces.filter fun face => p.occursIn face.2).map (foundLine p))
      rw [faces_foundLines] at hagain
      have hboth :
          (faces.filter fun face => p.occursIn face.2).filter (fun face => q.occursIn face.2) =
            faces.filter fun face => p.occursIn face.2 && q.occursIn face.2 := by
        rw [List.filter_filter]
        exact List.filter_congr fun face _ => Bool.and_comm _ _
      rw [Except.map, hboth] at hagain
      exact hagain

/-- **What is found in lines are the lines that the pattern occurs in.** There is a result just
when all lines show something. It has marked lines only, and they show what the lines show
that the pattern occurs in, in order and under the same labels. What is found in it shows what
the lines show that both patterns occur in, and to look for the same again finds just the
same. -/
theorem findLines_filters (p q : Tree) (lines : List Line) :
    ((∃ found, findLines p lines = .ok found) ↔
        ∀ line ∈ lines, ∃ text, line.visible = .ok text) ∧
      (∀ found, findLines p lines = .ok found → ∀ line ∈ found, line.kind = .markup) ∧
      (findLines p lines >>= Line.faces) =
        (Line.faces lines).map (·.filter fun face => p.occursIn face.2) ∧
      ((findLines p lines >>= findLines q) >>= Line.faces) =
        (Line.faces lines).map (·.filter fun face => p.occursIn face.2 && q.occursIn face.2) ∧
      (findLines p lines >>= findLines p) = findLines p lines := by
  refine ⟨exists_findLines_iff p lines, fun found h line hline => kind_of_findLines h hline,
    faces_findLines p lines, ?_, ?_⟩
  · rw [findLines_findLines]
    cases Line.faces lines with
    | error f => rfl
    | ok faces => exact faces_foundLines q _
  · rw [findLines_findLines, findLines_eq]
    simp only [Bool.and_self]

end Markup

end CommandShell
