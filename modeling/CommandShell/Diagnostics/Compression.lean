/-! # Compressing a log

For display, equal lines that follow each other become one line with their number, and a time that is
the same as the last one shown becomes blank. -/

namespace CommandShell.Diagnostics

/-- The lines shown so far, the last one first, and the line that came last with how often it has come
in a row. Its number is not written before another line comes or the log ends. -/
structure Tally where
  shown : List String := []
  previous : Option String := none
  count : Nat := 0

namespace Tally

/-- The lines shown once the number stands behind the last one, if there were several. -/
def close (t : Tally) : List String :=
  if 1 < t.count then t.shown.modifyHead fun line => s!"{line} (x{t.count})" else t.shown

/-- One more line comes: it is counted, or it is shown and its count starts. -/
def take (t : Tally) (line : String) : Tally :=
  if t.count ≠ 0 ∧ t.previous = some line then { t with count := t.count + 1 }
  else { shown := line :: t.close, previous := some line, count := 1 }

end Tally

/-- One line for each run of equal ones. -/
def compress (lines : List String) : List String := (lines.foldl Tally.take {}).close.reverse

/-- The text between the bracket that starts a line and the first closing one, and what follows that
one. -/
def stamp? (line : String) : Option (List Char × List Char) :=
  match line.toList with
  | '[' :: r =>
    match r.dropWhile (· ≠ ']') with
    | ']' :: rest => some (r.takeWhile (· ≠ ']'), rest)
    | _ => none
  | _ => none

/-- A line with spaces in place of its stamp. -/
def blanked (stamp rest : List Char) : String :=
  String.ofList ('[' :: List.replicate stamp.length ' ' ++ ']' :: rest)

/-- Blanks each stamp that is the last one shown; lines without a stamp stay as they are. -/
def blankFrom (shown : Option (List Char)) : List String → List String
  | [] => []
  | line :: rest =>
    match stamp? line with
    | none => line :: blankFrom shown rest
    | some (stamp, tail) =>
      if shown = some stamp then blanked stamp tail :: blankFrom shown rest
      else line :: blankFrom (some stamp) rest

/-- Blanks the stamps that repeat the one before them. -/
def blankRepeated (lines : List String) : List String := blankFrom none lines

end CommandShell.Diagnostics
