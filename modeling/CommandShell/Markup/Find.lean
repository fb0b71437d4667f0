import CommandShell.Line
import CommandShell.Markup.Mark

/-! # Finding lines

`findLines` keeps the lines whose visible text has a match, each as a marked line with the matches
highlighted. -/

namespace CommandShell

/-- The text that a line shows. -/
def Line.visible (line : Line) : Except Numeral.Fault (List Char) :=
  match line.kind with
  | .markup => Markup.strip line.content.toList
  | _ => .ok line.content.toList

namespace Markup

open Pattern (Tree)

/-- The marked line for a line with a match, and nothing for one without. -/
def findLine? (pattern : Tree) (line : Line) : Except Numeral.Fault (Option Line) := do
  let text ← line.visible
  if pattern.occursIn text then
    return some (.markup (String.ofList (highlight pattern text)) line.label)
  else return none

/-- The lines whose visible text has a match, with the matches marked. -/
def findLines (pattern : Tree) : List Line → Except Numeral.Fault (List Line)
  | [] => .ok []
  | line :: lines => do
    let found ← findLine? pattern line
    let more ← findLines pattern lines
    return found.toList ++ more

end Markup

end CommandShell
