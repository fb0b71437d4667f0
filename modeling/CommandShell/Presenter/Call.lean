import CommandShell.Line
import CommandShell.Markup.Mark

/-! # What a presenter is asked to do

A presenter shows lines, opens a prompt and clears its surface. A stream of text is one presenter:
what it writes is a function of the calls. -/

namespace CommandShell.Presenter

inductive Call where
  | render (line : Line)
  | prompt
  | clear
deriving DecidableEq, Repr

/-- A text behind the label that goes with it. -/
def labelled (label content : String) : String :=
  (if label.isEmpty then "" else label ++ " ") ++ content ++ "\n"

/-- What a stream writes for a line. -/
def lineText (line : Line) : Except Numeral.Fault String :=
  match line.kind with
  | .line => .ok (labelled line.label line.content)
  | .error => .ok (labelled "ERROR" line.content)
  | .status => .ok (labelled "STATUS" line.content)
  | .markup => do
    let text ← Markup.render Markup.brackets.1 Markup.brackets.2 line.content.toList
    return labelled line.label (String.ofList text)

/-- What a stream writes for a call; `mark` stands at a prompt. -/
def Call.text (mark : String) : Call → Except Numeral.Fault String
  | .render line => lineText line
  | .prompt => .ok (mark ++ " ")
  | .clear => .ok "\n"

/-- Everything that a stream writes. -/
def streamText (mark : String) (calls : List Call) : Except Numeral.Fault String :=
  return String.join (← calls.mapM (Call.text mark))

/-- The number of prompts that were opened. -/
def promptCount (calls : List Call) : Nat := calls.countP (· == .prompt)

end CommandShell.Presenter
