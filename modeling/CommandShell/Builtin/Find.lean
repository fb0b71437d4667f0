import CommandShell.Engine.Handler
import CommandShell.Markup.Find
import CommandShell.Pattern.Reader

/-! # The command for finding text

`findtext` keeps the lines in which a text or a pattern is found, with what was found marked. -/

namespace CommandShell.Builtin

open Pattern (Tree)

/-- The failure to read a pattern. Most of them are told to the user. -/
def patternFailure (needle : String) : Pattern.Fault → Handler
  | .malformed => .done (.error s!"Invalid regular expression: \"{needle}\"")
  | .tooManyTimes => .fail (.fault (.overflow Pattern.Fault.tooManyTimes.message))
  | f => .fail (.fault (.value f.message))

/-- The lines in which a pattern is found. -/
def findIn (pattern : Tree) (lines : List Line) : Handler :=
  match Markup.findLines pattern lines with
  | .ok found => .done (.lines found)
  | .error f => .fail (.fault (.value f.message))

/-- The text to look for. -/
def needle (v : Invocation) : String := (v.arg? 0).getD ""

/-- The pattern to look for, if it can be read. -/
def sought (v : Invocation) : Except Pattern.Fault Tree :=
  let ignoreCase := v.isSet "ignorecase"
  if v.isSet "regex" then Tree.read ignoreCase (needle v).toList
  else .ok (Tree.literal ignoreCase (needle v).toList)

/-- Looks through the lines that come in, or else those that were shown. -/
def findHandler (v : Invocation) : Handler :=
  match sought v with
  | .error f => patternFailure (needle v) f
  | .ok pattern =>
    match v.pipe with
    | some lines => findIn pattern lines
    | none => .ask .transcript (findIn pattern)

def findtext : Definition Program where
  name := "findtext"
  description := "Finds lines containing the given text and highlights the matches"
  handler := findHandler
  otherName := some "find"
  schema := [
    { kind := .positional, name := "text", required := true, pipeableFrom := some "text"
      description := "The text (or regular expression) to search for" },
    { kind := .flag, name := "ignorecase", shortName := some "i", datatype := some .boolean
      description := "Case-insensitive search" },
    { kind := .flag, name := "regex", shortName := some "r", datatype := some .boolean
      description := "Treat the text as a regular expression" }]

end CommandShell.Builtin
