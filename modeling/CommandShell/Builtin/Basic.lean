import CommandShell.Engine.Handler

/-! # Commands for output

`print` and `linecount` make lines, `clear` clears everything that was or will be shown. The two hidden
commands follow every line of the user: one shows the output, the other opens a prompt. -/

namespace CommandShell.Builtin

open Handler (afterwards)

def print : Definition Program where
  name := "print"
  description := "Prints the provided arguments to the console"
  handler v := .done (.single (.plain ((v.arg? 0).getD "") ((v.arg? 1).getD "")))
  schema := [
    { kind := .positional, name := "text", required := true, pipeableFrom := some "text"
      description := "The text to print" },
    { kind := .positional, name := "loc_label"
      description := "The text to show in the location part of the line" }]

def obuffer : Definition Program where
  name := "obuffer"
  description := "Outputs the current output buffer"
  handler _ := afterwards .flush (.done .nothing)
  hidden := true

def commandline : Definition Program where
  name := "commandline"
  description := "Outputs a new command line for input"
  handler _ := afterwards .prompt (.done .nothing)
  hidden := true

/-- Counts the lines that come in, or else those that were shown. -/
def countLines (v : Invocation) : Handler :=
  let count (lines : List Line) : Handler := .done (.single (.plain (toString lines.length)))
  match v.pipe with
  | some lines => count lines
  | none => .ask .transcript count

def linecount : Definition Program where
  name := "linecount"
  description := "Outputs the number of lines"
  handler := countLines
  otherName := some "lc"

def clear : Definition Program where
  name := "clear"
  description := "Clears the output buffer and the console"
  handler _ := afterwards .clearOutput (afterwards .clearSurface (.done .nothing))
  otherName := some "cls"

end CommandShell.Builtin
