import CommandShell.Builtin.Basic
import CommandShell.Builtin.Find
import CommandShell.Builtin.Help
import CommandShell.Builtin.Service
import CommandShell.Command.Registry

/-! # The built-in commands -/

namespace CommandShell.Builtin

/-- The built-in commands in the order of their definition. -/
def all : List (Definition Program) :=
  [print, obuffer, commandline, linecount, help, clear, service, findtext]

/-- Defines the built-in commands; one whose names are taken is left out. -/
def defineAll (r : Registry Program) : Registry Program :=
  all.foldl (fun r d => (r.define d).toOption.getD r) r

end CommandShell.Builtin
