import CommandShell.Command.Help
import CommandShell.Engine.Handler

/-! # Help

`help` lists the commands, or shows how one of them is called. -/

namespace CommandShell.Builtin

/-- The lines about a command, asked for by one of its names. -/
def helpOn (v : Invocation) (requested : String) : Option (Definition Unit) → Outcome
  | none => .error s!"Unknown command: \"{requested}\""
  | some d =>
    let name := (d.aliasOf.filter (· ≠ "")).getD requested
    let texts :=
      if v.isSet "verbose" then d.describe name else [d.usage name, orNoDescription d.description]
    .lines (texts.map fun t => .plain t)

def helpHandler (v : Invocation) : Handler :=
  match (v.arg? 0).filter (· ≠ "") with
  | some requested => .ask (.definition requested) fun d => .done (helpOn v requested d)
  | none =>
    .ask (.commandList (v.isSet "aliases")) fun (names : List String) =>
      .done (.lines [.plain "Available commands:", .plain (", ".intercalate names)])

def help : Definition Program where
  name := "help"
  description :=
    "Lists all available commands. To get help with a specific command, use \"help commandname\""
  handler := helpHandler
  schema := [
    { kind := .flag, name := "aliases", shortName := some "a", datatype := some .boolean
      description := "Show command aliases in list" },
    { kind := .positional, name := "command"
      description := "The command to get help for" },
    { kind := .flag, name := "verbose", shortName := some "v", datatype := some .boolean
      description := "Show detailed help information for each command" }]

end CommandShell.Builtin
