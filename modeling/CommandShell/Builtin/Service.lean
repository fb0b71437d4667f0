import CommandShell.Engine.Handler
import CommandShell.Service
import CommandShell.Text.Case

/-! # The command for services

`service` lists the services, enables and disables them, and shows the diagnostics log. Services
without which the shell cannot go on are disabled only upon confirmation. -/

namespace CommandShell.Builtin

/-- The services that are not disabled without confirmation. -/
def guarded : List CommandShell.Service := [.engine, .registry, .watchdog]

def logs (v : Invocation) : Handler :=
  let dump : Handler := .ask .logLines fun
    | .ok lines => .done (.lines (lines.map fun l => .plain l))
    | .error f => .fail (.fault f)
  if v.isSet "clear" then .afterwards .clearLog dump else dump

def listServices : Handler :=
  .ask .services fun (states : List (String × Bool)) =>
    .done (.lines (states.map fun (name, enabled) =>
      .plain (s!"{name}: " ++ if enabled then "enabled" else "disabled")))

/-- Disables the service with the key, or does not for want of confirmation. -/
def disable (v : Invocation) (requested key : String) : Handler :=
  if guarded.any (·.name == key) && !v.isSet "confirm" then
    .done (.error (s!"The \"{requested}\" service is critical for the operation of the shell. "
      ++ "Use --confirm flag to confirm that you want to disable it."))
  else .ask (.disable key) fun result =>
    .unlessFault result (.done (.single (.plain s!"Disabled {requested} service")))

def toggle (v : Invocation) (enable : Bool) : Handler :=
  match (v.arg? 1).filter (· ≠ "") with
  | none => .done (.error "Service name is required for enable/disable action")
  | some requested =>
    let key := Text.lower requested
    .ask .services fun (states : List (String × Bool)) =>
      let names := states.map (·.1)
      if !names.contains key then
        .done (.error (s!"Unknown service: \"{requested}\". Valid services are: "
          ++ ", ".intercalate names))
      else if enable then
        .ask (.enable key) fun result =>
          .unlessFault result (.done (.single (.plain s!"Enabled {requested} service")))
      else disable v requested key

def serviceHandler (v : Invocation) : Handler :=
  match v.arg? 0 with
  | some "logs" => logs v
  | some "list" => listServices
  | action => toggle v (action == some "enable")

def service : Definition Program where
  name := "service"
  description := "Lists all available services and their status"
  handler := serviceHandler
  schema := [
    { kind := .positional, name := "action", required := true
      allowed := some ["list", "enable", "disable", "logs"]
      description := "The action to perform" },
    { kind := .positional, name := "service"
      description := "The service to enable/disable (required for enable/disable action)" },
    { kind := .flag, name := "confirm", datatype := some .boolean
      description := "Some services are critical for the operation of the shell. "
        ++ "Use this flag to confirm that you want to disable such services" },
    { kind := .flag, name := "clear", shortName := some "c", datatype := some .boolean
      description := "Clear the log before doing anything." }]

end CommandShell.Builtin
