import CommandShell.Command.Help
import CommandShell.Session.Services

/-! # Replies to handlers

What a session does when a handler asks for something, and the reply. -/

namespace CommandShell

namespace Fault

/-- A name is asked for that no command has. -/
def ofUnknown (u : UnknownCommand) : Fault := ⟨"UnknownCommandError", u.message⟩

/-- A command cannot be defined. -/
def ofDefine (f : DefineFault) : Fault :=
  match f with
  | .blankName => .value f.message
  | .duplicate _ => ⟨"DuplicateCommandError", f.message⟩

/-- A time cannot be shown. -/
def ofStamp (f : Diagnostics.StampFault) : Fault :=
  match f with
  | .moment (.year _) => .value f.message
  | .moment .calendar => ⟨"OSError", f.message⟩
  | .moment _ => .overflow f.message
  | .format _ => .type f.message

end Fault

/-- A definition without its handler. -/
def Definition.described {η : Type} (d : Definition η) : Definition Unit :=
  { name := d.name, handler := (), description := d.description, schema := d.schema,
    hidden := d.hidden, otherName := d.otherName, aliasOf := d.aliasOf }

namespace Session

/-- Takes over what an operation on the registry leaves behind. -/
def onRegistry {ρ : Type} (s : Session) (step : Registry.Step Program ρ) : Session × ρ :=
  ({ s with registry := step.registry }.recordAll step.actions, step.result)

def register (s : Session) (name : String) : Session × Except UnknownCommand Unit :=
  s.onRegistry (s.registry.register name)

def unregister (s : Session) (name : String) : Session × Except UnknownCommand Unit :=
  s.onRegistry (s.registry.unregister name)

/-- The interruption that the running chain has to heed. -/
def interruption? (s : Session) : Option Refusal :=
  s.engine.run.bind fun r => r.token.interruption?

/-- The value of a setting, where a session has a configuration. -/
def setting (s : Session) (part key : String) (fallback : Value) : Value :=
  s.context.elim fallback fun c => c.config.setting part key fallback

/-- The lines of the log in the format of the settings. -/
def logLines (s : Session) : Except Fault (List String) :=
  let format := s.setting "diagnostics" "timestamp_format" (.str Diagnostics.defaultFormat)
  (s.log.dump format).mapError .ofStamp

/-- Does what a handler asks for. -/
def reply (s : Session) : (r : Request) → Session × r.Reply
  | .note v => (s.note v, ())
  | .interruption => (s, s.interruption?)
  | .submit text => (s.submit text, ())
  | .call c => (s.call c, ())
  | .enable name => s.enableNamed name
  | .disable name => s.disableNamed name
  | .register name =>
    let (s, result) := s.register name
    (s, result.mapError .ofUnknown)
  | .unregister name =>
    let (s, result) := s.unregister name
    (s, result.mapError .ofUnknown)
  | .render line => (s.render line, ())
  | .addHook hook => (s.addHook hook, ())
  | .flush => (s.flush, ())
  | .clearOutput => (s.clearOutput, ())
  | .clearSurface => (s.clearSurface, ())
  | .prompt => (s.requestPrompt, ())
  | .transcript => (s, s.transcript)
  | .services => (s, s.serviceStates)
  | .definition name =>
    let (s, d) := s.onRegistry (s.registry.lookup name)
    (s, d.map Definition.described)
  | .commandList withAliases => (s, s.registry.listCommands withAliases)
  | .clearLog => ({ s with log := s.log.clear }, ())
  | .logLines => (s, s.logLines)

end Session

end CommandShell
