import CommandShell.Builtin.All
import CommandShell.Command.Verification
import CommandShell.Session.Schedule
import CommandShell.Session.Settings

/-! # Building a session

A session is built from its settings: the services are initialised in order, the built-in commands are
defined, and those that the settings name are registered. Further commands may follow. -/

namespace CommandShell.Session

/-- Initialises the services. -/
def initAll (s : Session) (order : List Service) : Session :=
  order.foldl (fun s v => s.changeLife v .init) s

/-- Checks the definition of a command; one that has a defect is reported to the user. -/
def validate (s : Session) (name : String) : Session :=
  match s.onRegistry (s.registry.validate name) with
  | (s, .error (.defect p)) =>
    let s := s.render (.error p.message)
    let s := { s with context := s.context.map (Context.warn · Service.registry.name p.message) }
    s.report .registry .warning p.message [("command", .str name)]
  | (s, _) => s

/-- Defines a command and, if it is wished, registers and checks it. -/
def define (s : Session) (d : Definition Program) (register : Bool) :
    Session × Except DefineFault Unit :=
  match s.registry.define d with
  | .error f => (s, .error f)
  | .ok registry =>
    let s := { s with registry }
    (if register then (s.register d.name).1.validate d.name else s, .ok ())

/-- The names that values stand for, each of which has to be that of a defined command. -/
def commandNames (r : Registry Program) : List Value → Except Fault (List String)
  | [] => .ok []
  | .scalar v :: rest =>
    if r.groups.has v.text then (commandNames r rest).map (v.text :: ·)
    else .error (.ofUnknown ⟨"register", v.text⟩)
  | v :: _ => .error (.type s!"unhashable type: \x27{v.typeName}\x27")

/-- Builds a session. -/
def build (settings : Settings) (name : String) (clock : Clock) (reports canClear : Bool) :
    Except Fault Session := do
  let s : Session := {
    log := { clock }
    engine := { stepDelay := settings.stepDelay, historyLimit := settings.historyLimit }
    watchdog := { critical := settings.critical, interval := settings.interval }
    context := some { session := name, config := settings.config, eventLimit := settings.eventLimit }
    surface := some { limit := settings.transcriptLimit, canClear }
    faults := if reports then some [] else none }
  let s := s.initAll [.diagnostics]
  let s := if settings.diagnostics then s else s.disable .diagnostics
  let s := s.initAll [.output, .registry, .engine, .watchdog]
  let s := if settings.watchdog then s else s.disable .watchdog
  let s := { s with registry := Builtin.defineAll s.registry }
  let names ← commandNames s.registry settings.registered
  let (s, _) := s.onRegistry (s.registry.bulkRegister names)
  return names.foldl validate s

/-- A session without surface and context, of which the watchdog knows the first services only. -/
def bare (critical : List Value) (reports : Bool) : Session :=
  let s : Session := {
    watchdog := { critical }
    watched := [.output, .engine, .registry]
    faults := if reports then some [] else none }
  s.initAll [.diagnostics, .output, .registry, .engine, .watchdog]

end CommandShell.Session
