import CommandShell.Session.Queue

/-! # The services of a session

Every service can be disabled and enabled by its name. Enabling the engine lets the queue go on. -/

namespace CommandShell.Session

def lifeOf (s : Session) : Service → Lifecycle
  | .output => s.output.life
  | .engine => s.engine.life
  | .registry => s.registry.life
  | .diagnostics => s.log.life
  | .watchdog => s.watchdog.life

def isEnabled (s : Session) (v : Service) : Bool := (s.lifeOf v).enabled

/-- Sets the state of a service; that of the log is set together with its actions. -/
def setLife (s : Session) (v : Service) (l : Lifecycle) : Session :=
  match v with
  | .output => { s with output.life := l }
  | .engine => { s with engine.life := l }
  | .registry => { s with registry.life := l }
  | .diagnostics => { s with log.life := l }
  | .watchdog => { s with watchdog.life := l }

/-- Changes the state of a service, and records the change. -/
def changeLife (s : Session) (v : Service) (step : Lifecycle → Lifecycle) : Session :=
  let before := s.lifeOf v
  let after := step before
  (s.setLife v after).recordAll (before.changes v.title after)

def enable (s : Session) (v : Service) : Session :=
  match v with
  | .engine => s.make .enable
  | v => s.changeLife v .enable

def disable (s : Session) (v : Service) : Session :=
  match v with
  | .engine => s.make .disable
  | v => s.changeLife v .disable

/-- The services by name, and whether they are enabled. -/
def serviceStates (s : Session) : List (String × Bool) :=
  Service.all.map (fun v => (v.name, s.isEnabled v)) ++ s.broken.map fun n => (n, false)

/-- Enables the service of a name. -/
def enableNamed (s : Session) (name : String) : Session × Except Fault Unit :=
  match Service.ofName? name with
  | some v => (s.enable v, .ok ())
  | none => (s, .error (if s.broken.contains name then .cannotEnable else .missing name))

/-- Disables the service of a name. -/
def disableNamed (s : Session) (name : String) : Session × Except Fault Unit :=
  match Service.ofName? name with
  | some v => (s.disable v, .ok ())
  | none => (s, if s.broken.contains name then .ok () else .error (.missing name))

end CommandShell.Session
