import CommandShell.Session.Delay
import CommandShell.Session.Services

/-! # The watchdog

The watchdog enables critical services that it finds disabled. It throws away the output that waits,
tells the user, and opens a prompt. A look that fails is reported, and the next one comes all the
same. -/

namespace CommandShell.Session

/-- What the user is told about a service that was enabled. -/
def recoveryMessage (name : String) : String := s!"Enabling {name} service to prevent bricking."

/-- What follows upon enabling a critical service. -/
def recovered (s : Session) (name : String) : Session :=
  let s := s.clearOutput
  let s := if s.surface.isSome then s.render (.status (recoveryMessage name)) else s
  (s.record .watchdog s!"recover {name}").report .watchdog .warning "critical service re-enabled"
    [("service", .str name)]

/-- Looks at one service; true if it was enabled. -/
def checkService (s : Session) (critical : Value) : Session × Except Fault Bool :=
  match critical with
  | .str name =>
    match (Service.ofName? name).filter (s.watched.contains ·) with
    | some v =>
      if s.isEnabled v then (s, .ok false) else ((s.enable v).recovered name, .ok true)
    | none => (s, if s.broken.contains name then .error .cannotEnable else .ok false)
  | .list _ | .map _ => (s, .error (.type s!"unhashable type: \x27{critical.typeName}\x27"))
  | _ => (s, .ok false)

/-- Looks at services in order; the names of those that were enabled, or the fault that a look ends
with. -/
def checkServices (s : Session) : List Value → Session × Except Fault (List String)
  | [] => (s, .ok [])
  | v :: vs =>
    match s.checkService v with
    | (s, .error f) => (s, .error f)
    | (s, .ok enabled) =>
      let (s, more) := checkServices s vs
      match enabled, v with
      | true, .str name => (s, more.map (name :: ·))
      | _, _ => (s, more)

/-- Looks at the critical services, unless the watchdog is disabled. -/
def check (s : Session) : Session × Except Fault (List String) :=
  if !s.isEnabled .watchdog then (s, .ok [])
  else
    match s.checkServices s.watchdog.critical with
    | (s, .ok names) => (if names.isEmpty then s else s.requestPrompt, .ok names)
    | (s, .error f) => (s, .error f)

/-- The watchdog waits for its next look. An interval that is none ends it. -/
def arm (s : Session) : Session :=
  if !s.watchdog.started then s
  else
    match Delay.ofNumber? s.watchdog.interval with
    | some (.ok (.millis q)) => { s with timers := s.timers ++ [⟨s.now + q, .watch⟩] }
    | some (.ok .none) => { s with ready := s.ready ++ [.watch] }
    | some (.ok .forever) => s
    | some (.error _) | none => { s with watchdog.started := false }

/-- The watchdog looks around, and waits for its next look. -/
def watch (s : Session) : Session :=
  match s.check with
  | (s, .ok _) => s.arm
  | (s, .error f) =>
    (s.report .watchdog .error "watchdog check failed"
      [("error", (f.toProblem none).toValue)]).arm

def startWatch (s : Session) : Session :=
  if s.watchdog.started then s
  else { s with watchdog.started := true, ready := s.ready ++ [.arm] }

def stopWatch (s : Session) : Session :=
  let kept (job : Job) : Bool := job ≠ .watch && job ≠ .arm
  { s with
    watchdog.started := false
    ready := s.ready.filter kept
    timers := s.timers.filter fun t => kept t.job }

/-- The watchdog starts, and a prompt is opened. -/
def start (s : Session) : Session := s.startWatch.requestPrompt

end CommandShell.Session
