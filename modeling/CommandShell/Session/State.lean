import CommandShell.Command.Registry
import CommandShell.Context
import CommandShell.Diagnostics.Log
import CommandShell.Engine.State
import CommandShell.Output
import CommandShell.Presenter.Call

/-! # Sessions

A session is the engine with the services around it, the surface on which output appears, and the
work that is ready or due at some time. Time is counted in milliseconds from the start and passes
only when nothing is left to do. -/

namespace CommandShell

/-- What has been shown, and whether a prompt is open. -/
structure Surface where
  transcript : List Line := []
  /-- the most lines of the transcript that are kept; none but a positive limit counts -/
  limit : Int := 0
  promptOpen : Bool := false
  /-- the presenter can clear what it shows -/
  canClear : Bool := true
deriving Repr, Inhabited

namespace Surface

/-- Adds a line that is shown; the oldest lines go when there are too many. -/
def shown (s : Surface) (line : Line) : Surface :=
  let all := s.transcript ++ [line]
  { s with transcript := if 0 < s.limit then all.drop (all.length - s.limit.toNat) else all }

end Surface

structure Watchdog where
  life : Lifecycle := {}
  critical : List Value := []
  interval : Value := .int 100
  started : Bool := false
deriving Repr, Inhabited

/-- A piece of work: the running chain goes on, a caller goes on, or the watchdog looks around
or waits for its next look. -/
inductive Job where
  | chain
  | caller (label : Nat)
  | watch
  | arm
deriving DecidableEq, Repr

structure Timer where
  due : Rat
  job : Job
deriving DecidableEq, Repr

/-- What a caller waits for: the answer to a chain, or the end of the running one. -/
inductive Until where
  | answer (id : Nat)
  | ending
  | woken
deriving DecidableEq, Repr

/-- What a caller does when its wait is over. -/
inductive Errand where
  /-- takes the answer to a chain -/
  | collect (id : Nat)
  /-- takes the answer to a chain and waits until nothing runs -/
  | execute (id : Nat)
  /-- waits until nothing runs, with the answer it has -/
  | join (result : Pipe)
  /-- shows what there is and lets the queue go on -/
  | recover
deriving Repr

/-- What a session leaves for others to read: a line that goes to the buffer, an event that is logged,
or a fault that is reported, with the phase in which it came up. -/
inductive Remark where
  | line (line : Line)
  | event (service : Service) (level : Level) (message : String) (more : Table Value)
  | fault (phase : String) (problem : Problem) (kind : String)
deriving Repr

/-- Someone outside who waits. -/
structure Caller where
  label : Nat
  awaits : Until
  errand : Errand

structure Session where
  log : Diagnostics.Log := {}
  output : Output := {}
  registry : Registry Program := {}
  engine : Engine := {}
  /-- what has happened to the engine, in order -/
  moves : List Move := []
  watchdog : Watchdog := {}
  /-- the services that the watchdog knows of -/
  watched : List Service := Service.all
  /-- further services, which are disabled and cannot be enabled -/
  broken : List String := []
  context : Option Context := none
  surface : Option Surface := none
  /-- what the presenter was asked to do -/
  calls : List Presenter.Call := []
  /-- for every line that was handed in, how often the presenter had been called by then -/
  handed : List Nat := []
  /-- the notes of handlers -/
  notes : List Value := []
  /-- the faults that were reported, each with the kind of its failure, if reports are taken -/
  faults : Option (List (Problem × String)) := some []
  /-- what was left for others to read, in order, each with the number of the chain that was running -/
  said : List (Option Nat × Remark) := []
  now : Rat := 0
  ready : List Job := []
  timers : List Timer := []
  callers : List Caller := []
  /-- what the callers got, by label -/
  replies : List (Nat × Pipe) := []

namespace Session

/-! ## Logs -/

def record (s : Session) (service : Service) (what : String) : Session :=
  { s with log := s.log.record (service.action what) }

def recordAll (s : Session) (actions : List String) : Session :=
  { s with log := s.log.recordAll actions }

/-- Adds an event to the log of the context, if there is one. -/
def report (s : Session) (service : Service) (level : Level) (message : String)
    (more : Table Value) : Session :=
  let remark : Remark := .event service level message more
  { s with
    context := s.context.map fun c => c.log service.name level.name message more
    said := s.said ++ s.context.toList.map fun _ => (s.engine.running?, remark) }

/-- Reports a fault to whoever takes reports. -/
def reportFault (s : Session) (phase : String) (problem : Problem) (kind : String) : Session :=
  let remark : Remark := .fault phase problem kind
  { s with
    faults := s.faults.map (· ++ [(problem, kind)])
    said := s.said ++ s.faults.toList.map fun _ => (s.engine.running?, remark) }

/-- Reports a failure that the user does not see, as far as it can be read. -/
def reportFailure (s : Session) (chain : String) (phase : String) (f : Failure) : Session :=
  let problem := f.toProblem chain
  if f.flaws.text then s
  else
    let s := s.reportFault phase problem f.kindName
    if f.flaws.account then s
    else
      s.report .engine .error problem.message
        [("chain", .str chain), ("phase", .str phase), ("error", problem.toValue)]

def note (s : Session) (v : Value) : Session := { s with notes := s.notes ++ [v] }

/-! ## The surface -/

def present (s : Session) (call : Presenter.Call) : Session := { s with calls := s.calls ++ [call] }

/-- Shows a line. -/
def render (s : Session) (line : Line) : Session :=
  let surface := s.surface.map fun f => f.shown line
  { s with surface }.present (.render line.displayed)

/-- The session as a sink: it makes a line of what it is handed, and shows it. -/
def sink : Sink Session where
  line s content label := s.render (.plain content label)
  error s content := s.render (.error content)
  status s content := s.render (.status content)
  markup s content label := s.render (.markup content label)

/-- Opens a prompt unless one is open. -/
def requestPrompt (s : Session) : Session :=
  match s.surface with
  | some f =>
    if f.promptOpen then s
    else { s with surface := some { f with promptOpen := true } }.present .prompt
  | none => s

def clearSurface (s : Session) : Session :=
  match s.surface with
  | some f =>
    let s := { s with surface := some { f with transcript := [] } }
    if f.canClear then s.present .clear else s
  | none => s

def transcript (s : Session) : List Line := s.surface.elim [] (·.transcript)

/-! ## The output buffer -/

def addOutput (s : Session) (lines : List Line) : Session :=
  let step := s.output.addAll lines
  let added := step.output.lines.drop s.output.lines.length
  { s with
    output := step.output
    said := s.said ++ added.map fun line => (s.engine.running?, Remark.line line) }.recordAll step.actions

def clearOutput (s : Session) : Session :=
  let step := s.output.clear
  { s with output := step.output }.recordAll step.actions

/-- Shows the lines that wait in the buffer. -/
def flush (s : Session) : Session :=
  let step := s.output.flush
  (step.sent.foldl sink.take { s with output := step.output }).recordAll step.actions

end Session

end CommandShell
