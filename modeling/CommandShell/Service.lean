/-! # Services

The parts of a session that can be switched off and on again. A service is disabled until it is
initialised, which happens once. Every change of state is an action in the diagnostics log; what
changes nothing is none. -/

namespace CommandShell

/-- What a service has gone through: whether it has been initialised, and whether it is enabled. -/
structure Lifecycle where
  initialized : Bool := false
  enabled : Bool := false
deriving DecidableEq, Repr, Inhabited

namespace Lifecycle

/-- Initialises a service, which enables it; a second time changes nothing. -/
def init (l : Lifecycle) : Lifecycle := if l.initialized then l else ⟨true, true⟩

def enable (l : Lifecycle) : Lifecycle := { l with enabled := true }

def disable (l : Lifecycle) : Lifecycle := { l with enabled := false }

/-- The word for being enabled or not. -/
def word (l : Lifecycle) : String := if l.enabled then "enabled" else "disabled"

/-- A service of the given title and name and its state, in words. -/
def describe (l : Lifecycle) (title name : String) : String := s!"<{title} {name} {l.word}>"

end Lifecycle

/-- The services of a session, in the order in which they are listed. -/
inductive Service where
  | output
  | engine
  | registry
  | diagnostics
  | watchdog
deriving DecidableEq, Repr, Inhabited

namespace Service

def all : List Service := [.output, .engine, .registry, .diagnostics, .watchdog]

/-- The name by which a service is asked for. -/
def name : Service → String
  | .output => "output"
  | .engine => "commandexec"
  | .registry => "commands"
  | .diagnostics => "diagnostic"
  | .watchdog => "watchdog"

/-- What the actions of a service start with. -/
def title : Service → String
  | .output => "OutputBuffer"
  | .engine => "ExecutionEngine"
  | .registry => "CommandRegistry"
  | .diagnostics => "DiagnosticsLog"
  | .watchdog => "Watchdog"

def ofName? (s : String) : Option Service := all.find? fun v => v.name == s

theorem ofName?_name (s : Service) : ofName? s.name = some s := by
  cases s <;> decide

/-- An action of a service. -/
def action (s : Service) (what : String) : String := s!"{s.title}_{what}"

/-- A service and its state, in words. -/
def describe (s : Service) (l : Lifecycle) : String := l.describe s.title s.name

end Service

/-- The actions that stand for the change from one state to another. -/
def Lifecycle.changes (title : String) (before after : Lifecycle) : List String :=
  if before.initialized != after.initialized then [s!"{title}_init"]
  else if before.enabled == after.enabled then []
  else if after.enabled then [s!"{title}_enable"]
  else [s!"{title}_disable"]

end CommandShell
