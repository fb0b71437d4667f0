import CommandShell.Problem
import CommandShell.Text.Quoted

/-! # Failures

What can go wrong while a chain runs. The shell has failures of its own, whose message is what the
user sees. Everything else is a fault, of which the user sees that something was unexpected, and the
log the rest. A handler makes its failures as it likes, and there may be parts of one that cannot be
read when it is told. -/

namespace CommandShell

/-- The kinds of the shell's own failures. -/
inductive FailureKind where
  | shell
  | command
  | definition
  | interrupted
  | configuration
deriving DecidableEq, Repr, Inhabited

namespace FailureKind

def all : List FailureKind := [.shell, .command, .definition, .interrupted, .configuration]

def name : FailureKind → String
  | .shell => "ShellException"
  | .command => "CommandError"
  | .definition => "DefinitionError"
  | .interrupted => "ExecutionInterrupted"
  | .configuration => "EngineConfigurationError"

def ofName? (s : String) : Option FailureKind := all.find? fun k => k.name == s

end FailureKind

/-- A failure of the shell's own. -/
structure Refusal where
  kind : FailureKind
  message : String
  details : Table Value := []
  hint : Option String := none
  type : Option String := none
deriving Repr, Inhabited

namespace Refusal

/-- The failure that reports a problem. -/
def ofProblem (kind : FailureKind) (p : Problem) : Refusal :=
  ⟨kind, p.message, p.details, p.hint, some p.type⟩

/-- The problem that a failure reports; one without a type has the name of its kind. -/
def toProblem (r : Refusal) : Problem :=
  { type := (r.type.filter (· ≠ "")).getD r.kind.name
    message := r.message, details := r.details, hint := r.hint }

/-- The interruption of a chain, with its reason. -/
def interruption (reason : Option String) : Refusal := ofProblem .interrupted (.interrupted reason)

end Refusal

/-- A failure from outside the shell: the name of its kind, and a message. -/
structure Fault where
  kind : String
  message : String
deriving DecidableEq, Repr, Inhabited

namespace Fault

/-- Something is asked for under a name that is not there. -/
def missing (name : String) : Fault := ⟨"KeyError", Text.quoted name⟩

/-- A value that is of the right type and all the same not acceptable. -/
def value (message : String) : Fault := ⟨"ValueError", message⟩

/-- A value of the wrong type. -/
def type (message : String) : Fault := ⟨"TypeError", message⟩

/-- A number that is too large. -/
def overflow (message : String) : Fault := ⟨"OverflowError", message⟩

/-- A service that cannot be enabled. -/
def cannotEnable : Fault := ⟨"RuntimeError", "cannot enable"⟩

/-- The problem that a fault is reported as. -/
def toProblem (f : Fault) (chain : Option String) : Problem :=
  .executionError chain (some f.kind) (some f.message) (some Problem.executionHint)

end Fault

/-- What of a failure cannot be read when it is told. What stands in its place is of no account. -/
structure Flaws where
  /-- it has no text -/
  text : Bool := false
  /-- nothing can be looked up in its details -/
  lookup : Bool := false
  /-- it cannot be put down in full, as its details or its trace cannot be copied -/
  account : Bool := false
deriving DecidableEq, Repr, Inhabited

/-- What ends a chain early. -/
inductive Failure where
  | refusal (r : Refusal) (flaws : Flaws := {})
  | fault (f : Fault) (flaws : Flaws := {})
  /-- a handler has answered with something that is no result -/
  | noResult (command received : String)
  /-- the task itself was cancelled -/
  | cancelled
deriving Repr, Inhabited

namespace Failure

def flaws : Failure → Flaws
  | .refusal _ flaws | .fault _ flaws => flaws
  | _ => {}

/-- The problem as which a failure that the user does not see is reported. -/
def toProblem (chain : String) : Failure → Problem
  | .refusal r _ => r.toProblem
  | .fault f _ => f.toProblem (some chain)
  | .noResult command received => .invalidResult chain command received
  | .cancelled => (Fault.mk "CancelledError" "").toProblem (some chain)

/-- The name of the kind of a failure. -/
def kindName : Failure → String
  | .refusal r _ => r.kind.name
  | .fault f _ => f.kind
  | .noResult _ _ => "_InvalidHandlerResult"
  | .cancelled => "CancelledError"

/-- The problem that a failure is when no chain is known. -/
def classify : Failure → Problem
  | .refusal r _ => r.toProblem
  | .fault f _ => f.toProblem none
  | .noResult _ received =>
    (Fault.mk "_InvalidHandlerResult"
      s!"Command handler must return CommandResult, got {received}").toProblem none
  | .cancelled => (Fault.mk "CancelledError" "").toProblem none

end Failure

end CommandShell
