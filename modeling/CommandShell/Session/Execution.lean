import CommandShell.Command.Verification
import CommandShell.Session.Delay
import CommandShell.Session.Reply

/-! # Running chains

A chain runs stage by stage, and each stage is verified before its handler is called. Cancellation is
heeded between the stages. Whatever goes wrong ends the chain and is told to the user in one line; the
queue goes on unless the chain was cancelled. -/

namespace CommandShell

/-- Where a handler has come to. -/
inductive Stop where
  | done (outcome : Outcome)
  | failed (failure : Failure)
  | paused (p : Pause) (rest : Handler)

/-- Where a chain has come to. -/
inductive Stand where
  /-- all its stages are completed -/
  | complete (result : Pipe)
  /-- a failure ends it; `pipe` is what its last completed stage has handed on -/
  | broken (pipe : Pipe) (failure : Failure)
  /-- the handler of a stage waits -/
  | paused (p : Pause) (rest : Suspended)

namespace Session

/-- The present invocation has been released. -/
def isReleased (s : Session) : Bool := s.engine.run.any (·.released)

/-- Carries out a handler up to its end or a pause. -/
def runHandler : Handler → Session → Session × Stop
  | .done outcome, s => (s, .done outcome)
  | .fail failure, s => (s, .failed failure)
  | .pause .release rest, s =>
    if s.isReleased then runHandler rest s else (s, .paused .release rest)
  | .pause p rest, s => (s, .paused p rest)
  | .ask r rest, s =>
    let (s, answer) := s.reply r
    runHandler (rest answer) s

/-! ## Stages -/

/-- The label of the running chain. -/
def label (s : Session) : String := s.engine.run.elim "" (·.entry.label)

def setPhase (s : Session) (phase : Phase) : Session := s.onEngine (.phase phase)

/-- The failure that a refused invocation is. -/
def refusal (command : String) (p : Problem) : Failure :=
  .refusal ⟨if p.isDefinitionError then .definition else .command, p.message,
    [("command", .str command)], none, some p.type⟩

/-- Verifies an invocation and calls its handler, unless the chain is cancelled by then. -/
def beginStage (s : Session) (f : Fragment) (pipe : Pipe) : Session × Except Failure Handler :=
  match s.onRegistry (s.registry.lookup f.name) with
  | (s, none) => (s, .error (.refusal (.ofProblem .command (.unknownCommand f.name))))
  | (s, some d) =>
    match s.onRegistry (s.registry.verify f.name f.args f.flags) with
    | (s, .error fault) => (s, .error (.fault (.value fault.message)))
    | (s, .ok (.refused p)) => (s, .error (refusal f.name p))
    | (s, .ok (.accepted flags)) =>
      let flags := s.registry.normalize f.name flags
      match s.interruption? with
      | some r => (s.record .engine s!"fragmentAborted {f.name}", .error (.refusal r))
      | none =>
        let s := s.record .engine s!"run {f.name}"
        let stage := s.engine.run.elim 0 fun r => r.invoked.length
        let v : Invocation := ⟨f.name, f.args, flags, pipe, stage + 1⟩
        (s.onEngine (.invoke d.handler v), .ok (d.handler v))

/-- Goes on from where a handler has come to. -/
def carryOn (rest : List Fragment) (next : Pipe → Session → Session × Stand) (name : String)
    (pipe : Pipe) : Session × Stop → Session × Stand
  | (s, .done outcome) =>
    match outcome.toPipe name with
    | .ok result => next result (s.onEngine (.handOn result))
    | .error failure => (s, .broken pipe failure)
  | (s, .failed failure) => (s, .broken pipe failure)
  | (s, .paused p handler) => (s, .paused p ⟨handler, .turn, name, pipe, rest⟩)

/-- Runs the stages of a chain from one on, given what the stage before has handed on. -/
def runStages : List Fragment → Pipe → Session → Session × Stand
  | [], pipe, s =>
    match s.interruption? with
    | some r => (s, .broken pipe (.refusal r))
    | none => (s, .complete pipe)
  | f :: rest, pipe, s =>
    match s.interruption? with
    | some r => (s.record .engine s!"chainAborted {s.label}", .broken pipe (.refusal r))
    | none =>
      match s.beginStage f pipe with
      | (s, .error failure) => (s, .broken pipe failure)
      | (s, .ok handler) => carryOn rest (runStages rest) f.name pipe (runHandler handler s)

/-! ## Ends -/

/-- The running chain is over, and those who wait for its end go on. -/
def finish (s : Session) (status : Status) (result : Pipe) : Session :=
  (s.onEngine (.finish status result)).wake (· == .ending)

/-- Says that an interruption ends the running chain. -/
def tellInterruption (s : Session) (r : Refusal) (flaws : Flaws) : Session :=
  let label := s.label
  let s := (s.record .engine s!"interrupted {label}").addOutput [.status Problem.interruptedMessage]
  if flaws.lookup then s
  else
    s.report .engine .info "chain aborted"
      [("chain", .str label), ("reason", (r.details.get? "reason").getD .null)]

/-- Says that another failure of the shell's own ends the running chain. -/
def tellRefusal (s : Session) (r : Refusal) (flaws : Flaws) : Session :=
  let label := s.label
  let s := s.record .engine s!"commandError {label}"
  if flaws.text then s
  else
    let s := s.addOutput [.error r.message]
    if flaws.account then s
    else
      s.report .engine .warning r.message
        [("chain", .str label), ("error", r.toProblem.toValue)]

/-- Says that something unexpected ends the running chain. -/
def tellUnexpected (s : Session) (failure : Failure) : Session :=
  let label := s.label
  ((s.record .engine s!"unexpectedError {label}").addOutput
    [.error Problem.unexpectedMessage]).reportFailure label "handler" failure

/-- Ends the running chain with a failure; `pipe` is what its last stage has handed on. Where a part
of the failure cannot be read, what is still to be said of it then is not said. -/
def fail (s : Session) (pipe : Pipe) : Failure → Session
  | .refusal r flaws =>
    if r.kind = .interrupted then
      ((s.addOutput (pipe.getD [])).tellInterruption r flaws).finish .aborted none
    else (s.tellRefusal r flaws).finish .failed none
  | .cancelled => (s.cancelRun (some "task cancelled")).finish .aborted none
  | failure => (s.tellUnexpected failure).finish .failed none

/-- All stages are done: their output goes to the buffer, and the delay before the next chain
begins. -/
def complete (s : Session) (pipe : Pipe) : Session :=
  let s := (s.addOutput (pipe.getD [])).report .engine .info "chain completed"
    [("chain", .str s.label)]
  match Delay.afterChain s.engine.stepDelay with
  | .error fault => s.fail pipe (.fault fault)
  | .ok .none => s.finish .completed pipe
  | .ok .forever => s.setPhase (.pacing pipe)
  | .ok (.millis q) =>
    let s := s.setPhase (.pacing pipe)
    { s with timers := s.timers ++ [⟨s.now + q, .chain⟩] }

/-- Suspends the running chain at a pause of a handler. -/
def suspend (s : Session) (p : Pause) (rest : Suspended) : Session :=
  match p with
  | .release => s.setPhase (.suspended { rest with wait := .release })
  | .turn => s.setPhase (.suspended { rest with wait := .turn })
  | .sleep millis =>
    if millis ≤ 0 then s.setPhase (.suspended { rest with wait := .turn })
    else
      let s := s.setPhase (.suspended { rest with wait := .sleep })
      { s with timers := s.timers ++ [⟨s.now + millis, .chain⟩] }

/-! ## The task of a chain -/

/-- The running chain begins or goes on, up to where its handler waits or where it ends. -/
def proceed (s : Session) (r : Run) : Session × Stand :=
  match r.phase with
  | .suspended p =>
    carryOn p.rest (runStages p.rest) p.name p.pipe (runHandler p.handler (s.setPhase .active))
  | _ =>
    let s := (s.setPhase .active).report .engine .info "chain started"
      [("chain", .str r.entry.label)]
    runStages r.entry.chain.fragments none s

/-- Does what follows from where the running chain has come to. -/
def conclude (s : Session) : Stand → Session
  | .complete result => s.complete result
  | .broken pipe failure => s.fail pipe failure
  | .paused p rest => s.suspend p rest

/-- The running chain begins, goes on, or is over after its delay. -/
def runChain (s : Session) : Session :=
  match s.engine.run with
  | none => s
  | some r =>
    match r.phase with
    | .pacing result => s.finish .completed result
    | .active => s
    | _ =>
      let (s, stand) := s.proceed r
      s.conclude stand

end Session

end CommandShell
