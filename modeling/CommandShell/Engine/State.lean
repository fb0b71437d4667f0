import CommandShell.Engine.Handler
import CommandShell.Service

/-! # The state of the engine

Chains wait in a queue and run one at a time, in the order in which they came. Whoever hands in a
chain is owed an answer, which is given once: the pipe at its end, or nothing when the chain does not
come to its end undisturbed. Every chain that was handed in is in the queue, is running, has finished,
or was dropped from the queue by an interruption.

Whatever happens to an engine is one of its moves: somebody calls it, somebody adds a hook or releases
a handler, or the running chain gets on. -/

namespace CommandShell

/-- A chain that was handed in, with its number. -/
structure Entry where
  id : Nat
  chain : Chain

def Entry.label (e : Entry) : String := e.chain.label

/-- How a chain has ended. -/
inductive Status where
  | completed
  | aborted
  | failed
deriving DecidableEq, Repr, Inhabited

def Status.name : Status → String
  | .completed => "completed"
  | .aborted => "aborted"
  | .failed => "failed"

/-- What a suspended handler waits for: its next turn, the end of some time, or its release. -/
inductive Wait where
  | turn
  | sleep
  | release
deriving DecidableEq, Repr, Inhabited

/-- The rest of a chain behind a handler that waits. -/
structure Suspended where
  handler : Handler
  wait : Wait
  name : String
  /-- what the stage before has handed on -/
  pipe : Pipe
  rest : List Fragment

/-- How far the running chain is. -/
inductive Phase where
  /-- about to begin -/
  | fresh
  /-- one of its stages is being carried out -/
  | active
  /-- the handler of a stage waits -/
  | suspended (s : Suspended)
  /-- all stages are done, and the delay before the next chain has begun -/
  | pacing (result : Pipe)

/-- The running chain. -/
structure Run where
  entry : Entry
  token : Token Reaction
  /-- the invocations so far -/
  invoked : List Invocation := []
  /-- the handlers that they have called -/
  handlers : List Handler := []
  /-- what the completed stages have handed on -/
  produced : List Pipe := []
  /-- the present invocation has been released -/
  released : Bool := false
  phase : Phase := .fresh

namespace Run

/-- What the last completed stage has handed on. -/
def lastPipe (r : Run) : Pipe := r.produced.getLast?.join

/-- The chain goes on as soon as it is its turn. -/
def wantsTurn (r : Run) : Bool :=
  match r.phase with
  | .fresh => true
  | .suspended p => p.wait == .turn
  | _ => false

/-- Releases the present invocation. If its handler waits for that, it is its turn now. -/
def release (r : Run) : Run :=
  match r.phase with
  | .suspended p =>
    { r with
      released := true
      phase := .suspended (if p.wait = .release then { p with wait := .turn } else p) }
  | _ => { r with released := true }

end Run

/-- A chain that has run, as it was at its end. -/
structure Finished where
  run : Run
  status : Status

structure Engine where
  life : Lifecycle := {}
  queue : List Entry := []
  run : Option Run := none
  finished : List Finished := []
  /-- the chains that interruptions took from the queue -/
  dropped : List Entry := []
  /-- the answers that have been given, by the number of the chain -/
  answers : List (Nat × Pipe) := []
  /-- the number of the next chain -/
  next : Nat := 0
  stepDelay : Value := .int 0
  historyLimit : Option Nat := none

/-- What can happen to an engine. -/
inductive Move where
  | call (c : Call)
  /-- a hook is added to the running chain -/
  | hook (h : Hook Reaction)
  /-- the present invocation is released -/
  | release
  | phase (p : Phase)
  /-- a command is invoked, which calls a handler -/
  | invoke (program : Program) (v : Invocation)
  /-- a stage is completed and hands this on -/
  | handOn (pipe : Pipe)
  | finish (status : Status) (result : Pipe)

namespace Engine

def isRunning (e : Engine) : Bool := e.run.isSome

/-- Why an engine takes no chain: it has not been initialised. -/
def refuses? (life : Lifecycle) (chain : Chain) : Option Refusal :=
  if life.initialized then none
  else some (.ofProblem .configuration (.engineNotReady chain.label))

/-- The number of the running chain. -/
def running? (e : Engine) : Option Nat := e.run.map fun r => r.entry.id

/-- The answer to a chain, once it was given. -/
def answer? (e : Engine) (id : Nat) : Option Pipe := e.answers.lookup id

/-- Gives the answer to a chain, unless there is one. -/
def resolve (e : Engine) (id : Nat) (value : Pipe) : Engine :=
  if (e.answer? id).isSome then e else { e with answers := e.answers ++ [(id, value)] }

def resolveAll (e : Engine) (ids : List Nat) (value : Pipe) : Engine :=
  ids.foldl (fun e id => e.resolve id value) e

/-- The running chain goes on as soon as it is its turn. -/
def wantsTurn (e : Engine) : Bool := e.run.any Run.wantsTurn

/-- Changes the running chain. -/
def onRun (e : Engine) (change : Run → Run) : Engine := { e with run := e.run.map change }

/-- The next chain of the queue becomes the running one, if the engine is free and enabled. -/
def advance (e : Engine) : Engine :=
  match e.life.enabled, e.run, e.queue with
  | true, none, entry :: queue => { e with queue, run := some { entry, token := { reports := true } } }
  | _, _, _ => e

/-- A chain is handed in; its number is that of the next chain. A disabled engine answers at once
with nothing. -/
def enqueue (e : Engine) (chain : Chain) : Engine :=
  let id := e.next
  let e := { e with next := id + 1 }
  let queue := e.queue ++ [⟨id, chain⟩]
  if e.life.enabled then { e with queue }.advance else e.resolve id none

/-- Cancels the running chain. -/
def cancel (e : Engine) (reason : Option String) : Engine :=
  e.onRun fun r => { r with token := (r.token.cancel reason).1 }

/-- Empties the queue, answers everyone who waits for a chain, and cancels the running one. -/
def interrupt (e : Engine) (reason : Option String) : Engine :=
  let waiting := e.queue.map (·.id) ++ (e.run.map (·.entry.id)).toList
  let e := { e with queue := [], dropped := e.dropped ++ e.queue }
  (e.resolveAll waiting none).cancel reason

/-- Enabling the engine lets the queue go on. -/
def enable (e : Engine) : Engine :=
  let e := { e with life := e.life.enable }
  if e.life.initialized then e.advance else e

def disable (e : Engine) : Engine := { e with life := e.life.disable }

/-- Does what somebody has asked for. -/
def call (e : Engine) : Call → Engine
  | .enqueue chain => e.enqueue chain
  | .interrupt reason => e.interrupt reason
  | .resume => e.advance
  | .enable => e.enable
  | .disable => e.disable
  | .cancel reason => e.cancel reason

/-- The running chain is over. The queue goes on unless the chain was cancelled. -/
def finish (e : Engine) (status : Status) (result : Pipe) : Engine :=
  match e.run with
  | none => e
  | some r =>
    let e := e.resolve r.entry.id (if status = .completed then result else none)
    let e := { e with run := none, finished := e.finished ++ [⟨r, status⟩] }
    if r.token.isCancelled then e else e.advance

/-- The engine after a move. -/
def apply (e : Engine) : Move → Engine
  | .call c => e.call c
  | .hook h => e.onRun fun r => { r with token := (r.token.addHook h).1 }
  | .release => e.onRun Run.release
  | .phase phase => e.onRun fun r => { r with phase }
  | .invoke program v => e.onRun fun r =>
    { r with
      invoked := r.invoked ++ [v]
      handlers := r.handlers ++ [program v]
      released := false }
  | .handOn pipe => e.onRun fun r => { r with produced := r.produced ++ [pipe] }
  | .finish status result => e.finish status result

/-- What the hooks bring about that a move calls. -/
def deeds (e : Engine) : Move → List (Deed Reaction)
  | .call (.interrupt reason) | .call (.cancel reason) =>
    e.run.elim [] fun r => (r.token.cancel reason).2.deeds
  | .hook h => e.run.elim [] fun r => (r.token.addHook h).2.deeds
  | _ => []

/-- The actions that a call stands for. -/
def actions (e : Engine) : Call → List String
  | .enqueue chain =>
    if e.life.enabled then [Service.engine.action s!"enqueue {chain.label}"] else []
  | .interrupt _ => [Service.engine.action "interrupt"]
  | .enable => e.life.changes Service.engine.title e.life.enable
  | .disable => e.life.changes Service.engine.title e.life.disable
  | .resume | .cancel _ => []

/-- The latest chains that have run, and how each has ended. -/
def history (e : Engine) : List (String × Status) :=
  let all := e.finished.map fun f => (f.run.entry.label, f.status)
  match e.historyLimit with
  | none => all
  | some n => all.drop (all.length - n)

end Engine

end CommandShell
