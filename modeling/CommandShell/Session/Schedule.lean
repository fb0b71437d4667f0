import CommandShell.Session.Execution
import CommandShell.Session.Watch

/-! # The order of work

Work that is ready is done in the order in which it became ready. Time passes only when nothing is
ready, and then as far as the next piece of work that is due. -/

namespace CommandShell.Session

/-! ## Callers -/

/-- A caller is through. -/
def answerCaller (s : Session) (label : Nat) (result : Pipe) : Session :=
  { s with replies := s.replies ++ [(label, result)] }

def await (s : Session) (label : Nat) (awaits : Until) (errand : Errand) : Session :=
  { s with callers := s.callers ++ [⟨label, awaits, errand⟩] }

/-- A caller waits until nothing runs. -/
def join (s : Session) (label : Nat) (result : Pipe) : Session :=
  if s.engine.isRunning then s.await label .ending (.join result) else s.answerCaller label result

/-- Shows what there is, lets the queue go on, and opens a prompt. -/
def recover (s : Session) : Session := s.flush.advance.requestPrompt

/-- A caller does what it waited for, or waits. -/
def attend (s : Session) (label : Nat) : Errand → Session
  | .collect id =>
    match s.engine.answer? id with
    | some result => s.answerCaller label result
    | none => s.await label (.answer id) (.collect id)
  | .execute id =>
    match s.engine.answer? id with
    | some result => s.join label result
    | none => s.await label (.answer id) (.execute id)
  | .join result => s.join label result
  | .recover => s.recover.answerCaller label none

/-- A caller goes on. -/
def resumeCaller (s : Session) (label : Nat) : Session :=
  match s.callers.find? fun c => c.label == label with
  | some c => attend { s with callers := s.callers.filter fun c => c.label ≠ label } label c.errand
  | none => s

/-- Someone hands in a line and waits until nothing runs. -/
def execute (s : Session) (label : Nat) (text : String) : Session :=
  match s.enqueueLine text with
  | (some id, s) => s.attend label (.execute id)
  | (none, s) => s.attend label (.join none)

/-- Someone hands in a chain and waits for its answer. -/
def enqueueAndWait (s : Session) (label : Nat) (chain : Chain) : Session :=
  let (id, s) := s.enqueue chain
  s.attend label (.collect id)

/-- Someone interrupts, waits for the end of the running chain and lets the queue go on. -/
def interruptAndRecover (s : Session) (label : Nat) (reason : Option String) : Session :=
  let s := s.interrupt reason
  if s.engine.isRunning then s.await label .ending .recover else s.attend label .recover

/-! ## Work -/

def doJob (s : Session) : Job → Session
  | .chain => s.runChain
  | .caller label => s.resumeCaller label
  | .watch => s.watch
  | .arm => s.arm

/-- Does the work that is ready, at most so many pieces. -/
def settleWithin : Nat → Session → Session
  | 0, s => s
  | n + 1, s =>
    match s.ready with
    | [] => s
    | job :: ready => settleWithin n (doJob { s with ready } job)

/-- A session that has not come to rest after so many pieces of work never does. -/
def patience : Nat := 1000000

/-- Does all work that is ready. -/
def settle (s : Session) : Session := s.settleWithin patience

/-- The timer that is due first; of several the one that was set first. -/
def firstTimer? : List Timer → Option Timer
  | [] => none
  | t :: ts =>
    match firstTimer? ts with
    | some u => some (if u.due < t.due then u else t)
    | none => some t

/-- Lets time pass up to a moment, doing the work that is due on the way. -/
def passUntil (moment : Rat) : Nat → Session → Session
  | 0, s => s
  | n + 1, s =>
    match firstTimer? (s.timers.filter fun t => t.due ≤ moment) with
    | none => { s with now := moment }
    | some t =>
      let s := { s with now := t.due, timers := s.timers.erase t }
      passUntil moment n (s.doJob t.job).settle

/-- Lets so many milliseconds pass. -/
def pass (s : Session) (millis : Rat) : Session := s.passUntil (s.now + millis) patience

end CommandShell.Session
