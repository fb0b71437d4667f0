import CommandShell.Chain.Reader
import CommandShell.Session.State

/-! # Handing in chains

Every line of the user is followed by two chains of the shell's own: one that shows the output and one
that opens a prompt. An interruption empties the queue and cancels the running chain, whose hooks are
then called. -/

namespace CommandShell.Session

/-- The commands that follow each line of the user. -/
def followers : List String := ["obuffer", "commandline"]

/-- The callers that wait for something are ready to go on. -/
def wake (s : Session) (isOver : Until → Bool) : Session :=
  let woken := s.callers.filter fun c => isOver c.awaits
  { s with
    ready := s.ready ++ woken.map fun c => .caller c.label
    callers := s.callers.map fun c => if isOver c.awaits then { c with awaits := .woken } else c }

/-- Moves the engine. Callers whose answer has come go on, and after them a chain whose turn has
come. -/
def onEngine (s : Session) (m : Move) : Session :=
  let after := s.engine.apply m
  let hasAnswer : Until → Bool
    | .answer id => (after.answer? id).isSome
    | _ => false
  let woken := wake { s with engine := after, moves := s.moves ++ [m] } hasAnswer
  if after.wantsTurn && !s.engine.wantsTurn then { woken with ready := woken.ready ++ [.chain] }
  else woken

/-- Makes a call to the engine. The hooks that wait for it are not called yet. -/
def make (s : Session) (c : Call) : Session :=
  (s.recordAll (s.engine.actions c)).onEngine (.call c)

/-- The queue goes on, if it can. -/
def advance (s : Session) : Session := s.make .resume

/-- Hands in a chain; its number and the session afterwards. -/
def enqueue (s : Session) (chain : Chain) : Nat × Session :=
  (s.engine.next, s.make (.enqueue chain))

/-- A line that is handed in closes the prompt. -/
def closePrompt (s : Session) : Session :=
  { s with
    surface := s.surface.map fun f => { f with promptOpen := false }
    handed := s.handed ++ [s.calls.length] }

/-- Hands in a line of the user and what follows it; the number of its chain, unless the line is
empty. -/
def enqueueLine (s : Session) (text : String) : Option Nat × Session :=
  let s := s.closePrompt
  let (id, s) := match Chain.read? text with
    | some chain =>
      let (id, s) := s.enqueue chain
      (some id, s)
    | none => (none, s)
  (id, followers.foldl (fun s name => (s.enqueue (Chain.single name)).2) s)

def submit (s : Session) (text : String) : Session := (s.enqueueLine text).2

/-- Ends the wait of the present invocation, now or when it comes to it. -/
def release (s : Session) : Session := s.onEngine .release

/-- Does what a hook asked for when a chain was cancelled. A call calls no further hooks, since the
chain is cancelled already. -/
def react (s : Session) (interruption : Refusal) (chain : String) : Deed Reaction → Session
  | .report f => s.reportFailure chain "interrupt_hook" (.fault f)
  | .effect (.note id) =>
    s.note (.record [("hook", id), ("message", .str interruption.message),
      ("reason", (interruption.details.get? "reason").getD .null)])
  | .effect (.release stage) =>
    if s.engine.run.any fun r => r.invoked.length == stage then s.release else s
  | .effect (.submit text) => s.submit text
  | .effect (.call c) => s.make c

/-- Does what the hooks of the running chain asked for when it was cancelled. -/
def reactAll (s : Session) (deeds : List (Deed Reaction)) : Session :=
  match s.engine.run with
  | none => s
  | some r =>
    match r.token.interruption? with
    | none => s
    | some interruption => deeds.foldl (fun s deed => s.react interruption r.entry.label deed) s

/-- Makes a call to the engine and then does what the hooks ask for that it calls. -/
def call (s : Session) (c : Call) : Session :=
  (s.make c).reactAll (s.engine.deeds (.call c))

/-- Adds a hook to the running chain, which is called at once when the chain is cancelled already. -/
def addHook (s : Session) (h : Hook Reaction) : Session :=
  (s.onEngine (.hook h)).reactAll (s.engine.deeds (.hook h))

def cancelRun (s : Session) (reason : Option String) : Session := s.call (.cancel reason)

/-- Empties the queue and cancels the running chain. -/
def interrupt (s : Session) (reason : Option String) : Session := s.call (.interrupt reason)

end CommandShell.Session
