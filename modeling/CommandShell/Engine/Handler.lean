import CommandShell.Chain
import CommandShell.Command.Definition
import CommandShell.Engine.Token
import CommandShell.Line

/-! # Handlers

A handler is what a command does: a program that asks the session for things, may wait, and ends with
an outcome or a failure. It is a tree of its requests and of what follows upon every reply. -/

namespace CommandShell

/-- What a handler is called with. `stage` is the place of the invocation in its chain, from one on. -/
structure Invocation where
  name : String
  args : List String
  flags : Flags
  pipe : Pipe
  stage : Nat
deriving Repr, Inhabited

namespace Invocation

def arg? (v : Invocation) (i : Nat) : Option String := v.args[i]?

def flag? (v : Invocation) (name : String) : Option Value := v.flags.get? name

/-- The flag is there and its value counts as true. -/
def isSet (v : Invocation) (name : String) : Bool := (v.flag? name).any Value.isTruthy

end Invocation

/-- What a handler ends with. -/
inductive Outcome where
  | lines (ls : List Line)
  | nothing
  /-- the command has failed in a way that is told to the user -/
  | error (message : String)
  /-- the same, but what it has in place of a message is no text -/
  | mute
  /-- something that is no result, of this type -/
  | other (typeName : String)
deriving Repr, Inhabited

namespace Outcome

def single (line : Line) : Outcome := .lines [line]

/-- What a stage of a chain hands on. -/
def toPipe (command : String) : Outcome → Except Failure Pipe
  | .lines ls => .ok (some ls)
  | .nothing => .ok none
  | .error message => .error (.refusal (.ofProblem .command (.handlerError command message)))
  | .mute => .error (.refusal (.ofProblem .command (.handlerError command "")) { text := true })
  | .other typeName => .error (.noResult command typeName)

end Outcome

/-- What anyone may ask of the engine at any time. -/
inductive Call where
  | enqueue (chain : Chain)
  | interrupt (reason : Option String)
  | resume
  | enable
  | disable
  /-- cancels the running chain and leaves the queue as it is -/
  | cancel (reason : Option String)

/-- What a hook does when its chain is cancelled. -/
inductive Reaction where
  /-- adds a note with the interruption's message and reason -/
  | note (id : Value)
  /-- lets the wait of an invocation end -/
  | release (stage : Nat)
  | submit (text : String)
  | call (c : Call)

/-- What a handler can ask the session for. -/
inductive Request where
  | note (v : Value)
  | interruption
  | submit (text : String)
  | call (c : Call)
  | enable (service : String)
  | disable (service : String)
  | register (name : String)
  | unregister (name : String)
  | render (line : Line)
  | addHook (hook : Hook Reaction)
  | flush
  | clearOutput
  | clearSurface
  | prompt
  | transcript
  | services
  | definition (name : String)
  | commandList (withAliases : Bool)
  | clearLog
  | logLines

namespace Request

def interrupt (reason : Option String) : Request := .call (.interrupt reason)

/-- The type of the reply to a request. -/
def Reply : Request → Type
  | .interruption => Option Refusal
  | .enable _ => Except Fault Unit
  | .disable _ => Except Fault Unit
  | .register _ => Except Fault Unit
  | .unregister _ => Except Fault Unit
  | .transcript => List Line
  | .services => List (String × Bool)
  | .definition _ => Option (Definition Unit)
  | .commandList _ => List String
  | .logLines => Except Fault (List String)
  | _ => Unit

end Request

/-- Why a handler stops for a while: to give way once, for some time, or until it is released. -/
inductive Pause where
  | turn
  | sleep (millis : Rat)
  | release
deriving Repr, Inhabited

inductive Handler where
  | done (outcome : Outcome)
  | fail (failure : Failure)
  | pause (p : Pause) (rest : Handler)
  | ask (r : Request) (rest : r.Reply → Handler)

namespace Handler

instance : Inhabited Handler := ⟨.done .nothing⟩

/-- Asks for something that has no reply, and goes on. -/
def afterwards (r : Request) (rest : Handler) : Handler := .ask r fun _ => rest

/-- Goes on only without a fault. -/
def unlessFault (reply : Except Fault Unit) (rest : Handler) : Handler :=
  match reply with
  | .ok () => rest
  | .error f => .fail (.fault f)

end Handler

/-- What a command runs for each invocation. -/
abbrev Program := Invocation → Handler

end CommandShell
