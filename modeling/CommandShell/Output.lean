import CommandShell.Line
import CommandShell.Service

/-! # The output buffer

Lines wait in the buffer until it is flushed, which hands them to a sink. While the buffer is
disabled, nothing is added and nothing leaves it. -/

namespace CommandShell

/-- Where lines go when they leave the buffer: an operation for each kind of line, of which two
take a label. -/
structure Sink (σ : Type) where
  line : σ → String → String → σ
  error : σ → String → σ
  status : σ → String → σ
  markup : σ → String → String → σ

/-- Hands a line to the operation of its kind. -/
def Sink.take {σ : Type} (k : Sink σ) (x : σ) (l : Line) : σ :=
  match l.kind with
  | .line => k.line x l.content l.label
  | .error => k.error x l.content
  | .status => k.status x l.content
  | .markup => k.markup x l.content l.label

structure Output where
  life : Lifecycle := {}
  lines : List Line := []
deriving Repr, Inhabited

namespace Output

/-- What an operation leaves behind: the buffer, the lines that it hands out, and what was
recorded. -/
structure Step where
  output : Output
  sent : List Line := []
  actions : List String := []

/-- Initialising empties the buffer. -/
def init (o : Output) : Output :=
  if o.life.initialized then o else { life := o.life.init }

def addAll (o : Output) (lines : List Line) : Step :=
  if o.life.enabled then
    { output := { o with lines := o.lines ++ lines }
      actions := lines.map fun _ => Service.output.action "add" }
  else { output := o }

def add (o : Output) (line : Line) : Step := o.addAll [line]

/-- Hands out the lines in order. -/
def flush (o : Output) : Step :=
  if o.life.enabled then
    { output := { o with lines := [] }, sent := o.lines
      actions := [Service.output.action "flush"] }
  else { output := o }

/-- Throws the lines away. -/
def clear (o : Output) : Step :=
  if o.life.enabled then
    { output := { o with lines := [] }, actions := [Service.output.action "clear"] }
  else { output := o }

/-- A disabled buffer counts as empty. -/
def isEmpty (o : Output) : Bool := !o.life.enabled || o.lines.isEmpty

end Output

end CommandShell
