import CommandShell.Session.Services
import Mathlib.Data.List.Induction

/-!
# Lines of the buffer are conserved

Lines are added to a buffer, flushed to a sink and thrown away, and the buffer is enabled
and disabled in between. What was added while it was enabled is what has left it since, followed by
what it holds (`conserves`). The step (`lines_perform`) says so of one operation.
-/

namespace CommandShell

/-! ## Sinks -/

namespace Sink

/-- A call of one of the operations of a sink. -/
inductive Call where
  | line (content label : String)
  | error (content : String)
  | status (content : String)
  | markup (content label : String)
deriving DecidableEq, Repr

/-- The sink is called. -/
def on {σ : Type} (k : Sink σ) (x : σ) : Call → σ
  | .line content label => k.line x content label
  | .error content => k.error x content
  | .status content => k.status x content
  | .markup content label => k.markup x content label

end Sink

/-- The call that shows a line: of the operation of its kind, with its content, and with the label
if it is of a kind that has one. -/
def Line.call (l : Line) : Sink.Call :=
  match l.kind with
  | .line => .line l.content l.label
  | .error => .error l.content
  | .status => .status l.content
  | .markup => .markup l.content l.label

theorem Sink.take_eq {σ : Type} (k : Sink σ) (x : σ) (l : Line) : k.take x l = k.on x l.call := by
  unfold take Line.call
  cases l.kind <;> rfl

namespace Output

/-! ## Operations -/

inductive Op where
  | add (line : Line)
  | addAll (lines : List Line)
  | flush
  | clear
  | enable
  | disable

/-- The buffer is switched on or off. -/
def switch (o : Output) (change : Lifecycle → Lifecycle) : Step :=
  { output := { o with life := change o.life }
    actions := o.life.changes Service.output.title (change o.life) }

-- the buffer of a session is switched no differently
example (s : Session) (change : Lifecycle → Lifecycle) :
    s.changeLife .output change =
      ({ s with output := (s.output.switch change).output } : Session).recordAll
        (s.output.switch change).actions :=
  rfl

def perform (o : Output) : Op → Step
  | .add line => o.add line
  | .addAll lines => o.addAll lines
  | .flush => o.flush
  | .clear => o.clear
  | .enable => o.switch .enable
  | .disable => o.switch .disable

/-- The lines that an operation brings. -/
def Op.lines : Op → List Line
  | .add line => [line]
  | .addAll lines => lines
  | .flush | .clear | .enable | .disable => []

/-- A line leaves the buffer: it is dispatched to the sink, or it is discarded. -/
inductive Departure where
  | dispatched (line : Line)
  | discarded (line : Line)

namespace Departure

def line : Departure → Line
  | .dispatched line | .discarded line => line

def dispatched? : Departure → Option Line
  | .dispatched line => some line
  | .discarded _ => none

end Departure

/-- The lines that leave the buffer with an operation. What is not sent is thrown away. -/
def departures (o : Output) (op : Op) : List Departure :=
  match op with
  | .clear => if o.life.enabled then o.lines.map .discarded else []
  | op => (o.perform op).sent.map .dispatched

theorem dispatched_departures (o : Output) (op : Op) :
    (o.departures op).filterMap Departure.dispatched? = (o.perform op).sent := by
  have hsent (lines : List Line) :
      (lines.map Departure.dispatched).filterMap Departure.dispatched? = lines := by
    rw [List.filterMap_map]
    exact List.filterMap_some
  have hnone (lines : List Line) :
      (lines.map Departure.discarded).filterMap Departure.dispatched? = [] := by
    rw [List.filterMap_map, List.filterMap_eq_nil_iff]
    exact fun _ _ => rfl
  cases op with
  | clear => cases h : o.life.enabled <;> simp [departures, perform, clear, h, hnone]
  | _ => exact hsent _

theorem line_departures (o : Output) (op : Op) :
    (o.departures op).map Departure.line =
      match op with
      | .clear => if o.life.enabled then o.lines else []
      | op => (o.perform op).sent := by
  have hline {f : Line → Departure} (hf : ∀ line, (f line).line = line) (lines : List Line) :
      (lines.map f).map Departure.line = lines := by
    rw [List.map_map]
    exact List.map_id'' hf lines
  cases op with
  | clear => cases h : o.life.enabled <;> simp [departures, h, hline (f := .discarded) fun _ => rfl]
  | _ => exact hline (fun _ => rfl) _

/-- What an operation brings to an enabled buffer stands behind what was there, of which it lets go
from the front. -/
theorem lines_perform (o : Output) (op : Op) :
    o.lines ++ (if o.life.enabled then op.lines else []) =
      (o.departures op).map Departure.line ++ (o.perform op).output.lines := by
  rw [line_departures]
  cases op with
  | add line => cases h : o.life.enabled <;> simp [perform, add, addAll, Op.lines, h]
  | addAll lines => cases h : o.life.enabled <;> simp [perform, addAll, Op.lines, h]
  | flush => cases h : o.life.enabled <;> simp [perform, flush, Op.lines, h]
  | clear => cases h : o.life.enabled <;> simp [perform, clear, Op.lines, h]
  | enable => simp [perform, switch, Op.lines]
  | disable => simp [perform, switch, Op.lines]

/-- A disabled buffer keeps what it holds, and sends nothing. -/
theorem perform_of_disabled {o : Output} (h : o.life.enabled = false) (op : Op) :
    (o.perform op).output.lines = o.lines ∧ (o.perform op).sent = [] := by
  cases op with
  | enable => exact ⟨rfl, rfl⟩
  | disable => exact ⟨rfl, rfl⟩
  | _ => simp [perform, add, addAll, flush, clear, h]

/-! ## Runs -/

/-- The account of a buffer and a sink: what came in while the buffer was enabled, and what has left it, each
in order. -/
structure Account (σ : Type) where
  output : Output
  sink : σ
  came : List Line := []
  gone : List Departure := []

namespace Account

variable {σ : Type}

/-- The lines that went to the sink. -/
def sent (a : Account σ) : List Line := a.gone.filterMap Departure.dispatched?

def step (k : Sink σ) (a : Account σ) (op : Op) : Account σ where
  output := (a.output.perform op).output
  sink := (a.output.perform op).sent.foldl k.take a.sink
  came := a.came ++ if a.output.life.enabled then op.lines else []
  gone := a.gone ++ a.output.departures op

def run (k : Sink σ) (a : Account σ) (ops : List Op) : Account σ := ops.foldl (step k) a

theorem run_concat (k : Sink σ) (a : Account σ) (ops : List Op) (op : Op) :
    a.run k (ops ++ [op]) = (a.run k ops).step k op := by
  unfold run
  rw [List.foldl_append]
  rfl

theorem sent_step (k : Sink σ) (a : Account σ) (op : Op) :
    (a.step k op).sent = a.sent ++ (a.output.perform op).sent := by
  unfold sent step
  rw [List.filterMap_append, dispatched_departures]

end Account

/-- The account that starts from `o` and `x` is balanced. -/
structure Balanced {σ : Type} (k : Sink σ) (o : Output) (x : σ) (a : Account σ) : Prop where
  /-- no line is lost, and none leaves twice or before its turn -/
  lines : o.lines ++ a.came = a.gone.map Departure.line ++ a.output.lines
  /-- each line that is dispatched makes one call of the sink, of the operation of its kind -/
  sink : a.sink = (a.sent.map Line.call).foldl k.on x
  /-- while the buffer is disabled, its content stays and the sink is not called -/
  inert : a.output.life.enabled = false → ∀ op,
    (a.step k op).output.lines = a.output.lines ∧ (a.step k op).sent = a.sent ∧
      (a.step k op).sink = a.sink

theorem inert_step {σ : Type} (k : Sink σ) {a : Account σ} (h : a.output.life.enabled = false)
    (op : Op) : (a.step k op).output.lines = a.output.lines ∧ (a.step k op).sent = a.sent ∧
      (a.step k op).sink = a.sink := by
  obtain ⟨hlines, hsent⟩ := perform_of_disabled h op
  refine ⟨hlines, ?_, ?_⟩
  · rw [Account.sent_step, hsent, List.append_nil]
  · unfold Account.step
    dsimp only
    rw [hsent]
    rfl

theorem balanced_start {σ : Type} (k : Sink σ) (o : Output) (x : σ) :
    Balanced k o x { output := o, sink := x } where
  lines := List.append_nil _
  sink := rfl
  inert := inert_step k

/-- An operation keeps the account balanced. -/
theorem balanced_step {σ : Type} {k : Sink σ} {o : Output} {x : σ} {a : Account σ}
    (h : Balanced k o x a) (op : Op) : Balanced k o x (a.step k op) where
  lines :=
    calc o.lines ++ (a.step k op).came
        = o.lines ++ a.came ++ (if a.output.life.enabled then op.lines else []) :=
          (List.append_assoc _ _ _).symm
      _ = a.gone.map Departure.line ++
            (a.output.lines ++ if a.output.life.enabled then op.lines else []) := by
          rw [h.lines, List.append_assoc]
      _ = (a.step k op).gone.map Departure.line ++ (a.step k op).output.lines := by
          rw [lines_perform, ← List.append_assoc, ← List.map_append]
          rfl
  sink := by
    have htake (lines : List Line) (y : σ) :
        lines.foldl k.take y = (lines.map Line.call).foldl k.on y := by
      rw [List.foldl_map]
      exact congrArg (fun f => lines.foldl f y) (funext₂ k.take_eq)
    calc (a.step k op).sink
        = ((a.output.perform op).sent.map Line.call).foldl k.on a.sink := htake _ _
      _ = ((a.step k op).sent.map Line.call).foldl k.on x := by
          rw [h.sink, Account.sent_step, List.map_append, List.foldl_append]
  inert := inert_step k

/-- **Lines are conserved**, whatever is asked of the buffer. -/
theorem conserves {σ : Type} (k : Sink σ) (o : Output) (x : σ) (ops : List Op) :
    Balanced k o x (Account.run k { output := o, sink := x } ops) := by
  induction ops using List.reverseRecOn with
  | nil => exact balanced_start k o x
  | append_singleton ops op ih =>
      rw [Account.run_concat]
      exact balanced_step ih op

end Output

end CommandShell
