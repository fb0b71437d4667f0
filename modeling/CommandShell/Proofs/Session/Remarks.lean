import CommandShell.Proofs.Session.Calls

/-!
# What ends are told by

A session that tells how a chain has ended writes down lines, events and faults, and does
nothing besides (`Writes`). What it writes depends on what has ended the chain only, and
on what can be read of it: a chain that a failure ends says `Failure.remarks` and is then
over (`fail_eq_finish`), and one that is through with its stages says `Remark.completed`
before its delay is looked at (`complete_eq`).
-/

namespace CommandShell

/-! ## Remarks -/

namespace Remark

/-- The line that goes to the buffer. -/
def line? : Remark → Option Line
  | .line l => some l
  | _ => none

theorem filterMap_line? (lines : List Line) : (lines.map Remark.line).filterMap line? = lines := by
  rw [List.filterMap_map]
  exact List.filterMap_some

def started (label : String) : Remark :=
  .event .engine .info "chain started" [("chain", .str label)]

/-- All stages are completed, and their output goes to the buffer. -/
def completed (label : String) (pipe : Pipe) : List Remark :=
  (pipe.getD []).map .line ++ [.event .engine .info "chain completed" [("chain", .str label)]]

/-- An interruption ends the chain. What its last completed stage has handed on goes to
the buffer. The event tells the reason, and there is none if the reason cannot be looked
up. -/
def aborted (label : String) (pipe : Pipe) (r : Refusal) (flaws : Flaws) : List Remark :=
  (pipe.getD []).map .line ++ .line (.status Problem.interruptedMessage) ::
    if flaws.lookup then []
    else
      [.event .engine .info "chain aborted"
        [("chain", .str label), ("reason", (r.details.get? "reason").getD .null)]]

/-- A failure of the shell's own ends the chain. The line is its text, and the event tells
all of it. -/
def refused (label : String) (r : Refusal) (flaws : Flaws) : List Remark :=
  if flaws.text then []
  else
    .line (.error r.message) ::
      if flaws.account then []
      else
        [.event .engine .warning r.message
          [("chain", .str label), ("error", r.toProblem.toValue)]]

/-- Anything else ends the chain. The report has its text, and the event its trace. -/
def unexpected (label : String) (failure : Failure) : List Remark :=
  .line (.error Problem.unexpectedMessage) ::
    if failure.flaws.text then []
    else
      .fault "handler" (failure.toProblem label) failure.kindName ::
        if failure.flaws.account then []
        else
          [.event .engine .error (failure.toProblem label).message
            [("chain", .str label), ("phase", .str "handler"),
              ("error", (failure.toProblem label).toValue)]]

end Remark

namespace Failure

/-- How a chain ends that a failure ends. -/
def status : Failure → Status
  | .refusal r _ => if r.kind = .interrupted then .aborted else .failed
  | .cancelled => .aborted
  | _ => .failed

theorem status_ne_completed (failure : Failure) : failure.status ≠ .completed := by
  cases failure with
  | refusal r flaws =>
      unfold status
      dsimp only
      split <;> decide
  | _ => rintro ⟨⟩

/-- What is said of a chain that a failure ends. The end of its task is no failure of
the chain, and nothing is said about it. -/
def remarks (label : String) (pipe : Pipe) : Failure → List Remark
  | .refusal r flaws =>
    if r.kind = .interrupted then Remark.aborted label pipe r flaws
    else Remark.refused label r flaws
  | .cancelled => []
  | failure => Remark.unexpected label failure

end Failure

namespace Session

variable {rs rs' : List Remark} {s t u : Session}

/-! ## Writing -/

/-- A session writes down that it says `rs`, and maybe something in the log of its
actions. -/
inductive Writes : List Remark → Session → Session → Prop
  | record (s : Session) (what : String) : Writes [] s (s.record .engine what)
  | output (s : Session) (lines : List Line) : Writes (lines.map .line) s (s.addOutput lines)
  | event (s : Session) (level : Level) (message : String) (more : Table Value) :
      Writes [.event .engine level message more] s (s.report .engine level message more)
  | fault (s : Session) (phase : String) (problem : Problem) (kind : String) :
      Writes [.fault phase problem kind] s (s.reportFault phase problem kind)
  | trans {rs rs' : List Remark} {s t u : Session} (h : Writes rs s t) (h' : Writes rs' t u) :
      Writes (rs ++ rs') s u

theorem around_of_writes (h : Writes rs s t) : Around s t := by
  induction h with
  | trans _ _ ih ih' => exact ih.trans ih'
  | _ => exact ⟨rfl, rfl, rfl, rfl⟩

theorem writes_line (s : Session) (line : Line) : Writes [.line line] s (s.addOutput [line]) :=
  .output s [line]

theorem writes_tellInterruption (s : Session) (pipe : Pipe) (r : Refusal) (flaws : Flaws) :
    Writes (Remark.aborted s.label pipe r flaws) s
      ((s.addOutput (pipe.getD [])).tellInterruption r flaws) := by
  have hlines : Writes ((pipe.getD []).map .line ++ [.line (.status Problem.interruptedMessage)]) s
      (((s.addOutput (pipe.getD [])).record .engine s!"interrupted {s.label}").addOutput
        [.status Problem.interruptedMessage]) :=
    (Writes.output s _).trans ((Writes.record _ _).trans (writes_line _ _))
  unfold tellInterruption Remark.aborted
  dsimp only
  split
  · exact hlines
  · rw [← List.singleton_append, ← List.append_assoc]
    exact hlines.trans (.event _ _ _ _)

theorem writes_tellRefusal (s : Session) (r : Refusal) (flaws : Flaws) :
    Writes (Remark.refused s.label r flaws) s (s.tellRefusal r flaws) := by
  have hrecord : Writes [] s (s.record .engine s!"commandError {s.label}") := .record s _
  unfold tellRefusal Remark.refused
  dsimp only
  split
  · exact hrecord
  · split
    · exact hrecord.trans (writes_line _ _)
    · exact (hrecord.trans (writes_line _ _)).trans (.event _ _ _ _)

theorem writes_tellUnexpected (s : Session) (failure : Failure) :
    Writes (Remark.unexpected s.label failure) s (s.tellUnexpected failure) := by
  have hline := (Writes.record s s!"unexpectedError {s.label}").trans
    (writes_line _ (.error Problem.unexpectedMessage))
  unfold tellUnexpected reportFailure Remark.unexpected
  dsimp only
  split
  · exact hline
  · split
    · exact hline.trans (.fault _ _ _ _)
    · exact (hline.trans (.fault _ _ _ _)).trans (.event _ _ _ _)

/-! ## Ends -/

/-- **A failure ends a chain** and says what it has to say. -/
theorem fail_eq_finish {failure : Failure} (hf : failure ≠ .cancelled) (s : Session)
    (pipe : Pipe) : ∃ t, Writes (failure.remarks s.label pipe) s t ∧
      s.fail pipe failure = t.finish failure.status none := by
  cases failure with
  | cancelled => exact absurd rfl hf
  | fault f flaws => exact ⟨_, writes_tellUnexpected s (.fault f flaws), rfl⟩
  | noResult command received =>
      exact ⟨_, writes_tellUnexpected s (.noResult command received), rfl⟩
  | refusal r flaws =>
      unfold fail Failure.remarks Failure.status
      dsimp only
      split
      · exact ⟨_, writes_tellInterruption s pipe r flaws, rfl⟩
      · exact ⟨_, writes_tellRefusal s r flaws, rfl⟩

/-- **A chain that is through** says so, and then it depends on the delay what becomes of
it. -/
theorem complete_eq (s : Session) (pipe : Pipe) :
    ∃ t, Writes (Remark.completed s.label pipe) s t ∧ s.complete pipe =
      match Delay.afterChain s.engine.stepDelay with
      | .error fault => t.fail pipe (.fault fault)
      | .ok .none => t.finish .completed pipe
      | .ok .forever => t.setPhase (.pacing pipe)
      | .ok (.millis q) =>
        { t.setPhase (.pacing pipe) with
          timers := (t.setPhase (.pacing pipe)).timers ++
            [⟨(t.setPhase (.pacing pipe)).now + q, .chain⟩] } := by
  have htold : Writes (Remark.completed s.label pipe) s
      ((s.addOutput (pipe.getD [])).report .engine .info "chain completed"
        [("chain", .str s.label)]) :=
    (Writes.output s (pipe.getD [])).trans (.event _ _ _ _)
  unfold complete
  dsimp only
  generalize (s.addOutput (pipe.getD [])).report .engine .info "chain completed"
    [("chain", .str s.label)] = t at htold
  have hdelay : t.engine.stepDelay = s.engine.stepDelay := by rw [(around_of_writes htold).engine]
  refine ⟨t, htold, ?_⟩
  cases hd : Delay.afterChain s.engine.stepDelay with
  | error fault => simp only [hdelay, hd]
  | ok delay => cases delay <;> simp only [hdelay, hd]

end Session

end CommandShell
