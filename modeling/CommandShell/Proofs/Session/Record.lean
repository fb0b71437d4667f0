import CommandShell.Proofs.Session.Telling

/-!
# The record of what was said

What a session has said is the record of its buffer, its log and its reports: the lines
that wait are the last ones that were added, the events that are kept are the last ones
that were logged, and the faults are those that were reported (`Recorded`). It stays so
whatever the session tells (`recorded_of_tells`).
-/

namespace CommandShell

theorem lastOf_nil {α : Type} (limit : Option Nat) : lastOf limit ([] : List α) = [] := by
  unfold lastOf
  split
  · rfl
  · exact List.drop_nil

theorem lastOf_append {α : Type} (limit : Option Nat) (xs ys : List α) :
    lastOf limit (lastOf limit xs ++ ys) = lastOf limit (xs ++ ys) := by
  cases limit with
  | none => rfl
  | some n =>
      have hdrop : xs.drop (xs.length - n) ++ ys = (xs ++ ys).drop (xs.length - n) := by
        rw [List.drop_append_of_le_length (by omega)]
      unfold lastOf
      dsimp only
      rw [hdrop, List.drop_drop, List.length_drop, List.length_append]
      congr 1
      omega

namespace Remark

/-- The event in the log of a session. -/
def event? (session : String) : Remark → Option Event
  | .event service level message more =>
    some (Event.of session service.name level.name message more)
  | _ => none

/-- The report of a fault. -/
def fault? : Remark → Option (Problem × String)
  | .fault _ problem kind => some (problem, kind)
  | _ => none

end Remark

namespace Session

variable {C : Prop} {P : Remark → Prop} {s t : Session}

/-- What is said is what there is: the lines that wait are the last ones that were added,
the events that are kept are the last ones that were logged, and the faults are those
that were reported. -/
structure Recorded (s : Session) : Prop where
  lines : s.output.lines <:+ s.said.filterMap fun x => x.2.line?
  events : ∀ c, s.context = some c →
    c.events = lastOf c.eventLimit (s.said.filterMap fun x => x.2.event? c.session)
  faults : s.faults.getD [] = s.said.filterMap fun x => x.2.fault?

theorem recorded_of_eq (h : s.Recorded) (ho : t.output.lines = s.output.lines)
    (hc : t.context = s.context) (hf : t.faults = s.faults) (hs : t.said = s.said) :
    t.Recorded where
  lines := by rw [ho, hs]; exact h.lines
  events := by rw [hc, hs]; exact h.events
  faults := by rw [hf, hs]; exact h.faults

theorem recorded_addOutput (h : s.Recorded) (lines : List Line) :
    (s.addOutput lines).Recorded := by
  have hwords (xs : List Line) (id : Option Nat) :
      (xs.map fun line => (id, Remark.line line)).filterMap (fun x => x.2.line?) = xs ∧
      (∀ session, (xs.map fun line => (id, Remark.line line)).filterMap
        (fun x => x.2.event? session) = []) ∧
      (xs.map fun line => (id, Remark.line line)).filterMap (fun x => x.2.fault?) = [] := by
    refine ⟨?_, fun session => ?_, ?_⟩
    · simp [Remark.line?]
    · simp [Remark.event?]
    · simp [Remark.fault?]
  -- the lines that are told are those that the buffer has taken, all of them or none
  have hadded : (s.output.addAll lines).output.lines =
      s.output.lines ++ (s.output.addAll lines).output.lines.drop s.output.lines.length := by
    unfold Output.addAll
    split
    · simp
    · simp
  obtain ⟨hlines, hevents, hfaults⟩ := hwords
    ((s.output.addAll lines).output.lines.drop s.output.lines.length) s.engine.running?
  refine ⟨?_, ?_, ?_⟩
  · show (s.output.addAll lines).output.lines <:+ (s.said ++ _).filterMap _
    obtain ⟨before, hbefore⟩ := h.lines
    rw [List.filterMap_append, hlines, hadded, ← hbefore, List.append_assoc]
    simp
  · intro c hc
    show c.events = lastOf c.eventLimit ((s.said ++ _).filterMap _)
    rw [List.filterMap_append, hevents, List.append_nil]
    exact h.events c hc
  · show s.faults.getD [] = (s.said ++ _).filterMap _
    rw [List.filterMap_append, hfaults, List.append_nil]
    exact h.faults

theorem recorded_report (h : s.Recorded) (service : Service) (level : Level) (message : String)
    (more : Table Value) : (s.report service level message more).Recorded := by
  cases hc : s.context with
  | none =>
      refine recorded_of_eq h rfl ?_ rfl ?_
      · show s.context.map _ = s.context
        rw [hc]
        rfl
      · show s.said ++ s.context.toList.map _ = s.said
        rw [hc]
        exact List.append_nil _
  | some c =>
      have hsaid : (s.report service level message more).said =
          s.said ++ [(s.engine.running?, .event service level message more)] := by
        unfold report
        rw [hc]
        rfl
      refine ⟨?_, ?_, ?_⟩
      · rw [hsaid, List.filterMap_append]
        exact (List.append_nil _).symm ▸ h.lines
      · intro c' hc'
        obtain rfl : c.log service.name level.name message more = c' := by
          unfold report at hc'
          rw [hc] at hc'
          exact Option.some.inj hc'
        rw [hsaid, List.filterMap_append]
        show lastOf c.eventLimit (c.events ++ _) = _
        rw [h.events c hc, lastOf_append]
        rfl
      · rw [hsaid, List.filterMap_append]
        exact (List.append_nil _).symm ▸ h.faults

theorem recorded_reportFault (h : s.Recorded) (phase : String) (problem : Problem)
    (kind : String) : (s.reportFault phase problem kind).Recorded := by
  cases hf : s.faults with
  | none =>
      refine recorded_of_eq h rfl rfl ?_ ?_
      · show s.faults.map _ = s.faults
        rw [hf]
        rfl
      · show s.said ++ s.faults.toList.map _ = s.said
        rw [hf]
        exact List.append_nil _
  | some faults =>
      have hsaid : (s.reportFault phase problem kind).said =
          s.said ++ [(s.engine.running?, .fault phase problem kind)] := by
        unfold reportFault
        rw [hf]
        rfl
      have hnow : (s.reportFault phase problem kind).faults =
          some (faults ++ [(problem, kind)]) := by
        unfold reportFault
        rw [hf]
        rfl
      refine ⟨?_, ?_, ?_⟩
      · rw [hsaid, List.filterMap_append]
        exact (List.append_nil _).symm ▸ h.lines
      · intro c hc
        rw [hsaid, List.filterMap_append]
        exact (List.append_nil _).symm ▸ h.events c hc
      · have hbefore := h.faults
        rw [hf] at hbefore
        rw [hsaid, hnow, List.filterMap_append, ← hbefore]
        rfl

/-- **The record is kept**, whatever is told. -/
theorem recorded_of_tells (h : s.Recorded) (ht : Tells C P s t) : t.Recorded := by
  induction ht with
  | untold hu => exact recorded_of_eq h hu.lines hu.context hu.faults hu.said
  | render s line => exact recorded_of_eq h rfl rfl rfl rfl
  | clear s =>
      unfold clearSurface
      split
      · dsimp only
        split <;> exact recorded_of_eq h rfl rfl rfl rfl
      · exact h
  | prompt s =>
      unfold requestPrompt
      split
      · split
        · exact h
        · exact recorded_of_eq h rfl rfl rfl rfl
      · exact h
  | close s => exact recorded_of_eq h rfl rfl rfl rfl
  | drain s => exact ⟨List.nil_suffix, h.events, h.faults⟩
  | warn s _ _ =>
      refine ⟨h.lines, ?_, h.faults⟩
      intro c hc
      obtain ⟨c₀, hc₀, rfl⟩ := Option.map_eq_some_iff.mp hc
      exact h.events c₀ hc₀
  | output s _ => exact recorded_addOutput h _
  | event s _ => exact recorded_report h _ _ _ _
  | fault s _ => exact recorded_reportFault h _ _ _
  | trans _ _ ih ih' => exact ih' (ih h)

end Session

end CommandShell
