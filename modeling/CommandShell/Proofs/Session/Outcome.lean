import CommandShell.Proofs.Session.Cancellation
import CommandShell.Proofs.Session.Verdict

/-!
# How chains end

A chain is completed, or an interruption aborts it, or it fails; and all that is said of
it is what goes with that end (`Finished.IsTold`). Two more ends are possible
(`Finished.Ends`): a chain may be through with its stages and fail since the delay after
it cannot be computed, and a handler may end the task of its chain.

What comes from outside ends no chain and brings none on (`goesOn_of_calls`).
-/

namespace CommandShell

/-- No handler of a chain ends its task. -/
def Run.SparesTask (r : Run) : Prop := ∀ h ∈ r.handlers, ¬ h.ComesTo (.fail .cancelled)

/-- All stages of a chain are completed. -/
def Run.IsThrough (r : Run) : Prop := r.produced.length = r.entry.chain.fragments.length

/-- What was said of a running chain by now. -/
def Run.remarks (r : Run) : List Remark :=
  match r.phase with
  | .fresh => []
  | .active | .suspended _ => [.started r.entry.label]
  | .pacing result => .started r.entry.label :: Remark.completed r.entry.label result

/-- How a chain has ended, and all that was said of it. Of a failure this is as much as
can be read of it. -/
inductive Finished.IsTold (f : Finished) : List Remark → Prop
  /-- All its stages are completed, and the last one's pipe goes to the buffer. -/
  | completed (hstatus : f.status = .completed) (hall : f.run.IsThrough) :
      IsTold f (.started f.run.entry.label ::
        Remark.completed f.run.entry.label f.run.lastPipe)
  /-- An interruption has ended it. What its last completed stage has handed on goes to
  the buffer, and one line. -/
  | aborted {r : Refusal} {flaws : Flaws} (hraises : f.run.Raises (.refusal r flaws))
      (hkind : r.kind = .interrupted) (hstatus : f.status = .aborted) :
      IsTold f (.started f.run.entry.label ::
        Remark.aborted f.run.entry.label f.run.lastPipe r flaws)
  /-- Another failure of the shell's own has ended it, and its message is the one line
  that goes to the buffer. -/
  | refused {r : Refusal} {flaws : Flaws} (hraises : f.run.Raises (.refusal r flaws))
      (hkind : r.kind ≠ .interrupted) (hstatus : f.status = .failed) :
      IsTold f (.started f.run.entry.label :: Remark.refused f.run.entry.label r flaws)
  /-- Anything else has ended it. The one line does not tell what, but a report does. -/
  | unexpected {failure : Failure} (hraises : f.run.Raises failure)
      (hother : ∀ r flaws, failure ≠ .refusal r flaws) (hstatus : f.status = .failed) :
      IsTold f (.started f.run.entry.label :: Remark.unexpected f.run.entry.label failure)

/-- How a chain has ended where `delay` comes after a chain, and all that was said of
it. -/
inductive Finished.Ends (delay : Value) (f : Finished) : List Remark → Prop
  | told {remarks : List Remark} (h : f.IsTold remarks)
      (hdelay : f.status = .completed → ∃ d, Delay.afterChain delay = .ok d) : Ends delay f remarks
  /-- All its stages are completed and the last one's pipe goes to the buffer, but then the
  delay cannot be computed. -/
  | undelayed {fault : Fault} (hdelay : Delay.afterChain delay = .error fault)
      (hall : f.run.IsThrough) (hc : f.run.token.isCancelled = false)
      (hstatus : f.status = .failed) :
      Ends delay f (.started f.run.entry.label ::
        (Remark.completed f.run.entry.label f.run.lastPipe ++
          Remark.unexpected f.run.entry.label (.fault fault)))
  /-- A handler has ended its task. -/
  | released {remarks : List Remark} (hspares : ¬ f.run.SparesTask)
      (hc : f.run.token.isCancelled = true) (hstatus : f.status = .aborted) : Ends delay f remarks

theorem Finished.isTold_of_ends {delay : Value} {f : Finished} {remarks : List Remark} {d : Delay}
    (h : f.Ends delay remarks) (hd : Delay.afterChain delay = .ok d) (hspares : f.run.SparesTask) :
    f.IsTold remarks := by
  cases h with
  | told h _ => exact h
  | undelayed hfault =>
      rw [hd] at hfault
      cases hfault
  | released h => exact absurd hspares h

theorem Finished.isTold_of_cancelled {delay : Value} {f : Finished} {remarks : List Remark}
    (h : f.Ends delay remarks) (hc : f.run.token.isCancelled = true) (hspares : f.run.SparesTask) :
    f.IsTold remarks := by
  cases h with
  | told h _ => exact h
  | undelayed _ _ hnot =>
      rw [hc] at hnot
      cases hnot
  | released h => exact absurd hspares h

/-- A phase, but for what a handler that waits is waiting for. -/
def Phase.course : Phase → Phase
  | .suspended p => .suspended { p with wait := .turn }
  | phase => phase

/-- A running chain has not got on. It may have been cancelled meanwhile. -/
structure Run.SameCourse (r r' : Run) : Prop where
  entry : r'.entry = r.entry
  phase : r'.phase.course = r.phase.course
  invoked : r'.invoked = r.invoked
  produced : r'.produced = r.produced
  cancelled : r.token.isCancelled = true → r'.token.isCancelled = true

namespace Run

variable {r r' : Run}

theorem remarks_congr (h : r.SameCourse r') : r'.remarks = r.remarks := by
  have hphase := h.phase
  unfold remarks
  rw [h.entry]
  cases hp : r.phase <;> cases hp' : r'.phase <;> simp_all [Phase.course]

theorem fresh_of_sameCourse (h : r.SameCourse r') (hp : r.phase = .fresh) :
    r'.phase = .fresh := by
  have hphase := h.phase
  rw [hp] at hphase
  cases hp' : r'.phase <;> simp_all [Phase.course]

/-- Only a handler ends the task of its chain. -/
theorem not_sparesTask_of_raises (h : r.Raises .cancelled) : ¬ r.SparesTask := by
  generalize hf : Failure.cancelled = failure at h
  cases h with
  | heeded _ h => cases hf
  | declined _ _ h =>
      cases h with
      | unknown => cases hf
      | refused h => cases hf
      | fault h => cases hf
  | failed _ h =>
      subst hf
      obtain ⟨v, h₀, -, hh, -, hcomes⟩ := h
      exact fun hspares => hspares h₀ (List.mem_of_getLast? hh) hcomes
  | @answered name outcome _ _ _ hpipe =>
      subst hf
      cases outcome <;> cases hpipe

/-- Nothing goes wrong with a chain that is through, unless it is cancelled. -/
theorem not_isThrough_of_raises {failure : Failure} (hstep : r.InStep) (h : r.Raises failure)
    (hc : r.token.isCancelled = false) : ¬ r.IsThrough := by
  have hle := hstep.invoked_length_le
  have hproduced := hstep.produced_le
  intro hall
  unfold IsThrough at hall
  -- a stage that raises has not handed on, and a token that is heeded is cancelled
  cases h with
  | heeded _ h =>
      unfold Token.interruption? at h
      unfold Token.isCancelled at hc
      cases hreason : r.token.reason with
      | none => rw [hreason] at h; cases h
      | some reason => rw [hreason] at hc; cases hc
  | declined _ hf _ =>
      have hlt := (List.getElem?_eq_some_iff.mp hf).1
      omega
  | failed hcount _ => omega
  | answered hcount _ _ => omega

/-- How the failure that a chain has come to ends it. -/
theorem isTold_of_raises {failure : Failure} (h : r.Raises failure) (hf : failure ≠ .cancelled) :
    (Finished.mk r failure.status).IsTold
      (.started r.entry.label :: failure.remarks r.entry.label r.lastPipe) := by
  cases failure with
  | cancelled => exact absurd rfl hf
  | fault f flaws => exact .unexpected h (by rintro _ _ ⟨⟩) rfl
  | noResult command received => exact .unexpected h (by rintro _ _ ⟨⟩) rfl
  | refusal x flaws =>
      by_cases hkind : x.kind = .interrupted
      · simp only [Failure.status, Failure.remarks, if_pos hkind]
        exact .aborted h hkind rfl
      · simp only [Failure.status, Failure.remarks, if_neg hkind]
        exact .refused h hkind rfl

end Run

namespace Engine

/-- No chain gets on or ends, but one may have been started. -/
structure GoesOn (e e' : Engine) : Prop where
  finished : e'.finished = e.finished
  run : ∀ r, e.run = some r → ∃ r', e'.run = some r' ∧ r.SameCourse r'
  start : e.run = none → ∀ r', e'.run = some r' → r'.phase = .fresh

variable {e e' e'' : Engine}

theorem goesOn_refl (e : Engine) : e.GoesOn e := by
  refine ⟨rfl, fun r hr => ⟨r, hr, rfl, rfl, rfl, rfl, id⟩, ?_⟩
  intro hnone r hr
  rw [hnone] at hr
  cases hr

theorem GoesOn.trans (h : e.GoesOn e') (h' : e'.GoesOn e'') : e.GoesOn e'' := by
  refine ⟨h'.finished.trans h.finished, ?_, ?_⟩
  · intro r hr
    obtain ⟨r₁, hr₁, hsame⟩ := h.run r hr
    obtain ⟨r₂, hr₂, hsame'⟩ := h'.run r₁ hr₁
    exact ⟨r₂, hr₂, hsame'.entry.trans hsame.entry, hsame'.phase.trans hsame.phase,
      hsame'.invoked.trans hsame.invoked, hsame'.produced.trans hsame.produced,
      hsame'.cancelled ∘ hsame.cancelled⟩
  · intro hnone r₂ hr₂
    cases hr₁ : e'.run with
    | none => exact h'.start hr₁ r₂ hr₂
    | some r₁ =>
        -- a chain that was started in the first part has not got on in the second
        obtain ⟨r', hr', hsame⟩ := h'.run r₁ hr₁
        obtain rfl := Option.some.inj (hr'.symm.trans hr₂)
        exact Run.fresh_of_sameCourse hsame (h.start hnone r₁ hr₁)

theorem goesOn_apply (e : Engine) {m : Move} (hm : m.IsOutside) : e.GoesOn (e.apply m) := by
  have hgoes (status : Status) (result : Pipe) : m ≠ .finish status result := by
    rintro rfl
    exact hm
  refine ⟨?_, ?_, ?_⟩
  · rw [finished_apply]
    split
    · exact absurd rfl (hgoes _ _)
    · rfl
  · intro r hr
    obtain ⟨hinvoked, -, hproduced⟩ := Run.apply_of_outside r hm
    refine ⟨_, run_apply hr hgoes, Run.apply_entry r m, ?_, hinvoked, hproduced,
      (Run.cancelled_of_outside · hm)⟩
    rcases Run.phase_apply r hm with heq | ⟨p, hp, -, heq⟩
    · rw [heq]
    · rw [heq, hp]
      rfl
  · intro hnone r hr
    rcases run_apply_cases hr with ⟨r', hr', -⟩ | ⟨x, rfl⟩
    · rw [hnone] at hr'
      cases hr'
    · rfl

theorem ended_congr (h : e'.finished = e.finished) : e'.ended = e.ended := by
  unfold ended
  rw [h]

theorem ids_started {r : Run} (hr : e.run = some r) :
    ids e.started = ids e.ended ++ [r.entry.id] := by
  unfold started running
  rw [hr, ids_append]
  rfl

/-- A chain that runs is not over. -/
theorem unended_of_run {r : Run} (hids : (ids e.started).Nodup) (hr : e.run = some r) :
    r.entry.id ∉ ids e.ended := by
  rw [ids_started hr] at hids
  intro hover
  exact (List.nodup_append.mp hids).2.2 _ hover _ (List.mem_singleton_self _) rfl

theorem started_of_goesOn (h : e.GoesOn e') : ids e.started ⊆ ids e'.started := by
  have hended := ended_congr h.finished
  cases hr : e.run with
  | none =>
      have hstarted : e.started = e'.ended := by
        unfold started running
        rw [hr, hended]
        exact List.append_nil _
      rw [hstarted]
      unfold started
      rw [ids_append]
      exact List.subset_append_left _ _
  | some r =>
      obtain ⟨r', hr', hsame⟩ := h.run r hr
      rw [ids_started hr, ids_started hr', hended, hsame.entry]
      exact List.Subset.refl _

/-- The chain that runs has run before, or it has just been started. -/
theorem run_of_goesOn (h : e.GoesOn e') (hids : (ids e'.started).Nodup) {r' : Run}
    (hr' : e'.run = some r') :
    (∃ r, e.run = some r ∧ r.SameCourse r') ∨
      (r'.phase = .fresh ∧ r'.entry.id ∉ ids e.started) := by
  cases hr : e.run with
  | none =>
      have hstarted : e.started = e'.ended := by
        unfold started running
        rw [hr, ended_congr h.finished]
        exact List.append_nil _
      rw [hstarted]
      exact Or.inr ⟨h.start hr r' hr', unended_of_run hids hr'⟩
  | some r =>
      obtain ⟨r₁, hr₁, hsame⟩ := h.run r hr
      obtain rfl := Option.some.inj (hr₁.symm.trans hr')
      exact Or.inl ⟨r, rfl, hsame⟩

end Engine

namespace Session

variable {s₀ s t u : Session} {x : Entry} {r : Run} {delay : Value}

theorem goesOn_of_calls (h : Calls s t) : s.engine.GoesOn t.engine := by
  induction h with
  | around ha =>
      rw [ha.engine]
      exact Engine.goesOn_refl _
  | move s hm =>
      rw [onEngine_engine]
      exact Engine.goesOn_apply s.engine hm
  | trans _ _ ih ih' => exact ih.trans ih'

end Session

end CommandShell
