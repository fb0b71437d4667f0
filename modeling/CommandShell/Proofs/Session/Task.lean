import CommandShell.Proofs.Session.Course
import CommandShell.Proofs.Session.Remarks

/-!
# One task at a time

The running chain has one piece of work before it, or it waits for its release,
and without a running chain there is none (`Tasked`). The number of turns and the
phase of the chain are kept together: that a move gives the chain a turn, and does
not give it a second one, depends on the phase that it is in. It holds whenever the
session is at rest, that is, between two pieces of work.
-/

namespace CommandShell

/-- The chain goes on when some time is over. -/
def Run.wantsSleep (r : Run) (delay : Value) : Bool :=
  match r.phase with
  | .suspended p => p.wait == .sleep
  | .pacing _ =>
    match Delay.afterChain delay with
    | .ok (.millis _) => true
    | _ => false
  | _ => false

namespace Run

variable {r r' : Run}

theorem wantsTurn_congr (h : r'.phase = r.phase) : r'.wantsTurn = r.wantsTurn := by
  unfold wantsTurn
  rw [h]

theorem wantsSleep_congr (h : r'.phase = r.phase) (delay : Value) :
    r'.wantsSleep delay = r.wantsSleep delay := by
  unfold wantsSleep
  rw [h]

/-- A chain waits for its turn or for a timer, not for both. -/
theorem wantsSleep_of_wantsTurn (h : r.wantsTurn = true) (delay : Value) :
    r.wantsSleep delay = false := by
  unfold wantsTurn at h
  unfold wantsSleep
  split at h <;> simp_all

end Run

namespace Engine

theorem wantsTurn_of_run {e : Engine} {r : Run} (h : e.run = some r) :
    e.wantsTurn = r.wantsTurn := by
  unfold wantsTurn
  rw [h]
  rfl

theorem wantsTurn_of_none {e : Engine} (h : e.run = none) : e.wantsTurn = false := by
  unfold wantsTurn
  rw [h]
  rfl

end Engine

namespace Session

/-- A session that is at rest has a task exactly if a chain runs: the one piece of work
that the chain waits for. -/
structure Tasked (s : Session) : Prop where
  unset : s.engine.run = none → s.turns = 0 ∧ s.sleeps = 0
  set : ∀ r, s.engine.run = some r → r.phase ≠ .active ∧
    s.turns = (if r.wantsTurn then 1 else 0) ∧
    s.sleeps = (if r.wantsSleep s.engine.stepDelay then 1 else 0)

variable {s s' s'' : Session} {x : Entry} {r : Run}

theorem tasked_of_none (hr : s.engine.run = none) (ht : s.turns = 0) (hs : s.sleeps = 0) :
    s.Tasked where
  unset _ := ⟨ht, hs⟩
  set r h := by
    rw [hr] at h
    cases h

theorem tasked_of_run (hr : s.engine.run = some r) (hphase : r.phase ≠ .active)
    (ht : s.turns = if r.wantsTurn then 1 else 0)
    (hs : s.sleeps = if r.wantsSleep s.engine.stepDelay then 1 else 0) : s.Tasked where
  unset h := by
    rw [hr] at h
    cases h
  set r' h := by
    rw [hr] at h
    obtain rfl := Option.some.inj h
    exact ⟨hphase, ht, hs⟩

/-- There is one piece of work at most. -/
theorem turns_add_sleeps_le (h : s.Tasked) : s.turns + s.sleeps ≤ 1 := by
  cases hr : s.engine.run with
  | none =>
      obtain ⟨ht, hs⟩ := h.unset hr
      omega
  | some r =>
      obtain ⟨-, ht, hs⟩ := h.set r hr
      rw [ht, hs]
      cases hwants : r.wantsTurn with
      | true =>
          rw [Run.wantsSleep_of_wantsTurn hwants]
          simp
      | false =>
          rw [if_neg Bool.false_ne_true]
          split <;> omega

/-- Where there is work, a chain runs. -/
theorem run_of_work (h : s.Tasked) (hpos : 0 < s.turns + s.sleeps) :
    ∃ r, s.engine.run = some r ∧ r.phase ≠ .active := by
  cases hr : s.engine.run with
  | none =>
      obtain ⟨ht, hs⟩ := h.unset hr
      omega
  | some r => exact ⟨r, rfl, (h.set r hr).1⟩

theorem tasked_of_around (h : s.Tasked) (ha : Around s s') : s'.Tasked where
  unset := by
    rw [ha.engine, ha.turns, ha.sleeps]
    exact h.unset
  set := by
    rw [ha.engine, ha.turns, ha.sleeps]
    exact h.set

/-! ## Calls -/

/-- A session without a turn moves its engine: a chain may be started, and gets its
turn. -/
theorem tasked_of_start {m : Move} (hwants : s.engine.wantsTurn = false) (ht : s.turns = 0)
    (hs : s.sleeps = 0)
    (hrun : ∀ r, (s.engine.apply m).run = some r → ∃ x, r = Run.start x) :
    (s.onEngine m).Tasked := by
  have hturns := onEngine_turns s m
  have hsleeps := onEngine_sleeps s m
  rw [ht, hwants, Nat.zero_add] at hturns
  rw [hs] at hsleeps
  cases hr : (s.engine.apply m).run with
  | none =>
      rw [Engine.wantsTurn_of_none hr] at hturns
      exact tasked_of_none (by rw [onEngine_engine, hr]) hturns hsleeps
  | some r =>
      obtain ⟨x, rfl⟩ := hrun r hr
      rw [Engine.wantsTurn_of_run hr, Bool.not_false, Bool.and_true] at hturns
      exact tasked_of_run (by rw [onEngine_engine, hr]) (by rintro ⟨⟩) hturns hsleeps

theorem tasked_onEngine (h : s.Tasked) {m : Move} (hm : m.IsOutside) :
    (s.onEngine m).Tasked := by
  cases hr : s.engine.run with
  | none =>
      obtain ⟨ht, hs⟩ := h.unset hr
      refine tasked_of_start (Engine.wantsTurn_of_none hr) ht hs ?_
      intro r' hr'
      rcases Engine.run_apply_cases hr' with ⟨r, hr'', -⟩ | hstart
      · rw [hr] at hr''
        cases hr''
      · exact hstart
  | some r =>
      have hrun : (s.engine.apply m).run = some (r.apply m) := by
        refine Engine.run_apply hr ?_
        rintro status result rfl
        exact hm
      obtain ⟨hphase, ht, hs⟩ := h.set r hr
      have hturns := onEngine_turns s m
      have hsleeps := onEngine_sleeps s m
      rw [ht, Engine.wantsTurn_of_run hr, Engine.wantsTurn_of_run hrun] at hturns
      rw [hs] at hsleeps
      -- only a release changes the phase, and it gives the turn that the session adds
      refine tasked_of_run (by rw [onEngine_engine, hrun]) ?_ ?_ ?_
      · rcases Run.phase_apply r hm with heq | ⟨p, -, -, heq⟩
        · rwa [heq]
        · rw [heq]
          rintro ⟨⟩
      · rw [hturns]
        rcases Run.phase_apply r hm with heq | ⟨p, hp, hw, heq⟩
        · rw [Run.wantsTurn_congr heq]
          simp
        · simp [Run.wantsTurn, heq, hp, hw]
      · rw [hsleeps, onEngine_engine, Engine.stepDelay_apply]
        rcases Run.phase_apply r hm with heq | ⟨p, hp, hw, heq⟩
        · rw [Run.wantsSleep_congr heq]
        · simp [Run.wantsSleep, heq, hp, hw]

/-- Calls give the running chain no work that it has already. -/
theorem tasked_of_calls (h : s.Tasked) (hc : Calls s s') : s'.Tasked := by
  induction hc with
  | around ha => exact tasked_of_around h ha
  | move s hm => exact tasked_onEngine h hm
  | trans _ _ ih ih' => exact ih' (ih h)

/-! ## Ends and pauses -/

/-- The engine makes moves that it allows, and the session is at rest afterwards. -/
structure Yields (s s' : Session) : Prop where
  leads : Leads s s'
  tasked : s'.Tasked

theorem yields_of_leads (h : Leads s s') (hy : Yields s' s'') : Yields s s'' :=
  ⟨leads_trans h hy.leads, hy.tasked⟩

/-- A chain ends whose turn was taken, or whose timer has gone off. -/
theorem yields_finish (hr : s.engine.run = some r) (hwants : r.wantsTurn = false)
    (ht : s.turns = 0) (hs : s.sleeps = 0) {status : Status} {result : Pipe}
    (hm : r.Allows (.finish status result)) : Yields s (s.finish status result) := by
  have hmove := leads_onEngine (s := s) (m := .finish status result) ⟨r, hr, hm⟩
  have hwake := around_wake (s.onEngine (.finish status result)) (· == .ending)
  have htasked : (s.onEngine (.finish status result)).Tasked := by
    refine tasked_of_start ?_ ht hs fun r' hr' => Engine.run_finish hr'
    rw [Engine.wantsTurn_of_run hr, hwants]
  exact ⟨leads_trans hmove (leads_of_around hwake), tasked_of_around htasked hwake⟩

theorem wantsTurn_of_active (h : s.Active x r) : r.wantsTurn = false := by
  unfold Run.wantsTurn
  rw [h.phase]

/-- A chain that is carried out may end at any time, but not as completed. -/
theorem yields_finish_of_active (h : s.Active x r) {status : Status} (hne : status ≠ .completed)
    (result : Pipe) : Yields s (s.finish status result) :=
  yields_finish h.run (wantsTurn_of_active h) h.turns h.sleeps fun heq => absurd heq hne

theorem yields_fail (h : s.Active x r) (pipe : Pipe) (failure : Failure) :
    Yields s (s.fail pipe failure) := by
  have hend {t : Session} {status : Status} (hleads : Leads s t) (ha : ∃ r, t.Active x r)
      (hne : status ≠ .completed) : Yields s (t.finish status none) := by
    obtain ⟨r', ha⟩ := ha
    exact yields_of_leads hleads (yields_finish_of_active ha hne none)
  by_cases hf : failure = .cancelled
  · subst hf
    have hcalls : Calls s (s.cancelRun (some "task cancelled")) := calls_call s _
    obtain ⟨r', ha, -⟩ := active_of_calls h hcalls
    exact hend (leads_of_calls hcalls) ⟨r', ha⟩ (by decide)
  · obtain ⟨t, hwrites, heq⟩ := fail_eq_finish hf s pipe
    have haround := around_of_writes hwrites
    rw [heq]
    exact hend (leads_of_around haround) ⟨r, active_of_around h haround⟩ failure.status_ne_completed

/-- A chain that is carried out comes to another phase. -/
theorem leads_setPhase (h : s.Active x r) {phase : Phase} (hfits : { r with phase }.PhaseFits) :
    Leads s (s.setPhase phase) ∧ (s.setPhase phase).engine.run = some { r with phase } ∧
      (s.setPhase phase).turns = (if { r with phase }.wantsTurn then 1 else 0) ∧
      (s.setPhase phase).sleeps = 0 := by
  have hrun : (s.engine.apply (.phase phase)).run = some { r with phase } :=
    Engine.run_apply h.run (by rintro _ _ ⟨⟩)
  refine ⟨leads_onEngine ⟨r, h.run, hfits⟩, ?_, ?_, ?_⟩
  · rw [setPhase, onEngine_engine, hrun]
  · rw [setPhase, onEngine_turns, h.turns]
    rw [Engine.wantsTurn_of_run hrun, Engine.wantsTurn_of_run h.run, wantsTurn_of_active h]
    simp
  · rw [setPhase, onEngine_sleeps, h.sleeps]

/-- The chain waits without a timer. -/
theorem yields_setPhase (h : s.Active x r) {phase : Phase} (hfits : { r with phase }.PhaseFits)
    (hsleep : { r with phase }.wantsSleep s.engine.stepDelay = false)
    (hphase : phase ≠ .active) : Yields s (s.setPhase phase) := by
  obtain ⟨hleads, hr, ht, hs⟩ := leads_setPhase h hfits
  refine ⟨hleads, tasked_of_run hr hphase ht ?_⟩
  rw [hs, setPhase, onEngine_engine, Engine.stepDelay_apply, hsleep]
  rfl

/-- The chain waits until a timer goes off. -/
theorem yields_setPhase_timer (h : s.Active x r) {phase : Phase}
    (hfits : { r with phase }.PhaseFits)
    (hsleep : { r with phase }.wantsSleep s.engine.stepDelay = true) (due : Rat) :
    Yields s { s.setPhase phase with timers := (s.setPhase phase).timers ++ [⟨due, .chain⟩] } := by
  obtain ⟨hleads, hr, ht, hs⟩ := leads_setPhase h hfits
  refine ⟨leads_trans hleads (leads_of_eq rfl rfl), tasked_of_run hr ?_ ht ?_⟩
  · rintro hactive
    simp [Run.wantsSleep, show phase = .active from hactive] at hsleep
  · have hdelay : (s.setPhase phase).engine.stepDelay = s.engine.stepDelay := by
      rw [setPhase, onEngine_engine, Engine.stepDelay_apply]
    unfold sleeps at hs ⊢
    rw [List.countP_append, hs, hdelay, hsleep]
    rfl

theorem yields_complete {pipe : Pipe} (h : s.Active x r) (hat : r.AtStage [] pipe 0) :
    Yields s (s.complete pipe) := by
  have hthrough := Run.produced_length_of_atStage hat
  have hpacing : { r with phase := .pacing pipe }.PhaseFits := ⟨hthrough, hat.pipe⟩
  have ha : Around s ((s.addOutput (pipe.getD [])).report .engine .info "chain completed"
      [("chain", .str s.label)]) := ⟨rfl, rfl, rfl, rfl⟩
  unfold complete
  dsimp only
  generalize (s.addOutput (pipe.getD [])).report .engine .info "chain completed"
    [("chain", .str s.label)] = t at ha ⊢
  have h' := active_of_around h ha
  refine yields_of_leads (leads_of_around ha) ?_
  split
  · exact yields_fail h' _ _
  · exact yields_finish h'.run (wantsTurn_of_active h') h'.turns h'.sleeps
      fun _ => ⟨hthrough, hat.pipe⟩
  · rename_i hdelay
    refine yields_setPhase h' hpacing ?_ (by rintro ⟨⟩)
    simp [Run.wantsSleep, hdelay]
  · rename_i q hdelay
    refine yields_setPhase_timer h' hpacing ?_ _
    simp [Run.wantsSleep, hdelay]

theorem yields_suspend {p : Suspended} (h : s.Active x r) (hat : r.AtStage p.rest p.pipe 1)
    (hwork : r.AtWork p.name p.handler) (pause : Pause) : Yields s (s.suspend pause p) := by
  have hfits (wait : Wait) : { r with phase := .suspended { p with wait } }.PhaseFits :=
    ⟨hat.count, hat.pipe, hat.rest, hwork⟩
  cases pause with
  | turn => exact yields_setPhase h (hfits .turn) rfl (by rintro ⟨⟩)
  | release => exact yields_setPhase h (hfits .release) rfl (by rintro ⟨⟩)
  | sleep millis =>
      unfold suspend
      dsimp only
      split
      · exact yields_setPhase h (hfits .turn) rfl (by rintro ⟨⟩)
      · exact yields_setPhase_timer h (hfits .sleep) rfl _

theorem yields_conclude {stand : Stand} (h : s.Fits x stand) : Yields s (s.conclude stand) := by
  cases stand with
  | complete result =>
      obtain ⟨r, hr, hat, -⟩ := h
      exact yields_complete hr hat
  | broken pipe failure =>
      obtain ⟨r, hr, -⟩ := h
      exact yields_fail hr pipe failure
  | paused p rest =>
      obtain ⟨r, hr, hat, hwork⟩ := h
      exact yields_suspend hr hat hwork p

/-- **The running chain gets on**, once its turn was taken or its timer has gone
off. -/
theorem yields_runChain (hr : s.engine.run = some r) (hfits : r.PhaseFits) (hstep : r.InStep)
    (hphase : r.phase ≠ .active) (hturns : s.turns = 0) (hsleeps : s.sleeps = 0) :
    Yields s s.runChain := by
  rcases runChain_cases hr hphase with ⟨result, hp, heq⟩ | ⟨hpacing, heq⟩
  · rw [heq]
    unfold Run.PhaseFits at hfits
    rw [hp] at hfits
    refine yields_finish hr ?_ hturns hsleeps fun _ => hfits
    simp [Run.wantsTurn, hp]
  · rw [heq]
    have hthere := arrives_proceed hr hfits hstep hpacing hphase hturns hsleeps
    exact yields_of_leads hthere.leads (yields_conclude hthere.fits)

end Session

end CommandShell
