import CommandShell.Proofs.Session.Account

/-!
# Every chain ends

A turn of the running chain ends it or brings it on (`turn_cases`): its handler has come
to a later pause, or a later stage is at work, or its delay has begun. This can go on
finitely often only (`wellFounded_follows`), whatever comes from outside between the
turns. So a chain that has its turn again and again is over at some time
(`acc_runsOn`).
-/

namespace CommandShell

/-- A turn may bring a chain from one phase to another. -/
inductive Phase.Follows : Phase → Phase → Prop
  | begun {p : Suspended} : Follows (.suspended p) .fresh
  | stage {p q : Suspended} (h : q.rest.length < p.rest.length) :
      Follows (.suspended q) (.suspended p)
  | pause {p q : Suspended} {pause : Pause} (hrest : q.rest = p.rest)
      (h : p.handler.ComesTo (.pause pause q.handler)) : Follows (.suspended q) (.suspended p)
  | paced {result : Pipe} {phase : Phase} (h : ∀ other, phase ≠ .pacing other) :
      Follows (.pacing result) phase

namespace Phase

/-- A handler pauses finitely often. -/
theorem acc_handler (h : Handler) :
    Acc (fun q p : Handler => ∃ pause, p.ComesTo (.pause pause q)) h := by
  induction h with
  | done outcome =>
      refine ⟨_, ?_⟩
      rintro q ⟨pause, ⟨⟩⟩
  | fail failure =>
      refine ⟨_, ?_⟩
      rintro q ⟨pause, ⟨⟩⟩
  | pause p rest ih =>
      refine ⟨_, ?_⟩
      rintro q ⟨pause, hcomes⟩
      cases hcomes with
      | refl => exact ih
      | pause p hrest => exact ih.inv ⟨pause, hrest⟩
  | ask r rest ih =>
      refine ⟨_, ?_⟩
      rintro q ⟨pause, hcomes⟩
      cases hcomes with
      | ask r answer hrest => exact (ih answer).inv ⟨pause, hrest⟩

theorem acc_pacing (result : Pipe) : Acc Follows (.pacing result) := by
  refine ⟨_, ?_⟩
  intro q hq
  cases hq with
  | paced h => exact absurd rfl (h result)

/-- First the stages that are left get fewer, and at a stage the handler gets on. -/
theorem acc_suspended (p : Suspended) : Acc Follows (.suspended p) := by
  induction hn : p.rest.length using Nat.strongRecOn generalizing p with
  | _ n ih =>
      obtain ⟨handler, wait, name, pipe, rest⟩ := p
      have hhandler := acc_handler handler
      induction hhandler generalizing wait name pipe with
      | intro handler _ ih' =>
          refine ⟨_, ?_⟩
          intro q hq
          cases hq with
          | stage h => exact ih _ (hn ▸ h) _ rfl
          | pause hrest h =>
              rename_i q pause
              obtain ⟨handler', wait', name', pipe', rest'⟩ := q
              obtain rfl : rest' = rest := hrest
              exact ih' handler' ⟨pause, h⟩ wait' name' pipe' hn
          | paced h => exact acc_pacing _

theorem wellFounded_follows : WellFounded Follows := by
  refine ⟨fun phase => ?_⟩
  cases phase with
  | suspended p => exact acc_suspended p
  | pacing result => exact acc_pacing result
  | active =>
      refine ⟨_, ?_⟩
      intro q hq
      cases hq with
      | paced h => exact acc_pacing _
  | fresh =>
      refine ⟨_, ?_⟩
      intro q hq
      cases hq with
      | begun => exact acc_suspended _
      | paced h => exact acc_pacing _

/-- What a handler waits for does not matter. -/
theorem suspended_of_course {phase : Phase} {p : Suspended}
    (h : phase.course = (Phase.suspended p).course) :
    ∃ wait, phase = .suspended { p with wait } := by
  cases phase with
  | suspended p' =>
      obtain ⟨handler, wait, name, pipe, rest⟩ := p'
      obtain ⟨handler', wait', name', pipe', rest'⟩ := p
      simp only [course, suspended.injEq, Suspended.mk.injEq] at h
      obtain ⟨rfl, -, rfl, rfl, rfl⟩ := h
      exact ⟨wait, rfl⟩
  | fresh => cases h
  | active => cases h
  | pacing result => cases h

theorem follows_congr {phase q q' : Phase} (h : q.Follows phase) (hsame : q'.course = q.course) :
    q'.Follows phase := by
  cases h with
  | begun =>
      obtain ⟨wait, rfl⟩ := suspended_of_course hsame
      exact .begun
  | stage h =>
      obtain ⟨wait, rfl⟩ := suspended_of_course hsame
      exact .stage h
  | pause hrest h =>
      obtain ⟨wait, rfl⟩ := suspended_of_course hsame
      exact .pause hrest h
  | paced h =>
      cases q' with
      | pacing result => exact .paced h
      | fresh => cases hsame
      | active => cases hsame
      | suspended p => cases hsame

end Phase

namespace Session

variable {s₀ s t u v : Session} {r : Run}

/-! ## One turn -/

/-- A handler that has paused has got on, or a later stage is at work. -/
theorem paused_carryOn {rest : List Fragment} {name : String} {pipe : Pipe} {handler : Handler}
    {pause : Pause} {q : Suspended}
    (hstages : ∀ pipe s, (runStages rest pipe s).2 = .paused pause q →
      q.rest.length < rest.length)
    (h : (carryOn rest (runStages rest) name pipe (runHandler handler s)).2 = .paused pause q) :
    q.rest.length < rest.length ∨
      (q.rest = rest ∧ handler.ComesTo (.pause pause q.handler)) := by
  have hof := isOf_runHandler handler s
  generalize runHandler handler s = there at h hof
  obtain ⟨s₁, stop⟩ := there
  cases stop with
  | failed failure => cases h
  | paused p handler' =>
      cases h
      exact Or.inr ⟨rfl, hof⟩
  | done outcome =>
      simp only [carryOn] at h
      split at h
      · exact Or.inl (hstages _ _ h)
      · cases h

theorem paused_runStages {fs : List Fragment} {pipe : Pipe} {pause : Pause} {q : Suspended}
    (h : (runStages fs pipe s).2 = .paused pause q) : q.rest.length < fs.length := by
  induction fs generalizing pipe s with
  | nil =>
      unfold runStages at h
      split at h <;> cases h
  | cons f rest ih =>
      unfold runStages at h
      split at h
      · cases h
      · generalize s.beginStage f pipe = there at h
        obtain ⟨s₁, begun⟩ := there
        cases begun with
        | error failure => cases h
        | ok handler =>
            rw [List.length_cons]
            rcases paused_carryOn (fun pipe s => ih) h with hlt | ⟨heq, -⟩
            · omega
            · rw [heq]
              omega

/-- A chain that has paused has got on. -/
theorem follows_of_paused (hphase : r.phase ≠ .active)
    (hpacing : ∀ result, r.phase ≠ .pacing result) {pause : Pause} {q : Suspended}
    (h : (s.proceed r).2 = .paused pause q) :
    (Phase.suspended q).Follows r.phase := by
  rcases proceed_cases s hphase hpacing with ⟨p, hp, heq⟩ | ⟨hp, heq⟩
  · rw [heq] at h
    rw [hp]
    rcases paused_carryOn (fun pipe s => paused_runStages) h with hlt | ⟨hrest, hcomes⟩
    · exact .stage hlt
    · exact .pause hrest hcomes
  · rw [hp]
    exact .begun

/-- Why the chain `r` is over after a turn that was taken at `u`, where it is `r'` at its
end: it is through, the delay after it cannot be computed, or a failure has ended it. -/
inductive Cause (u : Session) (r r' : Run) : Status → Prop
  | through : Cause u r r' .completed
  | undelayed {fault : Fault} (h : Delay.afterChain u.engine.stepDelay = .error fault) :
      Cause u r r' .failed
  | failure {v : Session} {pipe : Pipe} {failure : Failure}
      (hpacing : ∀ result, r.phase ≠ .pacing result)
      (hproceed : u.proceed r = (v, .broken pipe failure))
      (htask : failure = .cancelled → ¬ r'.SparesTask) : Cause u r r' failure.status

/-- A turn that is taken at `u` ends the chain `r`, or brings it on. -/
inductive Turns (u : Session) (r : Run) : Session → Prop
  | ends {v : Session} {r' : Run} (hr : v.engine.run = some r')
      (hfinished : v.engine.finished = u.engine.finished) {status : Status}
      (hcause : Cause u r r' status) (result : Pipe) : Turns u r (v.finish status result)
  | goes {v : Session} {r' : Run} (hr : v.engine.run = some r')
      (hfinished : v.engine.finished = u.engine.finished)
      (hfollows : r'.phase.Follows r.phase) : Turns u r v

theorem turns_timer {r₀ : Run} {phase : Phase} (hr : v.engine.run = some r)
    (hfinished : v.engine.finished = u.engine.finished) (hfollows : phase.Follows r₀.phase)
    (timers : List Timer) : Turns u r₀ { v.setPhase phase with timers } := by
  have hrun : ({ v.setPhase phase with timers } : Session).engine.run = some { r with phase } :=
    run_setPhase hr phase
  exact .goes hrun ((finished_setPhase v phase).trans hfinished) hfollows

theorem turns_setPhase {r₀ : Run} {phase : Phase} (hr : v.engine.run = some r)
    (hfinished : v.engine.finished = u.engine.finished) (hfollows : phase.Follows r₀.phase) :
    Turns u r₀ (v.setPhase phase) :=
  turns_timer hr hfinished hfollows (v.setPhase phase).timers

theorem turns_fail {r₀ : Run} {failure : Failure} (ha : v.Active r₀.entry r)
    (hfinished : v.engine.finished = u.engine.finished) (hraises : r.Raises failure) (pipe : Pipe)
    (hcause : ∀ r', (failure = .cancelled → ¬ r'.SparesTask) → Cause u r₀ r' failure.status) :
    Turns u r₀ (v.fail pipe failure) := by
  obtain ⟨w, r', hr, hsame, hstage, heq⟩ := fail_finishes ha pipe failure
  rw [heq]
  refine .ends hr (hsame.trans hfinished) (hcause r' ?_) _
  rintro rfl hspares
  unfold Run.SparesTask at hspares
  rw [hstage.handlers] at hspares
  exact Run.not_sparesTask_of_raises hraises hspares

theorem turns_complete {r₀ : Run} (ha : v.Active r₀.entry r)
    (hfinished : v.engine.finished = u.engine.finished)
    (hdelay : v.engine.stepDelay = u.engine.stepDelay)
    (hpacing : ∀ result, r₀.phase ≠ .pacing result) (pipe : Pipe) :
    Turns u r₀ (v.complete pipe) := by
  obtain ⟨w, hwrites, heq⟩ := complete_eq v pipe
  have hengine := (around_of_writes hwrites).engine
  have hrun : w.engine.run = some r := by rw [hengine, ha.run]
  have hsame : w.engine.finished = u.engine.finished := by rw [hengine, hfinished]
  rw [heq, hdelay]
  split
  · rename_i fault hd
    have hf : Failure.fault fault ≠ .cancelled := by rintro ⟨⟩
    obtain ⟨x, hwrites', heq'⟩ := fail_eq_finish hf w pipe
    have hengine' := (around_of_writes hwrites').engine
    rw [heq']
    refine .ends (by rw [hengine', hrun]) ?_ (.undelayed hd) _
    rw [hengine', hsame]
  · exact .ends hrun hsame .through _
  · exact turns_setPhase hrun hsame (.paced hpacing)
  · exact turns_timer hrun hsame (.paced hpacing) _

/-- **A turn** ends the running chain or brings it on. -/
theorem turn_cases (h₀ : s₀.IsStart) (h : Reaches s₀ s) (hw : Wakes s u) :
    u.engine = s.engine ∧ ∃ r, s.engine.run = some r ∧ Turns u r u.runChain := by
  obtain ⟨hleads, htasked⟩ := reached h₀ h
  obtain ⟨hengine, hmoves, hturns, hsleeps, r, hrun, hphase⟩ := run_of_wakes htasked hw
  obtain ⟨hfits, hstep⟩ := run_of_leads h₀ hleads hrun
  have hleads_u : Leads s₀ u := leads_trans hleads (leads_of_eq hengine hmoves)
  have hr : u.engine.run = some r := hengine ▸ hrun
  refine ⟨hengine, r, hrun, ?_⟩
  rcases runChain_cases hr hphase with ⟨result, -, heq⟩ | ⟨hpacing, heq⟩
  · rw [heq]
    exact .ends hr rfl .through _
  · rw [heq]
    have hthere := arrives_proceed hr hfits hstep hpacing hphase hturns hsleeps
    obtain ⟨r', ha⟩ := active_of_arrives hthere
    have hfinished := finished_of_leads h₀ hleads_u hthere.leads hr ha.run ha.entry
    have hdelay := stepDelay_of_leads hthere.leads
    have hraises := hthere.raises
    have hfollows (pause : Pause) (q : Suspended) :
        (u.proceed r).2 = .paused pause q → (Phase.suspended q).Follows r.phase :=
      follows_of_paused hphase hpacing
    -- the equation stays, since a failure has to be traced back to this turn
    generalize hproceed : u.proceed r = there at ha hfinished hdelay hraises hfollows
    obtain ⟨v, stand⟩ := there
    cases stand with
    | complete pipe => exact turns_complete ha hfinished hdelay hpacing pipe
    | broken pipe failure =>
        obtain ⟨r₁, hr₁, hfailure⟩ := hraises pipe failure rfl
        obtain rfl := Option.some.inj (ha.run.symm.trans hr₁)
        exact turns_fail ha hfinished hfailure pipe fun _ => .failure hpacing hproceed
    | paused pause q =>
        have hwait (wait : Wait) : (Phase.suspended { q with wait }).Follows r.phase :=
          Phase.follows_congr (hfollows pause q rfl) rfl
        show Turns u r (v.suspend pause q)
        unfold suspend
        split
        · exact turns_setPhase ha.run hfinished (hwait _)
        · exact turns_setPhase ha.run hfinished (hwait _)
        · dsimp only
          split
          · exact turns_setPhase ha.run hfinished (hwait _)
          · exact turns_timer ha.run hfinished (hwait _) _

/-! ## All turns -/

/-- The running chain takes a turn that does not end it, and then calls come from
outside. -/
def RunsOn (s u : Session) : Prop :=
  ∃ t, Wakes s t ∧ Calls t.runChain u ∧ u.engine.finished = s.engine.finished

/-- **Every chain ends**: it takes finitely many turns. -/
theorem acc_runsOn (h₀ : s₀.IsStart) (h : Reaches s₀ s) : Acc (fun u s => RunsOn s u) s := by
  -- by induction on the phase, which calls from outside leave on its course
  have hruns (phase : Phase) : ∀ s r, Reaches s₀ s → s.engine.run = some r → r.phase = phase →
      Acc (fun u s => RunsOn s u) s := by
    induction phase using Phase.wellFounded_follows.induction with
    | _ phase ih =>
        intro s r h hr hphase
        refine ⟨_, ?_⟩
        rintro u ⟨t, hw, hcalls, hsame⟩
        obtain ⟨hengine, r₀, hr₀, hturn⟩ := turn_cases h₀ h hw
        obtain rfl := Option.some.inj (hr.symm.trans hr₀)
        have hgoes := goesOn_of_calls hcalls
        generalize heq : t.runChain = v at hturn hcalls hgoes
        cases hturn with
        | ends hr' hfinished _ result =>
            -- the chain would have been added to those that are over
            have hlength := congrArg List.length (hgoes.finished.symm.trans hsame)
            rw [finished_finish hr', List.length_append, hfinished, hengine] at hlength
            exact absurd hlength (by simp)
        | goes hr' _ hfollows =>
            obtain ⟨r'', hr'', hcourse⟩ := hgoes.run _ hr'
            have hreached : Reaches s₀ u := (h.tail (.chain hw)).tail (.calls (heq ▸ hcalls))
            exact ih r''.phase (hphase ▸ Phase.follows_congr hfollows hcourse.phase) u r'' hreached
              hr'' rfl
  cases hr : s.engine.run with
  | some r => exact hruns r.phase s r h hr rfl
  | none =>
      refine ⟨_, ?_⟩
      rintro u ⟨t, hw, -⟩
      obtain ⟨-, r, hr', -⟩ := turn_cases h₀ h hw
      rw [hr] at hr'
      cases hr'

end Session

end CommandShell
