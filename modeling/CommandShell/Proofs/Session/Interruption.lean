import CommandShell.Proofs.Session.Containment

/-!
# What becomes of an interrupted chain

A chain that is interrupted while one of its handlers is in flight begins no further
stage, and it waits until this handler is through (`caught_of_reaches`). How it ends is up
to the handler: with a result it is aborted, and the result still counts as what its last
completed stage has handed on; but with an error or a failure of its own the chain ends as
if there had been no interruption (`ends_of_interrupted`).
-/

namespace CommandShell

/-- How a handler that is in flight may end after the interruption, what its chain hands
on besides, and how the chain ends. -/
inductive Suspended.Answers (p : Suspended) : List Pipe → Status → Prop
  | result {outcome : Outcome} {pipe : Pipe} (h : p.handler.ComesTo (.done outcome))
      (hpipe : outcome.toPipe p.name = .ok pipe) : Answers p [pipe] .aborted
  | error {outcome : Outcome} {failure : Failure} (h : p.handler.ComesTo (.done outcome))
      (hpipe : outcome.toPipe p.name = .error failure) : Answers p [] failure.status
  | failure {failure : Failure} (h : p.handler.ComesTo (.fail failure)) :
      Answers p [] failure.status

namespace Session

variable {s₀ s t u : Session} {r r' : Run} {p q : Suspended} {x : Entry} {more : List Pipe}

/-- A chain is where `r` was, up to what it has handed on since, and it is cancelled. -/
structure SinceThen (r : Run) (more : List Pipe) (r' : Run) : Prop where
  entry : r'.entry = r.entry
  cancelled : r'.token.isCancelled = true
  invoked : r'.invoked = r.invoked
  produced : r'.produced = r.produced ++ more

/-- Where the chain `r` that was interrupted at `p` may be at a later moment. -/
inductive Caught (r : Run) (p : Suspended) (s : Session) : Prop
  /-- Its handler is still in flight. -/
  | waits {r' : Run} {q : Suspended} (hr : s.engine.run = some r') (hsince : SinceThen r [] r')
      (hphase : r'.phase = .suspended q) (hname : q.name = p.name)
      (hcomes : p.handler.ComesTo q.handler) : Caught r p s
  /-- It is over, as its handler has ended. -/
  | ended {f : Finished} {more : List Pipe} (hf : f ∈ s.engine.finished)
      (hsince : SinceThen r more f.run) (hanswers : p.Answers more f.status) : Caught r p s

/-! ## While it waits -/

theorem sinceThen_of_sameStage {r₁ : Run} (h : SinceThen r more r') (hsame : r'.SameStage r₁) :
    SinceThen r more r₁ :=
  ⟨hsame.entry.trans h.entry, hsame.cancelled h.cancelled, hsame.invoked.trans h.invoked,
    hsame.produced.trans h.produced⟩

theorem caught_of_calls (h : Caught r p s) (hcalls : Calls s t) : Caught r p t := by
  have hgoes := goesOn_of_calls hcalls
  cases h with
  | ended hf hsince hanswers => exact .ended (hgoes.finished ▸ hf) hsince hanswers
  | waits hr hsince hphase hname hcomes =>
      obtain ⟨r₁, hr₁, hsame⟩ := hgoes.run _ hr
      have hcourse := hsame.phase
      rw [hphase] at hcourse
      obtain ⟨wait, hphase₁⟩ := Phase.suspended_of_course hcourse
      refine .waits hr₁ ?_ hphase₁ hname hcomes
      exact ⟨hsame.entry.trans hsince.entry, hsame.cancelled hsince.cancelled,
        hsame.invoked.trans hsince.invoked, hsame.produced.trans hsince.produced⟩

theorem run_suspend (hr : s.engine.run = some r) (pause : Pause) (q : Suspended) :
    ∃ wait, (s.suspend pause q).engine.run =
      some { r with phase := .suspended { q with wait } } := by
  cases pause with
  | turn => exact ⟨.turn, run_setPhase hr _⟩
  | release => exact ⟨.release, run_setPhase hr _⟩
  | sleep millis =>
      unfold suspend
      dsimp only
      split
      · exact ⟨.turn, run_setPhase hr _⟩
      · exact ⟨.sleep, run_setPhase hr _⟩

/-! ## When its handler ends -/

theorem caught_fail (ha : s.Active x r') (hsince : SinceThen r more r') {failure : Failure}
    (hanswers : p.Answers more failure.status) (pipe : Pipe) :
    Caught r p (s.fail pipe failure) := by
  obtain ⟨t, r₁, hr, -, hsame, heq⟩ := fail_finishes ha pipe failure
  rw [heq]
  have hover : ⟨r₁, failure.status⟩ ∈ (t.finish failure.status none).engine.finished := by
    rw [finished_finish hr]
    exact List.mem_append_right _ (List.mem_singleton_self _)
  exact .ended hover (sinceThen_of_sameStage hsince hsame) hanswers

/-- No further stage of a chain that is cancelled is begun. -/
theorem runStages_of_cancelled (ha : s.Active x r) (hc : r.token.isCancelled = true)
    (fs : List Fragment) (pipe : Pipe) :
    ∃ t interruption, Around s t ∧ interruption.kind = .interrupted ∧
      runStages fs pipe s = (t, .broken pipe (.refusal interruption)) := by
  obtain ⟨reason, hreason⟩ := Option.isSome_iff_exists.mp hc
  have hi : s.interruption? = some (Refusal.interruption reason) := by
    unfold interruption? Token.interruption?
    rw [ha.run, Option.bind_some, hreason]
    rfl
  cases fs with
  | nil =>
      refine ⟨s, Refusal.interruption reason, Around.refl s, rfl, ?_⟩
      unfold runStages
      rw [hi]
  | cons f rest =>
      refine ⟨_, Refusal.interruption reason,
        around_record s .engine s!"chainAborted {s.label}", rfl, ?_⟩
      unfold runStages
      rw [hi]

/-- The handler in flight has its turn. -/
theorem caught_carryOn (ha : s.Active x r') (hsince : SinceThen r [] r') (hname : q.name = p.name)
    (hcomes : p.handler.ComesTo q.handler) {there : Session × Stand}
    (heq : carryOn q.rest (runStages q.rest) q.name q.pipe (runHandler q.handler s) = there) :
    Caught r p (there.1.conclude there.2) := by
  subst heq
  have hcalls := calls_runHandler q.handler s
  have hof := isOf_runHandler q.handler s
  generalize runHandler q.handler s = there at hcalls hof ⊢
  obtain ⟨s₁, stop⟩ := there
  obtain ⟨r₁, ha₁, hsame⟩ : ∃ r₁, s₁.Active x r₁ ∧ r'.SameStage r₁ := active_of_calls ha hcalls
  have hsince₁ := sinceThen_of_sameStage hsince hsame
  cases stop with
  | failed failure => exact caught_fail ha₁ hsince₁ (.failure (hcomes.trans hof)) q.pipe
  | paused pause handler =>
      obtain ⟨wait, hrun⟩ := run_suspend ha₁.run pause ⟨handler, .turn, q.name, q.pipe, q.rest⟩
      refine .waits hrun ⟨hsince₁.entry, hsince₁.cancelled, hsince₁.invoked, hsince₁.produced⟩ rfl
        hname ?_
      exact hcomes.trans (hof.trans (.pause pause (.refl _)))
  | done outcome =>
      have hdone : p.handler.ComesTo (.done outcome) := hcomes.trans hof
      simp only [carryOn]
      cases hpipe : outcome.toPipe q.name with
      | error failure => exact caught_fail ha₁ hsince₁ (.error hdone (hname ▸ hpipe)) q.pipe
      | ok pipe =>
          -- the stage is completed, and then the cancellation is heeded
          have ha₂ := active_onEngine (m := .handOn pipe) ha₁ (by rintro _ _ ⟨⟩) ha₁.phase
          have hsince₂ : SinceThen r [pipe] (r₁.apply (.handOn pipe)) :=
            ⟨hsince₁.entry, hsince₁.cancelled, hsince₁.invoked, by
              show r₁.produced ++ [pipe] = _
              rw [hsince₁.produced, List.append_nil]⟩
          obtain ⟨s₂, interruption, haround, hkind, heq⟩ :=
            runStages_of_cancelled ha₂ hsince₂.cancelled q.rest pipe
          have haborted : (Failure.refusal interruption).status = .aborted := if_pos hkind
          dsimp only
          rw [heq]
          show Caught r p (s₂.fail pipe (.refusal interruption))
          refine caught_fail (active_of_around ha₂ haround) hsince₂ ?_ pipe
          rw [haborted]
          exact .result hdone (hname ▸ hpipe)

/-! ## At every later moment -/

theorem caught_runChain (h₀ : s₀.IsStart) (hreached : Reaches s₀ s) (h : Caught r p s)
    (hw : Wakes s u) : Caught r p u.runChain := by
  obtain ⟨hleads, htasked⟩ := reached h₀ hreached
  obtain ⟨hengine, -, hturns, hsleeps, r₀, hr₀, hphase⟩ := run_of_wakes htasked hw
  cases h with
  | ended hf hsince hanswers =>
      refine .ended ?_ hsince hanswers
      obtain ⟨-, _, -, hturn⟩ := turn_cases h₀ hreached hw
      generalize u.runChain = v at hturn ⊢
      cases hturn with
      | goes _ hsame _ =>
          rw [hsame, hengine]
          exact hf
      | ends hr hsame _ result =>
          rw [finished_finish hr, hsame, hengine]
          exact List.mem_append_left _ hf
  | waits hr hsince hp hname hcomes =>
      obtain rfl := Option.some.inj (hr.symm.trans hr₀)
      have hr : u.engine.run = some _ := hengine ▸ hr
      rcases runChain_cases hr hphase with ⟨result, hpacing, -⟩ | ⟨hpacing, heq⟩
      · rw [hp] at hpacing
        cases hpacing
      · rcases proceed_cases u hphase hpacing with ⟨q, hq, hproceed⟩ | ⟨hfresh, -⟩
        · obtain rfl := Phase.suspended.inj (hp.symm.trans hq)
          rw [heq]
          exact caught_carryOn (active_setPhase hr hturns hsleeps)
            ⟨hsince.entry, hsince.cancelled, hsince.invoked, hsince.produced⟩ hname hcomes
            hproceed.symm
        · rw [hp] at hfresh
          cases hfresh

/-- **An interrupted chain** begins no further stage: it waits for the handler in flight, or
is over, as this handler has ended. -/
theorem caught_of_reaches (h₀ : s₀.IsStart) (h : Reaches s₀ s) (hr : s.engine.run = some r)
    (hp : r.phase = .suspended p) (hc : r.token.isCancelled = true) (hlater : Reaches s t) :
    Caught r p t := by
  induction hlater with
  | refl => exact .waits hr ⟨rfl, hc, rfl, (List.append_nil _).symm⟩ hp rfl (.refl _)
  | tail hbefore hstep ih =>
      cases hstep with
      | calls hcalls => exact caught_of_calls ih hcalls
      | chain hw => exact caught_runChain h₀ (h.trans hbefore) ih hw

/-- **How an interrupted chain ends** is up to the handler in flight. With a result of this
handler the chain is aborted, and what it has handed on by then goes to the buffer with one
line about the interruption. With an error or a failure it ends as it would have ended
without an interruption. -/
theorem ends_of_interrupted (h₀ : s₀.IsStart) (hheard : s₀.IsHeard)
    (hsilent : ∀ id, s₀.remarksOn id = []) (hrun : Relation.ReflTransGen Audibly s₀ s)
    (hr : s.engine.run = some r) (hp : r.phase = .suspended p)
    (hc : r.token.isCancelled = true) (hlater : Relation.ReflTransGen Audibly s t)
    {f : Finished} (hf : f ∈ t.engine.finished) (hid : f.run.entry.id = r.entry.id) :
    f.run.invoked = r.invoked ∧
      ∃ more, f.run.produced = r.produced ++ more ∧ p.Answers more f.status ∧
        (f.run.SparesTask → f.IsTold (t.remarksOn r.entry.id)) := by
  have hreached := (reaches_of_run hrun).trans (reaches_of_run hlater)
  obtain ⟨hengine, -⟩ := engine_eq_play h₀ hreached
  cases caught_of_reaches h₀ (reaches_of_run hrun) hr hp hc (reaches_of_run hlater) with
  | waits hr' hsince =>
      -- the chain is over, so it does not run
      have hunended := Engine.unended_of_run (started_nodup h₀ (reached h₀ hreached).1) hr'
      rw [hsince.entry, ← hid] at hunended
      exact absurd (Engine.id_mem_ids (List.mem_map_of_mem hf)) hunended
  | @ended f' more hf' hsince hanswers =>
      obtain rfl : f' = f := by
        rw [hengine] at hf hf'
        exact Engine.eq_of_finished h₀.engine hf hf' (by rw [hsince.entry, hid])
      refine ⟨hsince.invoked, more, hsince.produced, hanswers, fun hspares => ?_⟩
      have hends := (accounted_of_run h₀ hheard hsilent (hrun.trans hlater)).1.ended f' hf
      rw [hid] at hends
      exact Finished.isTold_of_cancelled hends hsince.cancelled hspares

/-! ## A handler that answers with an error -/

namespace Stubborn

/-- A command that gives way once, and then ends with an error. -/
def stubborn : Definition Program :=
  { name := "stubborn", handler := fun _ => .pause .turn (.done (.error "stopped")) }

def session : Session := (Observed.session.define stubborn true).1

def handedIn : Session :=
  (session.reply (.call (.enqueue
    ⟨[{ name := "hello" }, { name := "stubborn" }], List.cons_ne_nil _ _⟩))).1

/-- The second stage has given way. -/
def gaveWay : Session := Lost.onward handedIn

def interrupted : Session := (gaveWay.reply (.call (.interrupt (some "stop")))).1

/-- The second stage has ended with its error. -/
def atEnd : Session := Lost.onward interrupted

theorem isStart_session : session.IsStart :=
  isStart_of_around Observed.isStart_session (around_define _ stubborn true)

theorem audibly_interrupted : Relation.ReflTransGen Audibly session interrupted := by
  have hin : Audibly session handedIn := ⟨.request _, by decide +kernel⟩
  have hway : Audibly handedIn gaveWay :=
    Observed.audibly_onward (by decide +kernel) (by decide +kernel)
  have hcall : Audibly gaveWay interrupted := ⟨.request _, by decide +kernel⟩
  exact ((Relation.ReflTransGen.single hin).tail hway).tail hcall

theorem audibly_atEnd : Audibly interrupted atEnd :=
  Observed.audibly_onward (by decide +kernel) (by decide +kernel)

theorem run_interrupted : ∃ r p, interrupted.engine.run = some r ∧ r.phase = .suspended p ∧
    r.token.isCancelled = true ∧ r.entry.id = 0 ∧ r.produced = [some [.plain "hello"]] :=
  ⟨_, _, rfl, rfl, rfl, rfl, rfl⟩

theorem finished_atEnd : ∃ f v w, atEnd.engine.finished = [f] ∧ f.run.entry.id = 0 ∧
    f.status = .failed ∧ f.run.handlers = [hello.handler v, stubborn.handler w] :=
  ⟨_, _, _, rfl, rfl, rfl, rfl⟩

theorem sparesTask_atEnd {f : Finished} {v w : Invocation}
    (h : f.run.handlers = [hello.handler v, stubborn.handler w]) : f.run.SparesTask := by
  intro handler hmem hcomes
  rw [h] at hmem
  simp only [List.mem_cons, List.not_mem_nil, or_false] at hmem
  rcases hmem with rfl | rfl
  · cases hcomes
  · cases hcomes with
    | pause p hrest => cases hrest

end Stubborn

/-- The chain has failed although it was interrupted, and what its first stage has handed
on does not go to the buffer. -/
theorem failed_stubborn : Stubborn.atEnd.output.lines = [.error "stopped"] ∧
    ∃ r p f more, Stubborn.interrupted.engine.run = some r ∧ r.phase = .suspended p ∧
      r.token.isCancelled = true ∧ Stubborn.atEnd.engine.finished = [f] ∧ f.status = .failed ∧
      f.run.invoked = r.invoked ∧ f.run.produced = r.produced ++ more ∧
      p.Answers more f.status ∧ f.IsTold (Stubborn.atEnd.remarksOn r.entry.id) := by
  obtain ⟨r, p, hr, hp, hc, hid, -⟩ := Stubborn.run_interrupted
  obtain ⟨f, v, w, hfinished, hfid, hstatus, hhandlers⟩ := Stubborn.finished_atEnd
  have hlater := Relation.ReflTransGen.single Stubborn.audibly_atEnd
  obtain ⟨hinvoked, more, hproduced, hanswers, htold⟩ :=
    ends_of_interrupted Stubborn.isStart_session ⟨rfl, rfl, rfl⟩ (fun _ => rfl)
      Stubborn.audibly_interrupted hr hp hc hlater (hfinished ▸ List.mem_singleton_self f)
      (hfid.trans hid.symm)
  exact ⟨by decide +kernel, r, p, f, more, hr, hp, hc, hfinished, hstatus, hinvoked, hproduced,
    hanswers, htold (Stubborn.sparesTask_atEnd hhandlers)⟩

end Session

end CommandShell
