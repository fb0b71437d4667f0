import CommandShell.Proofs.Session.Schedule

/-!
# Nothing starts after a cancellation

A chain may be cancelled at any time: before it begins, while a handler waits, by a
handler or a hook, or during the delay after it. No handler is called for it from
then on, those that were called are the first of its fragments, and what the last
completed stage has handed on is shown together with one line about the
interruption.
-/

namespace CommandShell.Session

variable {s₀ s s' : Session}

/-- The running chain is taken up and an interruption ends it at `s'`, where `pipe` is
what there is to show of it. -/
def BreaksOff (s s' : Session) (pipe : Pipe) : Prop :=
  ∃ r x flaws, s.engine.run = some r ∧ (∀ result, r.phase ≠ .pacing result) ∧
    s.proceed r = (s', .broken pipe (.refusal x flaws)) ∧ x.kind = .interrupted

theorem runChain_of_breaksOff {pipe : Pipe} {r : Run} {x : Refusal} {flaws : Flaws}
    (hr : s.engine.run = some r)
    (hpacing : ∀ result, r.phase ≠ .pacing result) (hphase : r.phase ≠ .active)
    (hproceed : s.proceed r = (s', .broken pipe (.refusal x flaws))) :
    s.runChain = s'.fail pipe (.refusal x flaws) := by
  rcases runChain_cases hr hphase with ⟨result, hp, -⟩ | ⟨-, heq⟩
  · exact absurd hp (hpacing result)
  · rw [heq, hproceed]
    rfl

theorem output_finish (s : Session) (status : Status) (result : Pipe) :
    (s.finish status result).output = s.output := by
  show (s.onEngine (.finish status result)).output = s.output
  exact onEngine_output s _

theorem finished_finish {r : Run} (hr : s.engine.run = some r) (status : Status) (result : Pipe) :
    (s.finish status result).engine.finished = s.engine.finished ++ [⟨r, status⟩] := by
  show (s.onEngine (.finish status result)).engine.finished = _
  rw [onEngine_engine, Engine.finished_apply, hr]
  rfl

/-- An interrupted chain shows what it has brought, and one line. -/
theorem output_fail {x : Refusal} (hx : x.kind = .interrupted) (flaws : Flaws) (s : Session)
    (pipe : Pipe) : (s.fail pipe (.refusal x flaws)).output =
      if s.output.life.enabled then
        { s.output with
          lines := s.output.lines ++ pipe.getD [] ++ [.status Problem.interruptedMessage] }
      else s.output := by
  unfold fail
  dsimp only
  rw [if_pos hx, output_finish]
  have htold : ((s.addOutput (pipe.getD [])).tellInterruption x flaws).output =
      ((s.output.addAll (pipe.getD [])).output.addAll
        [.status Problem.interruptedMessage]).output := by
    unfold tellInterruption
    dsimp only
    split <;> rfl
  rw [htold]
  unfold Output.addAll
  split <;> simp_all

theorem finished_fail {r : Run} (hr : s.engine.run = some r) {x : Refusal}
    (hx : x.kind = .interrupted) (flaws : Flaws) (pipe : Pipe) :
    (s.fail pipe (.refusal x flaws)).engine.finished = s.engine.finished ++ [⟨r, .aborted⟩] := by
  have hf : Failure.refusal x flaws ≠ .cancelled := by rintro ⟨⟩
  have hstatus : (Failure.refusal x flaws).status = .aborted := if_pos hx
  obtain ⟨t, hwrites, heq⟩ := fail_eq_finish hf s pipe
  have hengine := (around_of_writes hwrites).engine
  rw [heq, finished_finish (hengine ▸ hr), hengine, hstatus]

/-- **Nothing starts after a cancellation.** At every moment the handlers that were
called are those of the first fragments, none is called for a chain that is cancelled,
and a chain that an interruption ends shows what its last completed stage has handed
on, and one line. -/
theorem heeded_of_reaches (h₀ : s₀.IsStart) (h : Reaches s₀ s) :
    s.engine = s₀.engine.play s.moves ∧
    (∀ ms later, ms ++ later <+: s.moves → s₀.engine.Heeded ms later) ∧
    ∀ s₁ s₂ pipe, Wakes s s₁ → s₁.BreaksOff s₂ pipe →
      ∃ r, s₂.engine.run = some r ∧ s.engine.running = [r.entry] ∧ pipe = r.lastPipe ∧
        s₁.runChain.engine.finished = s₂.engine.finished ++ [⟨r, .aborted⟩] ∧
        s₁.runChain.output =
          if s₂.output.life.enabled then
            { s₂.output with
              lines := s₂.output.lines ++ r.lastPipe.getD [] ++
                [.status Problem.interruptedMessage] }
          else s₂.output := by
  obtain ⟨hleads, htasked⟩ := reached h₀ h
  refine ⟨(engine_eq_play h₀ h).1, ?_, ?_⟩
  · intro ms later hms
    exact Engine.heeded h₀.engine (allowed_of_isPrefix h₀ h hms)
  · rintro s₁ s₂ pipe hw ⟨r, x, flaws, hr, hpacing, hproceed, hx⟩
    obtain ⟨hengine, -, hturns, hsleeps, r', hr', hphase⟩ := run_of_wakes htasked hw
    obtain rfl : r' = r := by
      rw [hengine, hr'] at hr
      exact Option.some.inj hr
    obtain ⟨hfits, hstep⟩ := run_of_leads h₀ hleads hr'
    have hthere := arrives_proceed hr hfits hstep hpacing hphase hturns hsleeps
    rw [hproceed] at hthere
    obtain ⟨r₂, hactive, rfl⟩ := hthere.fits
    rw [runChain_of_breaksOff hr hpacing hphase hproceed]
    have hentry : s.engine.running = [r₂.entry] := by simp [Engine.running, hr', hactive.entry]
    exact ⟨r₂, hactive.run, hentry, rfl, finished_fail hactive.run hx flaws _,
      output_fail hx flaws s₂ _⟩

/-! ## A chain that is interrupted between two stages -/

/-- A command that says hello. -/
def hello : Definition Program :=
  { name := "hello", handler := fun _ => .done (.single (.plain "hello")) }

/-- A command that gives way once, and heeds a cancellation then. -/
def yielding : Definition Program :=
  { name := "yielding"
    handler := fun _ => .pause .turn <| .ask .interruption fun
      | some interruption => .fail (.refusal interruption)
      | none => .done .nothing }

/-- A session with these two commands. -/
def greeter : Session := (((bare [] true).define hello true).1.define yielding true).1

/-- A chain of three stages is handed in. -/
def handedIn : Session :=
  greeter.make (.enqueue
    ⟨[{ name := "hello" }, { name := "yielding" }, { name := "hello" }], by decide⟩)

/-- The chain has given way at its second stage. -/
def gaveWay : Session :=
  ({ handedIn with ready := handedIn.ready.erase .chain } : Session).runChain

/-- An interruption comes meanwhile. -/
def interruptedMidway : Session := gaveWay.interrupt (some "stop")

theorem isStart_greeter : greeter.IsStart :=
  isStart_of_around (isStart_bare [] true)
    ((around_define _ hello true).trans (around_define _ yielding true))

theorem reaches_interruptedMidway : Reaches greeter interruptedMidway := by
  have hready : Job.chain ∈ handedIn.ready := by decide +kernel
  have hin : Reaches greeter handedIn := reaches_of_calls (calls_make greeter _)
  have hway : Step handedIn gaveWay := Step.chain (Wakes.turn hready)
  have hcall : Calls gaveWay interruptedMidway := calls_call gaveWay (.interrupt (some "stop"))
  exact (hin.tail hway).tail (.calls hcall)

/-- The chain has its turn again. -/
def takenUp : Session :=
  { interruptedMidway with ready := interruptedMidway.ready.erase .chain }

theorem breaksOff_takenUp : ∃ s', takenUp.BreaksOff s' (some [.plain "hello"]) ∧
    s'.output.life.enabled = true ∧ s'.output.lines = [] :=
  ⟨_, ⟨_, _, _, rfl, by rintro _ ⟨⟩, rfl, rfl⟩, rfl, rfl⟩

/-- The line of the first stage is shown, and that there was an interruption. -/
theorem heeded_takenUp :
    takenUp.runChain.output.lines = [.plain "hello", .status Problem.interruptedMessage] ∧
    ∀ ms later, ms ++ later <+: interruptedMidway.moves → greeter.engine.Heeded ms later := by
  obtain ⟨-, hall, hbreaks⟩ := heeded_of_reaches isStart_greeter reaches_interruptedMidway
  have hready : Job.chain ∈ interruptedMidway.ready := by decide +kernel
  obtain ⟨s', hoff, henabled, hlines⟩ := breaksOff_takenUp
  obtain ⟨r, -, -, hpipe, -, houtput⟩ := hbreaks takenUp s' _ (.turn hready) hoff
  refine ⟨?_, hall⟩
  rw [houtput, henabled, hlines, ← hpipe]
  rfl

end CommandShell.Session
