import CommandShell.Proofs.Engine.Answers
import CommandShell.Proofs.Session.Containment

/-!
# The delay after a chain

The delay after a chain is looked at when all its stages are completed, its output has
gone to the buffer, and its completion was told. A delay that cannot be computed is a
failure of the chain all the same: it has failed, nobody gets its output as an answer,
and one more line and a report follow. With any other delay it is completed
(`ends_of_isThrough`).
-/

namespace CommandShell.Session

variable {s₀ s : Session}

/-- A chain that is through and was not cancelled is completed, or its delay makes it
fail. -/
theorem remarks_of_ends {delay : Value} {f : Finished} {remarks : List Remark}
    (h : f.Ends delay remarks) (hstep : f.run.InStep) (hall : f.run.IsThrough)
    (hc : f.run.token.isCancelled = false) :
    match Delay.afterChain delay with
    | .ok _ => f.status = .completed ∧ remarks = .started f.run.entry.label ::
        Remark.completed f.run.entry.label f.run.lastPipe
    | .error fault => f.status = .failed ∧ remarks = .started f.run.entry.label ::
        (Remark.completed f.run.entry.label f.run.lastPipe ++
          Remark.unexpected f.run.entry.label (.fault fault)) := by
  have hnothing {failure : Failure} (h : f.run.Raises failure) : False :=
    Run.not_isThrough_of_raises hstep h hc hall
  cases h with
  | told htold hdelay =>
      cases htold with
      | completed hstatus _ =>
          obtain ⟨d, hd⟩ := hdelay hstatus
          rw [hd]
          exact ⟨hstatus, rfl⟩
      | aborted h => exact (hnothing h).elim
      | refused h => exact (hnothing h).elim
      | unexpected h => exact (hnothing h).elim
  | undelayed hdelay _ _ hstatus =>
      rw [hdelay]
      exact ⟨hstatus, rfl⟩
  | released _ hcancelled =>
      rw [hc] at hcancelled
      cases hcancelled

/-- **What the delay decides.** Take any run of a session whose output stays enabled, and
a chain in it that is over, was not cancelled, and is through with its stages. If the
delay can be computed the chain is completed, its answer is what the last stage has
handed on, and no more than that is told. If not, it has failed, its answer is nothing,
and one more line and a report are told after its completion. -/
theorem ends_of_isThrough (h₀ : s₀.IsStart) (hheard : s₀.IsHeard)
    (hsilent : ∀ id, s₀.remarksOn id = []) (hrun : Relation.ReflTransGen Audibly s₀ s)
    {f : Finished} (hf : f ∈ s.engine.finished) (hall : f.run.IsThrough)
    (hc : f.run.token.isCancelled = false) :
    match Delay.afterChain s₀.engine.stepDelay with
    | .ok _ =>
      f.status = .completed ∧ s.engine.answer? f.run.entry.id = some f.run.lastPipe ∧
        s.remarksOn f.run.entry.id = .started f.run.entry.label ::
          Remark.completed f.run.entry.label f.run.lastPipe
    | .error fault =>
      f.status = .failed ∧ s.engine.answer? f.run.entry.id = some none ∧
        s.remarksOn f.run.entry.id = .started f.run.entry.label ::
          (Remark.completed f.run.entry.label f.run.lastPipe ++
            Remark.unexpected f.run.entry.label (.fault fault)) := by
  -- what was told comes from the account, the answer from the moves of the engine
  obtain ⟨hengine, hallowed⟩ := engine_eq_play h₀ (reaches_of_run hrun)
  have hends := (accounted_of_run h₀ hheard hsilent hrun).1.ended f hf
  rw [hengine] at hf
  have hmem := Engine.mem_runs.mpr (Or.inl ⟨f, hf, rfl⟩)
  have hstep : f.run.InStep := Engine.inStep_of_mem_runs h₀.engine hallowed _ hmem
  have hanswer : s.engine.answer? f.run.entry.id =
      some (if f.status = .completed then f.run.lastPipe else none) := by
    rw [hengine]
    exact Engine.answer?_of_finished h₀.engine hallowed hf
      (Engine.not_interrupted_of_mem_runs h₀.engine hallowed hmem hc)
  have hremarks := remarks_of_ends hends hstep hall hc
  cases hd : Delay.afterChain s₀.engine.stepDelay with
  | ok d =>
      rw [hd] at hremarks
      obtain ⟨hstatus, htold⟩ := hremarks
      rw [hstatus] at hanswer
      exact ⟨hstatus, hanswer, htold⟩
  | error fault =>
      rw [hd] at hremarks
      obtain ⟨hstatus, htold⟩ := hremarks
      rw [hstatus] at hanswer
      exact ⟨hstatus, hanswer, htold⟩

/-! ## A delay that is nothing -/

namespace Unpaced

/-- A session whose delay is null. -/
def session : Session :=
  { Observed.session with engine := { Observed.session.engine with stepDelay := .null } }

def handedIn : Session := (session.reply (.call (.enqueue (Chain.single "hello")))).1

/-- The chain has had its turn. -/
def atEnd : Session := Lost.onward handedIn

theorem isStart_session : session.IsStart :=
  ⟨⟨rfl, rfl, rfl, rfl, rfl, rfl, rfl⟩, rfl, rfl, rfl⟩

theorem audibly_atEnd : Relation.ReflTransGen Audibly session atEnd := by
  have hin : Audibly session handedIn := ⟨.request _, by decide +kernel⟩
  have hend : Audibly handedIn atEnd :=
    Observed.audibly_onward (by decide +kernel) (by decide +kernel)
  exact (Relation.ReflTransGen.single hin).tail hend

theorem finished_atEnd : ∃ f, atEnd.engine.finished = [f] ∧ f.run.IsThrough ∧
    f.run.token.isCancelled = false ∧ f.run.lastPipe = some [.plain "hello"] :=
  ⟨_, rfl, rfl, rfl, rfl⟩

end Unpaced

/-- The chain has said hello, and has failed. -/
theorem failed_unpaced : Unpaced.atEnd.output.lines =
      [.plain "hello", .error Problem.unexpectedMessage] ∧
    ∃ f, Unpaced.atEnd.engine.finished = [f] ∧ f.run.IsThrough ∧ f.status = .failed ∧
      Unpaced.atEnd.engine.answer? f.run.entry.id = some none := by
  obtain ⟨f, hfinished, hall, hc, -⟩ := Unpaced.finished_atEnd
  obtain ⟨hstatus, hanswer, -⟩ := ends_of_isThrough Unpaced.isStart_session ⟨rfl, rfl, rfl⟩
    (fun _ => rfl) Unpaced.audibly_atEnd (hfinished ▸ List.mem_singleton_self f) hall hc
  exact ⟨by decide +kernel, f, hfinished, hall, hstatus, hanswer⟩

end CommandShell.Session
