import CommandShell.Proofs.Engine.Answers
import CommandShell.Proofs.Engine.WakeUp
import CommandShell.Proofs.Session.Schedule

/-!
# The queue of a session

What a session guarantees for the chains that are handed in, whoever calls it, in
whatever order, and however its handlers behave. Each result is about every moment
`ms` in the life of the engine, also those in the middle of a piece of work, and is
the one for engines, carried over by `engine_eq_play`.
-/

namespace CommandShell.Session

variable {s₀ s : Session}

/-- **Conservation, order and single flight.** At every moment every chain that was
taken is in one place, chains are started one at a time and in the order in which
they came, and the running chain has one task. -/
theorem conserved_of_reaches (h₀ : s₀.IsStart) (h : Reaches s₀ s) :
    s.engine = s₀.engine.play s.moves ∧
    (∀ ms, ms <+: s.moves → s₀.engine.Conserved ms) ∧
    s.Tasked := by
  refine ⟨(engine_eq_play h₀ h).1, ?_, (reached h₀ h).2⟩
  intro ms _
  exact Engine.conserved h₀.engine ms

/-! ## A chain that is interrupted before it begins -/

/-- Two chains are handed in, an interruption comes before the first of them has
begun, and a third one is handed in. -/
def interruptedEarly : Session :=
  ((((bare [] true).make (.enqueue (Chain.single "a"))).make (.enqueue (Chain.single "b"))).interrupt
    none).make (.enqueue (Chain.single "c"))

/-- The first chain has taken its turn. -/
def stoppedEarly : Session :=
  ({ interruptedEarly with ready := interruptedEarly.ready.erase .chain } : Session).runChain

theorem reaches_stoppedEarly : Reaches (bare [] true) stoppedEarly := by
  have hcalls : Calls (bare [] true) interruptedEarly :=
    Calls.trans (Calls.trans (Calls.trans (calls_make _ _) (calls_make _ _)) (calls_call _ _))
      (calls_make _ _)
  have hready : Job.chain ∈ interruptedEarly.ready := List.mem_of_elem_eq_true rfl
  exact Relation.ReflTransGen.tail (reaches_of_calls hcalls) (.chain (.turn hready))

/-- The first chain is over, the second one was dropped, the third one is in the
queue. -/
theorem conserved_stoppedEarly :
    Engine.ids stoppedEarly.engine.ended = [0] ∧
    Engine.ids stoppedEarly.engine.dropped = [1] ∧
    Engine.ids stoppedEarly.engine.queue = [2] ∧
    stoppedEarly.engine = (bare [] true).engine.play stoppedEarly.moves ∧
    (bare [] true).engine.Conserved stoppedEarly.moves ∧ stoppedEarly.Tasked := by
  obtain ⟨hengine, hall, htasked⟩ :=
    conserved_of_reaches (isStart_bare [] true) reaches_stoppedEarly
  exact ⟨rfl, rfl, rfl, hengine, hall _ (List.prefix_refl _), htasked⟩

/-! ## Waking up -/

/-- **No lost wake-up.** At every moment an enabled engine with chains in its queue
has a running one, or it is held back. -/
theorem awake_of_reaches (h₀ : s₀.IsStart) (h : Reaches s₀ s) :
    s.engine = s₀.engine.play s.moves ∧
    ∀ ms, ms <+: s.moves → (s₀.engine.play ms).life.enabled = true →
      (s₀.engine.play ms).queue ≠ [] →
        (∃ r, (s₀.engine.play ms).run = some r) ∨ s₀.engine.HeldBack ms := by
  refine ⟨(engine_eq_play h₀ h).1, ?_⟩
  intro ms _ hl hq
  cases hr : (s₀.engine.play ms).run with
  | some r => exact Or.inl ⟨r, rfl⟩
  | none => exact Or.inr (Engine.heldBack_of_stalled h₀.engine ⟨hl, hr, hq⟩)

/-- After the end of an interrupted chain the queue waits. -/
theorem heldBack_stoppedEarly :
    stoppedEarly.engine.Stalled ∧ (bare [] true).engine.HeldBack stoppedEarly.moves := by
  obtain ⟨hengine, hall⟩ := awake_of_reaches (isStart_bare [] true) reaches_stoppedEarly
  have hs : stoppedEarly.engine.Stalled := ⟨rfl, rfl, by rintro ⟨⟩⟩
  refine ⟨hs, ?_⟩
  rw [hengine] at hs
  rcases hall _ (List.prefix_refl _) hs.1 hs.2.2 with ⟨r, hr⟩ | hheld
  · rw [hs.2.1] at hr
    cases hr
  · exact hheld

/-! ## Answers -/

/-- **Every answer is given once and is the right one**, at every moment. -/
theorem resolved_of_reaches (h₀ : s₀.IsStart) (h : Reaches s₀ s) :
    s.engine = s₀.engine.play s.moves ∧
    ∀ ms, ms <+: s.moves → s₀.engine.Resolved ms := by
  refine ⟨(engine_eq_play h₀ h).1, ?_⟩
  intro ms hms
  exact Engine.resolved h₀.engine (allowed_of_isPrefix h₀ h hms)

/-- Those who wait for the interrupted chain and for the dropped one get nothing; the
third one waits. -/
theorem resolved_stoppedEarly :
    stoppedEarly.engine.answer? 0 = some none ∧ stoppedEarly.engine.answer? 1 = some none ∧
    stoppedEarly.engine.answer? 2 = none ∧ (bare [] true).engine.Resolved stoppedEarly.moves :=
  ⟨rfl, rfl, rfl, (resolved_of_reaches (isStart_bare [] true) reaches_stoppedEarly).2 _
    (List.prefix_refl _)⟩

end CommandShell.Session
