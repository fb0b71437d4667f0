import CommandShell.Proofs.Engine.Moves

/-!
# Chains that are still to be run

A chain that an enabled engine has taken is still to be run (`owes_enqueue`) until it
begins, and neither a release nor the end of another chain changes that
(`owes_release`, `owes_finish`).
-/

namespace CommandShell.Engine

variable {e : Engine} {c : Chain}

/-- A chain like this one waits, or is about to begin and was not cancelled. -/
def Owes (e : Engine) (c : Chain) : Prop :=
  (∃ x ∈ e.queue, x.chain = c) ∨
  ∃ r, e.run = some r ∧ r.entry.chain = c ∧ r.phase = .fresh ∧ r.token.isCancelled = false

theorem owes_advance (h : e.Owes c) : e.advance.Owes c := by
  rcases advance_cases e with ⟨-, he⟩ | ⟨y, queue, -, hrun, hqueue, he⟩
  · rwa [he]
  · rw [he]
    rcases h with ⟨x, hx, hchain⟩ | ⟨r, hr, -⟩
    · -- the chain is the one that is started now, or it goes on waiting
      rw [hqueue] at hx
      rcases List.mem_cons.mp hx with rfl | hx
      · exact Or.inr ⟨_, rfl, hchain, rfl, rfl⟩
      · exact Or.inl ⟨x, hx, hchain⟩
    · rw [hrun] at hr
      cases hr

theorem owes_apply {m : Move} (h : (e.land m).Owes c) : (e.apply m).Owes c := by
  obtain ⟨answers, he | he⟩ := apply_cases e m
  · rw [he]
    exact h
  · rw [he]
    exact owes_advance h

/-- A chain that is taken is still to be run. -/
theorem owes_enqueue (he : e.life.enabled = true) : (e.apply (.call (.enqueue c))).Owes c := by
  apply owes_apply
  left
  refine ⟨⟨e.next, c⟩, ?_, rfl⟩
  show _ ∈ e.queue ++ e.accepts (.call (.enqueue c))
  simp [accepts, he]

theorem owes_release (h : e.Owes c) : (e.apply .release).Owes c := by
  rcases h with hqueue | ⟨r, hr, hchain, hphase, htoken⟩
  · exact Or.inl hqueue
  · right
    refine ⟨r.release, by simp [apply, onRun, hr], ?_⟩
    simp [Run.release, hphase, hchain, htoken]

/-- The end of a chain that has begun leaves alone what is still to be run. -/
theorem owes_finish {r : Run} (h : e.Owes c) (hr : e.run = some r) (hphase : r.phase ≠ .fresh)
    (status : Status) (result : Pipe) : (e.apply (.finish status result)).Owes c := by
  apply owes_apply
  rcases h with hqueue | ⟨r', hr', -, hfresh, -⟩
  · exact Or.inl hqueue
  · obtain rfl := Option.some.inj (hr.symm.trans hr')
    exact absurd hfresh hphase

end CommandShell.Engine
