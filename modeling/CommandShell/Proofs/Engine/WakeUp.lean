import CommandShell.Proofs.Engine.Moves

/-!
# No wake-up is lost

A free, enabled engine with chains in its queue is stalled. There is one way to
get there: the chain that has just ended was cancelled (`stalled_apply`). Every
call that makes the engine look at its queue ends the stall.
-/

namespace CommandShell.Engine

/-- A move that makes the engine look at its queue: a chain is handed in while
the engine is enabled, the queue is resumed, or the engine is enabled. -/
def Nudges (e : Engine) : Move → Prop
  | .call (.enqueue _) => e.life.enabled = true
  | .call .resume => True
  | .call .enable => True
  | _ => False

theorem stalled_onRun {e : Engine} {change : Run → Run} (h : (e.onRun change).Stalled) :
    e.Stalled := by
  obtain ⟨hl, hr, hq⟩ := h
  exact ⟨hl, Option.map_eq_none_iff.mp hr, hq⟩

theorem enqueue_of_enabled {e : Engine} (h : e.life.enabled = true) (chain : Chain) :
    e.enqueue chain =
      ({ e with next := e.next + 1, queue := e.queue ++ [⟨e.next, chain⟩] } : Engine).advance := by
  simp [enqueue, h]

theorem interrupt_queue (e : Engine) (reason : Option String) :
    (e.interrupt reason).queue = [] := by
  obtain ⟨as, h⟩ := interrupt_eq e reason
  rw [h]
  rfl

/-- An engine is stalled by the end of a cancelled chain, or was stalled before
and nothing has made it look at its queue. -/
theorem stalled_apply {e : Engine} {m : Move} (hi : e.life.initialized = true)
    (h : (e.apply m).Stalled) :
    (∃ r status result, m = .finish status result ∧ e.run = some r ∧
      r.token.isCancelled = true) ∨
    (e.Stalled ∧ ¬ e.Nudges m) := by
  cases m with
  | call c =>
      cases c with
      | enqueue chain =>
          have hl : e.life.enabled = true := by
            have hlife := h.1
            rwa [life_apply] at hlife
          have happly : e.apply (.call (.enqueue chain)) = _ := enqueue_of_enabled hl chain
          rw [happly] at h
          exact absurd h (not_stalled_advance _)
      | interrupt reason => exact absurd (interrupt_queue e reason) h.2.2
      | resume => exact absurd h (not_stalled_advance e)
      | enable =>
          have happly : e.apply (.call .enable) =
              ({ e with life := e.life.enable } : Engine).advance := by
            show e.enable = _
            simp [enable, Lifecycle.enable, hi]
          rw [happly] at h
          exact absurd h (not_stalled_advance _)
      | disable => exact absurd h.1 (by simp [apply, call, disable, Lifecycle.disable])
      | cancel reason => exact Or.inr ⟨stalled_onRun h, fun hn => hn⟩
  | finish status result =>
      cases hr : e.run with
      | none =>
          have happly : e.apply (.finish status result) = e := by
            show e.finish status result = e
            simp [finish, hr]
          rw [happly] at h
          exact Or.inr ⟨h, fun hn => hn⟩
      | some r =>
          cases hc : r.token.isCancelled with
          | true => exact Or.inl ⟨r, status, result, rfl, rfl, hc⟩
          | false =>
              have hstart : ∃ e' : Engine, e.apply (.finish status result) = e'.advance := by
                show ∃ e' : Engine, e.finish status result = e'.advance
                unfold finish
                rw [hr]
                dsimp only
                rw [if_neg (by simp [hc])]
                exact ⟨_, rfl⟩
              obtain ⟨e', he⟩ := hstart
              rw [he] at h
              exact absurd h (not_stalled_advance e')
  | _ => exact Or.inr ⟨stalled_onRun h, fun hn => hn⟩

theorem initialized_play {e : Engine} (h : e.IsFresh) (ms : List Move) :
    (e.play ms).life.initialized = true := by
  induction ms using List.reverseRecOn with
  | nil => exact h.initialized
  | append_singleton ms m ih => rw [play_concat, initialized_apply, ih]

/-- The last chain that has ended was cancelled, and nothing has made the engine look
at its queue since then. -/
def HeldBack (e : Engine) (ms : List Move) : Prop :=
  ∃ before r status result after, ms = before ++ .finish status result :: after ∧
    (e.play before).run = some r ∧ r.token.isCancelled = true ∧
    (e.play ms).finished = (e.play before).finished ++ [⟨r, status⟩] ∧
    ¬ Occurs (fun b m => (e.play (before ++ .finish status result :: b)).Nudges m) after

/-- **No lost wake-up.** An engine is stalled only if it is held back. -/
theorem heldBack_of_stalled {e : Engine} (h : e.IsFresh) {ms : List Move}
    (hs : (e.play ms).Stalled) : e.HeldBack ms := by
  induction ms using List.reverseRecOn with
  | nil =>
      have hq : (e.play []).queue = [] := h.queue
      exact absurd hq hs.2.2
  | append_singleton ms m ih =>
      rw [play_concat] at hs
      rcases stalled_apply (initialized_play h ms) hs with
        ⟨r, status, result, rfl, hr, hc⟩ | ⟨hstalled, hnudge⟩
      · -- the stall begins with this move
        refine ⟨ms, r, status, result, [], rfl, hr, hc, ?_, not_occurs_nil _⟩
        rw [play_concat, finished_apply, hr]
        rfl
      · -- it goes on, and no chain has ended since it began
        obtain ⟨before, r, status, result, after, rfl, hr, hc, hlast, hquiet⟩ := ih hstalled
        refine ⟨before, r, status, result, after ++ [m], by simp, hr, hc, ?_, ?_⟩
        · rw [play_concat, finished_apply, hstalled.2.1, hlast]
          split <;> simp
        · rw [occurs_concat]
          rintro (hmid | hlast)
          · exact hquiet hmid
          · exact hnudge hlast

end CommandShell.Engine
