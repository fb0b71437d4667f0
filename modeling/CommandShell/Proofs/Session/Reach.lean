import CommandShell.Proofs.Session.Task
import CommandShell.Session.Build
import Mathlib.Logic.Relation

/-!
# Sessions that can be reached

A session goes on by calls from outside and by the work of the running chain, in any
order and with any delays (`Step`). The order of `settle` and `pass` is one of many
(`reaches_settle`, `reaches_pass`). In every session that can be reached the engine
is where its moves have led it, all of them were allowed, and the running chain has
one task (`reached`).
-/

namespace CommandShell.Session

/-! ## Steps -/

/-- A piece of work of the running chain is taken up: its turn, or a timer that was
set for it. -/
inductive Wakes (s : Session) : Session → Prop
  | turn (h : Job.chain ∈ s.ready) : Wakes s { s with ready := s.ready.erase .chain }
  | timer (t : Timer) (ht : t ∈ s.timers) (hjob : t.job = .chain) (now : Rat) :
      Wakes s { s with timers := s.timers.erase t, now }

/-- What happens to a session: calls come from outside, or the running chain gets
on. -/
inductive Step (s : Session) : Session → Prop
  | calls {s' : Session} (h : Calls s s') : Step s s'
  | chain {s' : Session} (h : Wakes s s') : Step s s'.runChain

/-- What can happen in any order. -/
abbrev Reaches : Session → Session → Prop := Relation.ReflTransGen Step

/-- A session whose engine has been initialised and has not done anything. -/
structure IsStart (s : Session) : Prop where
  engine : s.engine.IsFresh
  moves : s.moves = []
  turns : s.turns = 0
  sleeps : s.sleeps = 0

variable {s₀ s s' : Session}

theorem tasked_of_isStart (h : s.IsStart) : s.Tasked :=
  tasked_of_none h.engine.run h.turns h.sleeps

theorem isStart_of_around (h : s.IsStart) (ha : Around s s') : s'.IsStart where
  engine := by rw [ha.engine]; exact h.engine
  moves := by rw [ha.moves, h.moves]
  turns := by rw [ha.turns, h.turns]
  sleeps := by rw [ha.sleeps, h.sleeps]

/-! ## What holds in every session that can be reached -/

/-- Once a piece of work is taken up, the running chain has no other. -/
theorem run_of_wakes (h : s.Tasked) (hw : Wakes s s') :
    s'.engine = s.engine ∧ s'.moves = s.moves ∧ s'.turns = 0 ∧ s'.sleeps = 0 ∧
      ∃ r, s.engine.run = some r ∧ r.phase ≠ .active := by
  have hle := turns_add_sleeps_le h
  cases hw with
  | turn hready =>
      have hcount : s.turns = (s.ready.erase .chain).count .chain + 1 := by
        unfold turns
        rw [(List.perm_cons_erase hready).count_eq, List.count_cons_self]
      refine ⟨rfl, rfl, ?_, ?_, run_of_work h (by omega)⟩
      · show (s.ready.erase .chain).count .chain = 0
        omega
      · show s.sleeps = 0
        omega
  | timer t ht hjob now =>
      have hcount : s.sleeps = (s.timers.erase t).countP (fun t => t.job == .chain) + 1 := by
        unfold sleeps
        rw [(List.perm_cons_erase ht).countP_eq, List.countP_cons_of_pos (by simp [hjob])]
      refine ⟨rfl, rfl, ?_, ?_, run_of_work h (by omega)⟩
      · show s.turns = 0
        omega
      · show (s.timers.erase t).countP _ = 0
        omega

/-- A running chain is at one of its stages, and its phase fits them. -/
theorem run_of_leads (h₀ : s₀.IsStart) (h : Leads s₀ s) {r : Run} (hr : s.engine.run = some r) :
    r.PhaseFits ∧ r.InStep := by
  obtain ⟨ms, -, hengine, ha⟩ := h
  rw [hengine] at hr
  exact ⟨Engine.phaseFits_of_run h₀.engine ha r hr,
    Engine.inStep_of_mem_runs h₀.engine ha r (Engine.mem_runs.mpr (Or.inr hr))⟩

/-- **What can be reached.** The engine makes moves that it allows, and the running
chain has one task. -/
theorem reached (h₀ : s₀.IsStart) (h : Reaches s₀ s) : Leads s₀ s ∧ s.Tasked := by
  induction h with
  | refl => exact ⟨leads_refl s₀, tasked_of_isStart h₀⟩
  | tail _ hstep ih =>
      obtain ⟨hleads, htasked⟩ := ih
      cases hstep with
      | calls hc => exact ⟨leads_trans hleads (leads_of_calls hc), tasked_of_calls htasked hc⟩
      | chain hw =>
          obtain ⟨hengine, hmoves, hturns, hsleeps, r, hr, hphase⟩ := run_of_wakes htasked hw
          obtain ⟨hfits, hstep⟩ := run_of_leads h₀ hleads hr
          have hy := yields_runChain (hengine ▸ hr) hfits hstep hphase hturns hsleeps
          exact ⟨leads_trans (leads_trans hleads (leads_of_eq hengine hmoves)) hy.leads, hy.tasked⟩

/-- The engine is where its moves have led it. -/
theorem engine_eq_play (h₀ : s₀.IsStart) (h : Reaches s₀ s) :
    s.engine = s₀.engine.play s.moves ∧ s₀.engine.Allowed s.moves := by
  obtain ⟨⟨ms, hmoves, hengine, ha⟩, -⟩ := reached h₀ h
  rw [h₀.moves, List.nil_append] at hmoves
  exact ⟨by rw [hmoves, hengine], hmoves ▸ ha⟩

/-- At every moment the moves so far were allowed. -/
theorem allowed_of_isPrefix (h₀ : s₀.IsStart) (h : Reaches s₀ s) {ms : List Move}
    (hms : ms <+: s.moves) : s₀.engine.Allowed ms := by
  obtain ⟨ms', hms'⟩ := hms
  have ha := (engine_eq_play h₀ h).2
  rw [← hms'] at ha
  exact (Engine.allowed_append.mp ha).1

end CommandShell.Session
