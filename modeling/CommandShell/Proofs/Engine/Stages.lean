import CommandShell.Proofs.Engine.Row
import Mathlib.Data.List.Nodup

/-!
# The stages of a chain

What the running chain may do by itself, and what follows from that for the
handlers that are called for it. A handler is called only while the chain is not
cancelled (`Run.Allows`), so the invocations of a cancelled chain stay as they are
(`invoked_of_cancelled`). The invocations go through the fragments of the chain
one by one, and each is given what the handler of the stage before has ended with
(`Run.InStep`).
-/

namespace CommandShell

/-- A handler may come to another one, by pauses and upon some replies. -/
inductive Handler.ComesTo : Handler → Handler → Prop
  | refl (h : Handler) : ComesTo h h
  | pause (p : Pause) {rest h : Handler} (hrest : ComesTo rest h) : ComesTo (.pause p rest) h
  | ask (r : Request) {rest : r.Reply → Handler} (answer : r.Reply) {h : Handler}
      (hrest : ComesTo (rest answer) h) : ComesTo (.ask r rest) h

theorem Handler.ComesTo.trans {h h' h'' : Handler} (hc : h.ComesTo h') (hc' : h'.ComesTo h'') :
    h.ComesTo h'' := by
  induction hc with
  | refl h => exact hc'
  | pause p _ ih => exact .pause p (ih hc')
  | ask r answer _ ih => exact .ask r answer (ih hc')

/-- A move that anyone may make at any time. -/
def Move.IsOutside : Move → Prop
  | .call _ => True
  | .hook _ => True
  | .release => True
  | _ => False

namespace Run

/-- The running chain after a move that does not end it. -/
def apply (r : Run) : Move → Run
  | .call (.interrupt reason) => { r with token := (r.token.cancel reason).1 }
  | .call (.cancel reason) => { r with token := (r.token.cancel reason).1 }
  | .hook h => { r with token := (r.token.addHook h).1 }
  | .release => r.release
  | .phase phase => { r with phase }
  | .invoke program v =>
    { r with
      invoked := r.invoked ++ [v]
      handlers := r.handlers ++ [program v]
      released := false }
  | .handOn pipe => { r with produced := r.produced ++ [pipe] }
  | _ => r

/-- A chain that is about to begin. -/
def start (x : Entry) : Run := { entry := x, token := { reports := true } }

/-- The handler that was called last, for the command `name`, has come to `h`. -/
def AtWork (r : Run) (name : String) (h : Handler) : Prop :=
  ∃ v h₀, r.invoked.getLast? = some v ∧ r.handlers.getLast? = some h₀ ∧
    v.name = name ∧ h₀.ComesTo h

/-- The phase of a chain fits the stages that it has been through. -/
def PhaseFits (r : Run) : Prop :=
  match r.phase with
  | .fresh => r.invoked = [] ∧ r.produced = []
  | .active => True
  | .suspended p =>
    r.invoked.length = r.produced.length + 1 ∧ p.pipe = r.lastPipe ∧
      p.rest = r.entry.chain.fragments.drop r.invoked.length ∧ r.AtWork p.name p.handler
  | .pacing result =>
    r.produced.length = r.entry.chain.fragments.length ∧ result = r.lastPipe

/-- What the running chain may do: call the handler of the next fragment with
what the stage before has handed on, hand on what that handler has ended with, wait
in between, and end. -/
def Allows (r : Run) : Move → Prop
  | .invoke _ v =>
    r.phase = .active ∧ r.token.isCancelled = false ∧
      r.produced.length = r.invoked.length ∧ v.stage = r.invoked.length + 1 ∧
      v.pipe = r.lastPipe ∧
      ∃ f, r.entry.chain.fragments[r.invoked.length]? = some f ∧
        v.name = f.name ∧ v.args = f.args
  | .handOn pipe =>
    r.phase = .active ∧ r.invoked.length = r.produced.length + 1 ∧
      ∃ name outcome, r.AtWork name (.done outcome) ∧ outcome.toPipe name = .ok pipe
  | .phase phase => { r with phase }.PhaseFits
  | .finish status result =>
    status = .completed →
      r.produced.length = r.entry.chain.fragments.length ∧ result = r.lastPipe
  | _ => True

/-- The handlers that were called for a chain, what they were given, and what they
have ended with. -/
structure InStep (r : Run) : Prop where
  /-- They are those of the first fragments, each called once and in order. -/
  fragments : (r.invoked.map fun v => (v.name, v.args)) =
    (r.entry.chain.fragments.take r.invoked.length).map fun f => (f.name, f.args)
  numbers : (r.invoked.map fun v => v.stage) = List.range' 1 r.invoked.length
  /-- The first is given nothing, each further one what the one before has handed
  on. -/
  pipes : (r.invoked.map fun v => v.pipe) = (none :: r.produced).take r.invoked.length
  produced_le : r.produced.length ≤ r.invoked.length
  invoked_le : r.invoked.length ≤ r.produced.length + 1
  handlers_length : r.handlers.length = r.invoked.length
  /-- A completed stage hands on what its handler has ended with. -/
  results : ∀ (k : Nat) (pipe : Pipe), r.produced[k]? = some pipe →
    ∃ (v : Invocation) (h : Handler) (outcome : Outcome),
      r.invoked[k]? = some v ∧ r.handlers[k]? = some h ∧
        h.ComesTo (.done outcome) ∧ outcome.toPipe v.name = .ok pipe

/-- There is a fragment for every handler that was called. -/
theorem InStep.invoked_length_le {r : Run} (h : r.InStep) :
    r.invoked.length ≤ r.entry.chain.fragments.length := by
  have hlen := congrArg List.length h.fragments
  rw [List.length_map, List.length_map, List.length_take] at hlen
  omega

theorem inStep_start (x : Entry) : (start x).InStep := by
  constructor <;> simp [start]

theorem phaseFits_start (x : Entry) : (start x).PhaseFits := ⟨rfl, rfl⟩

theorem apply_entry (r : Run) (m : Move) : (r.apply m).entry = r.entry := by
  unfold apply
  split <;> first | rfl | exact Engine.release_entry r

/-- The moves that leave the stages of a chain alone. -/
theorem apply_of_outside (r : Run) {m : Move} (h : m.IsOutside) :
    (r.apply m).invoked = r.invoked ∧ (r.apply m).handlers = r.handlers ∧
      (r.apply m).produced = r.produced := by
  cases m with
  | call c => cases c <;> exact ⟨rfl, rfl, rfl⟩
  | hook k => exact ⟨rfl, rfl, rfl⟩
  | release =>
      show r.release.invoked = _ ∧ r.release.handlers = _ ∧ r.release.produced = _
      unfold release
      split <;> exact ⟨rfl, rfl, rfl⟩
  | _ => exact h.elim

/-- Nor does such a move change the phase, except that a release gives the chain its
turn if that is what it waits for. -/
theorem phase_apply (r : Run) {m : Move} (h : m.IsOutside) :
    (r.apply m).phase = r.phase ∨
    ∃ p, r.phase = .suspended p ∧ p.wait = .release ∧
      (r.apply m).phase = .suspended { p with wait := .turn } := by
  cases m with
  | call c => cases c <;> exact Or.inl rfl
  | hook k => exact Or.inl rfl
  | release =>
      show r.release.phase = r.phase ∨ ∃ p, r.phase = .suspended p ∧ p.wait = .release ∧
        r.release.phase = .suspended { p with wait := .turn }
      unfold release
      split
      · rename_i p hp
        by_cases hw : p.wait = .release
        · exact Or.inr ⟨p, hp, hw, by rw [if_pos hw]⟩
        · exact Or.inl (by rw [if_neg hw, hp])
      · exact Or.inl rfl
  | _ => exact h.elim

end Run

theorem Token.isCancelled_cancel {ε : Type} (t : Token ε) (reason : Option String) :
    (t.cancel reason).1.isCancelled = true := by
  unfold Token.cancel
  split
  · assumption
  · rfl

theorem Token.isCancelled_addHook {ε : Type} (t : Token ε) (h : Hook ε) :
    (t.addHook h).1.isCancelled = t.isCancelled := by
  unfold Token.addHook
  split <;> rfl

namespace Engine

/-! ## The running chain after a move -/

theorem land_run (e : Engine) (m : Move) :
    (e.land m).run =
      match m with
      | .finish _ _ => none
      | m => e.run.map fun r => r.apply m := by
  cases m with
  | call c =>
      cases c <;> cases hr : e.run <;>
        simp [land, apply, call, disable, cancel, onRun, hr, Run.apply]
  | finish status result => rfl
  | _ => rfl

/-- The running chain is what the move has made of it, or, where there is none, one
that an enabled engine has just started. -/
theorem run_apply_land (e : Engine) (m : Move) :
    (e.apply m).run = (e.land m).run ∨
    ((e.land m).run = none ∧ (e.apply m).life.enabled = true ∧
      ∃ x, (e.apply m).run = some (Run.start x)) := by
  obtain ⟨as, he | he⟩ := apply_cases e m
  · rw [he]
    exact Or.inl rfl
  · rcases advance_cases { e.land m with answers := as } with ⟨-, ha⟩ | ⟨x, queue, hon, hr, -, ha⟩
    · rw [he, ha]
      exact Or.inl rfl
    · rw [he, ha]
      exact Or.inr ⟨hr, hon, x, rfl⟩

theorem run_apply {e : Engine} {r : Run} {m : Move} (h : e.run = some r)
    (hm : ∀ status result, m ≠ .finish status result) :
    (e.apply m).run = some (r.apply m) := by
  have hland : (e.land m).run = some (r.apply m) := by
    rw [land_run, h]
    split
    · exact absurd rfl (hm _ _)
    · rfl
  rcases run_apply_land e m with heq | ⟨hnone, -⟩
  · rw [heq, hland]
  · rw [hland] at hnone
    cases hnone

/-- The running chain after a move was running before, or has just been
started. -/
theorem run_apply_cases {e : Engine} {r' : Run} {m : Move} (h : (e.apply m).run = some r') :
    (∃ r, e.run = some r ∧ r' = r.apply m) ∨ ∃ x, r' = Run.start x := by
  rcases run_apply_land e m with heq | ⟨-, -, x, heq⟩
  · rw [heq, land_run] at h
    split at h
    · cases h
    · obtain ⟨r, hr, rfl⟩ := Option.map_eq_some_iff.mp h
      exact Or.inl ⟨r, hr, rfl⟩
  · rw [heq] at h
    exact Or.inr ⟨x, (Option.some.inj h).symm⟩

/-- After the end of a chain the running one has just been started. -/
theorem run_finish {e : Engine} {status : Status} {result : Pipe} {r : Run}
    (h : (e.apply (.finish status result)).run = some r) : ∃ x, r = Run.start x := by
  rcases run_apply_land e (.finish status result) with heq | ⟨-, -, x, heq⟩
  · rw [heq] at h
    cases h
  · rw [heq] at h
    exact ⟨x, (Option.some.inj h).symm⟩

/-- A chain that runs goes on until it is over. -/
theorem running_or_over {e : Engine} {r : Run} (hr : e.run = some r) (ms : List Move) :
    (∃ r', (e.play ms).run = some r' ∧ r'.entry = r.entry ∧
      (e.play ms).finished = e.finished) ∨ r.entry ∈ (e.play ms).ended := by
  induction ms using List.reverseRecOn with
  | nil => exact Or.inl ⟨r, hr, rfl, rfl⟩
  | append_singleton ms m ih =>
      rw [play_concat]
      rcases ih with ⟨r', hr', hentry, hfinished⟩ | hover
      · by_cases hm : ∃ status result, m = .finish status result
        · obtain ⟨status, result, rfl⟩ := hm
          -- whatever chain is ended, it is the one that runs
          right
          rw [ended_apply, ← hentry]
          simp [running, hr']
        · have hgoes (status : Status) (result : Pipe) : m ≠ .finish status result :=
            fun heq => hm ⟨status, result, heq⟩
          refine Or.inl ⟨r'.apply m, run_apply hr' hgoes, ?_, ?_⟩
          · rw [Run.apply_entry, hentry]
          · rw [finished_apply, hfinished]
            split
            · exact absurd rfl (hgoes _ _)
            · rfl
      · right
        rw [ended_apply]
        split
        · exact List.mem_append_left _ hover
        · exact hover

/-- While the same chain runs, no chain ends. -/
theorem finished_of_same_run {e : Engine} (h : e.IsFresh) {before after : List Move} {r r' : Run}
    (hr : (e.play before).run = some r) (hr' : (e.play (before ++ after)).run = some r')
    (hentry : r'.entry = r.entry) :
    (e.play (before ++ after)).finished = (e.play before).finished := by
  have hnodup := row_ids_nodup h (before ++ after)
  rw [play_append] at hr' hnodup ⊢
  rcases running_or_over hr after with ⟨-, -, -, hsame⟩ | hover
  · exact hsame
  · -- a chain that runs is not over
    rw [row_eq_started, started, ids_append, ids_append] at hnodup
    have hdisjoint := (List.nodup_append.mp (List.nodup_append.mp hnodup).1).2.2
    refine absurd rfl (hdisjoint _ (id_mem_ids hover) _ ?_)
    simp [running, hr', hentry, ids]

theorem mem_runs {e : Engine} {r : Run} :
    r ∈ e.runs ↔ (∃ f ∈ e.finished, f.run = r) ∨ e.run = some r := by
  simp [runs]

/-- Every run after a move was there before, is what became of the running chain,
or has just been started. -/
theorem mem_runs_apply {e : Engine} {r' : Run} {m : Move} (h : r' ∈ (e.apply m).runs) :
    r' ∈ e.runs ∨ (∃ r, e.run = some r ∧ r' = r.apply m) ∨ ∃ x, r' = Run.start x := by
  rcases mem_runs.mp h with ⟨f, hf, rfl⟩ | h
  · rw [finished_apply] at hf
    left
    split at hf
    · rcases List.mem_append.mp hf with hf | hf
      · exact mem_runs.mpr (Or.inl ⟨f, hf, rfl⟩)
      · obtain ⟨r, hr, rfl⟩ : ∃ r, e.run = some r ∧ f = ⟨r, _⟩ := by
          cases hr : e.run with
          | none => simp [hr] at hf
          | some r => exact ⟨r, rfl, by simpa [hr] using hf⟩
        exact mem_runs.mpr (Or.inr hr)
    · exact mem_runs.mpr (Or.inl ⟨f, hf, rfl⟩)
  · exact Or.inr (run_apply_cases h)

/-- No run is lost by a move: it stays as it is, or it is the running chain and
goes on. -/
theorem exists_mem_runs_apply {e : Engine} {r : Run} (h : r ∈ e.runs) (m : Move) :
    ∃ r' ∈ (e.apply m).runs, r' = r ∨ (e.run = some r ∧ r' = r.apply m) := by
  rcases mem_runs.mp h with ⟨f, hf, rfl⟩ | hr
  · refine ⟨f.run, mem_runs.mpr (Or.inl ⟨f, ?_, rfl⟩), Or.inl rfl⟩
    rw [finished_apply]
    split
    · exact List.mem_append_left _ hf
    · exact hf
  · by_cases hm : ∃ status result, m = .finish status result
    · obtain ⟨status, result, rfl⟩ := hm
      refine ⟨r, mem_runs.mpr (Or.inl ⟨⟨r, status⟩, ?_, rfl⟩), Or.inl rfl⟩
      rw [finished_apply, hr]
      simp
    · have hrun := run_apply hr (m := m) (fun status result hf => hm ⟨status, result, hf⟩)
      exact ⟨r.apply m, mem_runs.mpr (Or.inr hrun), Or.inr ⟨hr, rfl⟩⟩

/-! ## Moves that a chain may make -/

/-- Anyone may call an engine; the rest is up to the running chain. -/
def Allows (e : Engine) : Move → Prop
  | .call _ => True
  | .hook _ => True
  | .release => True
  | m => ∃ r, e.run = some r ∧ r.Allows m

/-- Each move is allowed at its moment. -/
def Allowed : Engine → List Move → Prop
  | _, [] => True
  | e, m :: ms => e.Allows m ∧ (e.apply m).Allowed ms

theorem allowed_append {e : Engine} {ms ms' : List Move} :
    e.Allowed (ms ++ ms') ↔ e.Allowed ms ∧ (e.play ms).Allowed ms' := by
  induction ms generalizing e with
  | nil => simp [Allowed, play]
  | cons m ms ih =>
      have hplay : e.play (m :: ms) = (e.apply m).play ms := rfl
      rw [List.cons_append, Allowed, Allowed, ih, hplay, and_assoc]

theorem allowed_concat {e : Engine} {ms : List Move} {m : Move} :
    e.Allowed (ms ++ [m]) ↔ e.Allowed ms ∧ (e.play ms).Allows m := by
  rw [allowed_append]
  simp [Allowed]

theorem allows_run {e : Engine} {r : Run} {m : Move} (h : e.Allows m) (hr : e.run = some r) :
    r.Allows m := by
  cases m with
  | call c => trivial
  | hook h => trivial
  | release => trivial
  | _ =>
      obtain ⟨r', hr', hm⟩ := h
      rw [hr] at hr'
      cases hr'
      exact hm

end Engine

namespace Run

/-! ## What an allowed move keeps -/

/-- What the next stage is given stands behind what was given so far. -/
theorem getElem?_lastPipe (r : Run) :
    ((none : Pipe) :: r.produced)[r.produced.length]? = some r.lastPipe := by
  unfold lastPipe
  rw [List.getLast?_eq_getElem?]
  cases r.produced with
  | nil => rfl
  | cons pipe pipes => simp

theorem getElem?_append_some {α : Type} {xs ys : List α} {k : Nat} {x : α}
    (h : xs[k]? = some x) : (xs ++ ys)[k]? = some x := by
  rw [List.getElem?_append_left (List.getElem?_eq_some_iff.mp h).1, h]

theorem inStep_congr {r r' : Run} (h : r.InStep) (hentry : r'.entry = r.entry)
    (hinvoked : r'.invoked = r.invoked) (hhandlers : r'.handlers = r.handlers)
    (hproduced : r'.produced = r.produced) : r'.InStep := by
  obtain ⟨h₁, h₂, h₃, h₄, h₅, h₆, h₇⟩ := h
  constructor <;> (try rw [hinvoked]) <;> (try rw [hproduced]) <;> (try rw [hhandlers]) <;>
    (try rw [hentry]) <;> assumption

/-- Calling the next handler keeps a chain in step. -/
theorem inStep_invoke {r : Run} {program : Program} {v : Invocation} (h : r.InStep)
    (hm : r.Allows (.invoke program v)) : (r.apply (.invoke program v)).InStep := by
  obtain ⟨-, -, hlen, hstage, hpipe, f, hf, hname, hargs⟩ := hm
  have htake : r.entry.chain.fragments.take (r.invoked.length + 1) =
      r.entry.chain.fragments.take r.invoked.length ++ [f] := by
    rw [List.take_add_one, hf]
    rfl
  constructor
  · show (r.invoked ++ [v]).map _ = _
    simp only [apply, List.length_append, List.length_singleton]
    rw [htake, List.map_append, List.map_append, h.fragments]
    simp [hname, hargs]
  · show (r.invoked ++ [v]).map _ = _
    simp only [apply, List.length_append, List.length_singleton]
    rw [List.map_append, h.numbers, List.range'_concat]
    simp [hstage, Nat.add_comm]
  · show (r.invoked ++ [v]).map _ = _
    simp only [apply, List.length_append, List.length_singleton]
    rw [List.map_append, h.pipes, List.take_add_one]
    congr 1
    rw [List.map_singleton, hpipe, ← hlen, getElem?_lastPipe]
    rfl
  · show r.produced.length ≤ (r.invoked ++ [v]).length
    rw [List.length_append, hlen]
    omega
  · show (r.invoked ++ [v]).length ≤ r.produced.length + 1
    rw [List.length_append, hlen]
    simp
  · show (r.handlers ++ [program v]).length = (r.invoked ++ [v]).length
    rw [List.length_append, List.length_append, h.handlers_length]
    rfl
  · intro k pipe hk
    obtain ⟨w, hw, outcome, hinvoked, hhandlers, hends⟩ := h.results k pipe hk
    exact ⟨w, hw, outcome, getElem?_append_some hinvoked, getElem?_append_some hhandlers, hends⟩

/-- Handing on what the handler at work has ended with keeps a chain in step. -/
theorem inStep_handOn {r : Run} {pipe : Pipe} (h : r.InStep) (hm : r.Allows (.handOn pipe)) :
    (r.apply (.handOn pipe)).InStep := by
  obtain ⟨-, hlen, name, outcome, ⟨v, h₀, hv, hh, rfl, hcomes⟩, hpipe⟩ := hm
  constructor
  · exact h.fragments
  · exact h.numbers
  · show r.invoked.map _ = (none :: (r.produced ++ [pipe])).take r.invoked.length
    rw [h.pipes, ← List.cons_append, List.take_append_of_le_length]
    simp [hlen]
  · show (r.produced ++ [pipe]).length ≤ r.invoked.length
    rw [List.length_append, hlen]
    simp
  · show r.invoked.length ≤ (r.produced ++ [pipe]).length + 1
    rw [List.length_append, hlen]
    omega
  · exact h.handlers_length
  · intro k result hk
    have hk : (r.produced ++ [pipe])[k]? = some result := hk
    by_cases hlt : k < r.produced.length
    · rw [List.getElem?_append_left hlt] at hk
      exact h.results k result hk
    · -- the stage that has just been completed
      have hkeq : k = r.produced.length := by
        have hlt' := (List.getElem?_eq_some_iff.mp hk).1
        rw [List.length_append, List.length_singleton] at hlt'
        omega
      subst hkeq
      rw [List.getElem?_concat_length] at hk
      obtain rfl := Option.some.inj hk
      refine ⟨v, h₀, outcome, ?_, ?_, hcomes, hpipe⟩
      · rw [List.getLast?_eq_getElem?, hlen] at hv
        exact hv
      · rw [List.getLast?_eq_getElem?, h.handlers_length, hlen] at hh
        exact hh

theorem inStep_apply {r : Run} {m : Move} (h : r.InStep) (hm : r.Allows m) :
    (r.apply m).InStep := by
  cases m with
  | invoke program v => exact inStep_invoke h hm
  | handOn pipe => exact inStep_handOn h hm
  | phase phase => exact inStep_congr h rfl rfl rfl rfl
  | finish status result => exact h
  | call c =>
      obtain ⟨h₁, h₂, h₃⟩ := apply_of_outside r (m := .call c) trivial
      exact inStep_congr h (apply_entry r _) h₁ h₂ h₃
  | hook k => exact inStep_congr h rfl rfl rfl rfl
  | release =>
      obtain ⟨h₁, h₂, h₃⟩ := apply_of_outside r (m := .release) trivial
      exact inStep_congr h (apply_entry r _) h₁ h₂ h₃

theorem phaseFits_apply {r : Run} {m : Move} (h : r.PhaseFits) (hm : r.Allows m) :
    (r.apply m).PhaseFits := by
  cases m with
  | phase phase => exact hm
  | invoke program v =>
      have hphase := hm.1
      simp [PhaseFits, apply, hphase]
  | handOn pipe =>
      have hphase := hm.1
      simp [PhaseFits, apply, hphase]
  | release =>
      show r.release.PhaseFits
      unfold release
      unfold PhaseFits at h
      split
      · rename_i p hp
        rw [hp] at h
        obtain ⟨hlen, hpipe, hrest, hwork⟩ := h
        unfold PhaseFits
        dsimp only
        split <;> exact ⟨hlen, hpipe, hrest, hwork⟩
      · unfold PhaseFits
        exact h
  | call c => cases c <;> exact h
  | hook k => exact h
  | finish status result => exact h

/-- A cancelled chain stays cancelled, and no handler is called for it. -/
theorem cancelled_apply {r : Run} {m : Move} (h : r.token.isCancelled = true) (hm : r.Allows m) :
    (r.apply m).invoked = r.invoked ∧ (r.apply m).token.isCancelled = true := by
  cases m with
  | call c =>
      refine ⟨(apply_of_outside r (m := .call c) trivial).1, ?_⟩
      cases c with
      | interrupt reason => exact Token.isCancelled_cancel _ reason
      | cancel reason => exact Token.isCancelled_cancel _ reason
      | _ => exact h
  | hook k => exact ⟨rfl, (Token.isCancelled_addHook _ k).trans h⟩
  | release =>
      refine ⟨(apply_of_outside r (m := .release) trivial).1, ?_⟩
      show r.release.token.isCancelled = true
      unfold release
      split <;> exact h
  | invoke program v =>
      have hc := hm.2.1
      rw [h] at hc
      cases hc
  | _ => exact ⟨rfl, h⟩

theorem cancelled_of_outside {r : Run} {m : Move} (h : r.token.isCancelled = true)
    (hm : m.IsOutside) : (r.apply m).token.isCancelled = true := by
  refine (cancelled_apply h ?_).2
  cases m with
  | call c => trivial
  | hook k => trivial
  | release => trivial
  | _ => exact hm.elim

end Run

namespace Engine

/-! ## Along a run -/

theorem mem_runs_of_isFresh {e : Engine} (h : e.IsFresh) (r : Run) : r ∉ e.runs := by
  simp [runs, h.finished, h.run]

/-- **One stage after the other**, in every chain that has been started. -/
theorem inStep_of_mem_runs {e : Engine} (h : e.IsFresh) {ms : List Move} (ha : e.Allowed ms) :
    ∀ r ∈ (e.play ms).runs, r.InStep := by
  induction ms using List.reverseRecOn with
  | nil => exact fun r hr => absurd hr (mem_runs_of_isFresh h r)
  | append_singleton ms m ih =>
      obtain ⟨hms, hm⟩ := allowed_concat.mp ha
      intro r hr
      rw [play_concat] at hr
      rcases mem_runs_apply hr with hr | ⟨r, hrun, rfl⟩ | ⟨x, rfl⟩
      · exact ih hms r hr
      · exact Run.inStep_apply (ih hms r (mem_runs.mpr (Or.inr hrun))) (allows_run hm hrun)
      · exact Run.inStep_start x

theorem phaseFits_of_run {e : Engine} (h : e.IsFresh) {ms : List Move} (ha : e.Allowed ms) :
    ∀ r, (e.play ms).run = some r → r.PhaseFits := by
  induction ms using List.reverseRecOn with
  | nil =>
      intro r hr
      have hnone : (e.play []).run = none := h.run
      rw [hnone] at hr
      cases hr
  | append_singleton ms m ih =>
      obtain ⟨hms, hm⟩ := allowed_concat.mp ha
      intro r hr
      rw [play_concat] at hr
      rcases run_apply_cases hr with ⟨r, hrun, rfl⟩ | ⟨x, rfl⟩
      · exact Run.phaseFits_apply (ih hms r hrun) (allows_run hm hrun)
      · exact Run.phaseFits_start x

/-- A chain that has ended as completed has been through all its stages. -/
theorem produced_of_completed {e : Engine} (h : e.IsFresh) {ms : List Move} (ha : e.Allowed ms) :
    ∀ f ∈ (e.play ms).finished, f.status = .completed →
      f.run.produced.length = f.run.entry.chain.fragments.length := by
  induction ms using List.reverseRecOn with
  | nil =>
      intro f hf
      have hnil : (e.play []).finished = [] := h.finished
      simp [hnil] at hf
  | append_singleton ms m ih =>
      obtain ⟨hms, hm⟩ := allowed_concat.mp ha
      intro f hf hs
      rw [play_concat, finished_apply] at hf
      split at hf
      · rcases List.mem_append.mp hf with hf | hf
        · exact ih hms f hf hs
        · obtain ⟨r, hr, hrun⟩ := hm
          obtain rfl : f = ⟨r, _⟩ := by simpa [hr] using hf
          exact (hrun hs).1
      · exact ih hms f hf hs

/-- Once a chain is cancelled its invocations stay as they are, as long as the
moves are allowed. -/
theorem invoked_of_cancelled {e : Engine} {r : Run} (hr : r ∈ e.runs)
    (hc : r.token.isCancelled = true) {ms : List Move} (ha : e.Allowed ms) :
    ∃ r' ∈ (e.play ms).runs, r'.entry = r.entry ∧ r'.invoked = r.invoked ∧
      r'.token.isCancelled = true := by
  induction ms using List.reverseRecOn with
  | nil => exact ⟨r, hr, rfl, rfl, hc⟩
  | append_singleton ms m ih =>
      obtain ⟨hms, hm⟩ := allowed_concat.mp ha
      obtain ⟨r', hr', hentry, hinvoked, hc'⟩ := ih hms
      rw [play_concat]
      -- the chain is over and stays as it is, or it runs and makes an allowed move
      obtain ⟨r'', hr'', heq | ⟨hrun, heq⟩⟩ := exists_mem_runs_apply hr' m
      · exact ⟨r'', hr'', by rw [heq, hentry], by rw [heq, hinvoked], by rw [heq, hc']⟩
      · obtain ⟨hi, hcancelled⟩ := Run.cancelled_apply hc' (allows_run hm hrun)
        refine ⟨r'', hr'', ?_, ?_, ?_⟩
        · rw [heq, Run.apply_entry, hentry]
        · rw [heq, hi, hinvoked]
        · rw [heq, hcancelled]

theorem runs_ids_nodup {e : Engine} (h : e.IsFresh) (ms : List Move) :
    ((e.play ms).runs.map fun r => r.entry.id).Nodup := by
  have hrow := row_ids_nodup h ms
  rw [row_eq_started, ids_append] at hrow
  have hstarted := (List.nodup_append.mp hrow).1
  unfold ids at hstarted
  rwa [← runs_map_entry, List.map_map] at hstarted

theorem eq_of_mem_runs {e : Engine} (h : e.IsFresh) {ms : List Move} {r r' : Run}
    (hr : r ∈ (e.play ms).runs) (hr' : r' ∈ (e.play ms).runs)
    (hid : r'.entry.id = r.entry.id) : r' = r :=
  List.inj_on_of_nodup_map (runs_ids_nodup h ms) hr' hr hid

/-- No chain has ended twice. -/
theorem eq_of_finished {e : Engine} (h : e.IsFresh) {ms : List Move} {f f' : Finished}
    (hf : f ∈ (e.play ms).finished) (hf' : f' ∈ (e.play ms).finished)
    (hid : f'.run.entry.id = f.run.entry.id) : f' = f := by
  have hnodup := runs_ids_nodup h ms
  unfold runs at hnodup
  rw [List.map_append, List.map_map] at hnodup
  exact List.inj_on_of_nodup_map (List.nodup_append.mp hnodup).1 hf' hf hid

/-- No two runs are of the same chain, so the invocations for a chain are those of
its run. -/
theorem invocations_of_mem_runs {e : Engine} (h : e.IsFresh) {ms : List Move} {r : Run}
    (hr : r ∈ (e.play ms).runs) : (e.play ms).invocations r.entry.id = r.invoked := by
  have hnodup := runs_ids_nodup h ms
  unfold invocations
  obtain ⟨before, after, hsplit⟩ := List.append_of_mem hr
  rw [hsplit] at hnodup ⊢
  rw [List.map_append, List.map_cons, List.nodup_append, List.nodup_cons] at hnodup
  obtain ⟨-, ⟨hafter, -⟩, hbefore⟩ := hnodup
  have hb : (before.filter fun r' => r'.entry.id = r.entry.id) = [] := by
    apply List.filter_eq_nil_iff.mpr
    intro r' hr' heq
    exact hbefore _ (List.mem_map_of_mem hr') _ List.mem_cons_self (of_decide_eq_true heq)
  have ha : (after.filter fun r' => r'.entry.id = r.entry.id) = [] := by
    apply List.filter_eq_nil_iff.mpr
    intro r' hr' heq
    exact hafter (List.mem_map.mpr ⟨r', hr', of_decide_eq_true heq⟩)
  rw [List.filter_append, List.filter_cons_of_pos (by simp), hb, ha]
  simp

/-- What holds at a moment of the handlers that were called, and until a later
one. -/
structure Heeded (e : Engine) (ms later : List Move) : Prop where
  inStep : ∀ r ∈ (e.play ms).runs, r.InStep
  /-- The handlers that were called for a chain are those of its run. -/
  invoked : ∀ r ∈ (e.play ms).runs, (e.play ms).invocations r.entry.id = r.invoked
  /-- No handler is called for a chain that is cancelled. -/
  cancelled : ∀ r ∈ (e.play ms).runs, r.token.isCancelled = true →
    (e.play (ms ++ later)).invocations r.entry.id = (e.play ms).invocations r.entry.id

theorem heeded {e : Engine} (h : e.IsFresh) {ms later : List Move}
    (ha : e.Allowed (ms ++ later)) : e.Heeded ms later := by
  obtain ⟨hms, hlater⟩ := allowed_append.mp ha
  refine ⟨inStep_of_mem_runs h hms, fun r hr => invocations_of_mem_runs h hr, ?_⟩
  intro r hr hc
  obtain ⟨r', hr', hentry, hinvoked, -⟩ := invoked_of_cancelled hr hc hlater
  rw [← play_append] at hr'
  rw [invocations_of_mem_runs h hr, ← hinvoked, ← hentry]
  exact invocations_of_mem_runs h hr'

end Engine

end CommandShell
