import CommandShell.Engine.State
import Mathlib.Data.List.Induction

/-!
# Moves of the engine

What every move does to the chains that an engine has taken. The chains stand
in a row: those that are over, the running one, the queue. A move puts a chain
at the end of the row, takes the queue away, or lets the running chain go over
to the first ones; that a chain is started changes nothing in the row. The
tables `ended_apply`, `ahead_apply`, `dropped_apply` and `next_apply` say this
once for all moves.

A list of moves is a moment in the life of an engine: `play` gives the engine
at that moment.
-/

namespace CommandShell.Engine

/-! ## Moments -/

/-- The engine after moves. -/
def play (e : Engine) (ms : List Move) : Engine := ms.foldl apply e

theorem play_concat (e : Engine) (ms : List Move) (m : Move) :
    e.play (ms ++ [m]) = (e.play ms).apply m := by
  unfold play
  rw [List.foldl_append]
  rfl

theorem play_append (e : Engine) (ms ms' : List Move) :
    e.play (ms ++ ms') = (e.play ms).play ms' := by
  unfold play
  exact List.foldl_append

/-- Something happens among moves: a move, together with those before it. -/
def Occurs (P : List Move → Move → Prop) (ms : List Move) : Prop :=
  ∃ before m after, ms = before ++ m :: after ∧ P before m

theorem not_occurs_nil (P : List Move → Move → Prop) : ¬ Occurs P [] := by
  rintro ⟨before, m, after, h, -⟩
  simp at h

/-- What happens among moves and one more happens before that one, or is that
one. -/
theorem occurs_concat {P : List Move → Move → Prop} {ms : List Move} {m : Move} :
    Occurs P (ms ++ [m]) ↔ Occurs P ms ∨ P ms m := by
  constructor
  · rintro ⟨before, n, after, h, hp⟩
    induction after using List.reverseRecOn with
    | nil =>
        obtain ⟨rfl, rfl⟩ := List.append_singleton_inj.mp h
        exact Or.inr hp
    | append_singleton after last _ =>
        rw [← List.cons_append, ← List.append_assoc] at h
        obtain ⟨rfl, rfl⟩ := List.append_singleton_inj.mp h
        exact Or.inl ⟨before, n, after, rfl, hp⟩
  · rintro (⟨before, n, after, rfl, hp⟩ | hp)
    · exact ⟨before, n, after ++ [m], by simp, hp⟩
    · exact ⟨ms, m, [], rfl, hp⟩

/-- The engine has been initialised, and no chain was handed in yet. -/
structure IsFresh (e : Engine) : Prop where
  initialized : e.life.initialized = true
  queue : e.queue = []
  run : e.run = none
  finished : e.finished = []
  dropped : e.dropped = []
  answers : e.answers = []
  next : e.next = 0

/-! ## The row of chains -/

/-- The chain that runs, if there is one. -/
def running (e : Engine) : List Entry := (e.run.map fun r => r.entry).toList

/-- The chains that have run, in order. -/
def ended (e : Engine) : List Entry := e.finished.map fun f => f.run.entry

/-- The chains that are not over: the running one, then the queue. -/
def ahead (e : Engine) : List Entry := e.running ++ e.queue

/-- The chains that have been started, in order. -/
def started (e : Engine) : List Entry := e.ended ++ e.running

/-- The numbers of chains. -/
def ids (xs : List Entry) : List Nat := xs.map fun x => x.id

theorem ids_append (xs ys : List Entry) : ids (xs ++ ys) = ids xs ++ ids ys := by
  unfold ids
  exact List.map_append

theorem mem_ids_singleton {id : Nat} {x : Entry} : id ∈ ids [x] ↔ id = x.id := by
  simp [ids]

theorem id_mem_ids {x : Entry} {xs : List Entry} (h : x ∈ xs) : x.id ∈ ids xs :=
  List.mem_map_of_mem h

/-- The chain that a move puts at the end of the queue. A disabled engine takes
none. -/
def accepts (e : Engine) : Move → List Entry
  | .call (.enqueue chain) => if e.life.enabled then [⟨e.next, chain⟩] else []
  | _ => []

/-- The chains that an engine has taken while it was enabled, in order. -/
def accepted : Engine → List Move → List Entry
  | _, [] => []
  | e, m :: ms => e.accepts m ++ (e.apply m).accepted ms

theorem accepted_concat (e : Engine) (ms : List Move) (m : Move) :
    e.accepted (ms ++ [m]) = e.accepted ms ++ (e.play ms).accepts m := by
  induction ms generalizing e with
  | nil => simp [accepted, play]
  | cons n ms ih =>
      have hplay : e.play (n :: ms) = (e.apply n).play ms := rfl
      rw [List.cons_append, accepted, accepted, ih, hplay, List.append_assoc]

/-! ## Starting the next chain -/

/-- A free, enabled engine leaves its queue waiting. -/
def Stalled (e : Engine) : Prop := e.life.enabled = true ∧ e.run = none ∧ e.queue ≠ []

theorem advance_eq_self {e : Engine} (h : ¬ e.Stalled) : e.advance = e := by
  unfold advance
  split
  · rename_i hl hr hq
    exact absurd ⟨hl, hr, by simp [hq]⟩ h
  · rfl

theorem advance_eq_start {e : Engine} {x : Entry} {queue : List Entry}
    (hl : e.life.enabled = true) (hr : e.run = none) (hq : e.queue = x :: queue) :
    e.advance =
      { e with queue, run := some { entry := x, token := { reports := true } } } := by
  simp [advance, hl, hr, hq]

/-- Everything that `advance` can do. -/
theorem advance_cases (e : Engine) :
    (¬ e.Stalled ∧ e.advance = e) ∨
    ∃ x queue, e.life.enabled = true ∧ e.run = none ∧ e.queue = x :: queue ∧
      e.advance =
        { e with queue, run := some { entry := x, token := { reports := true } } } := by
  by_cases h : e.Stalled
  · obtain ⟨hl, hr, hq⟩ := h
    obtain ⟨x, queue, hq⟩ := List.exists_cons_of_ne_nil hq
    exact Or.inr ⟨x, queue, hl, hr, hq, advance_eq_start hl hr hq⟩
  · exact Or.inl ⟨h, advance_eq_self h⟩

theorem not_stalled_advance (e : Engine) : ¬ e.advance.Stalled := by
  rcases advance_cases e with ⟨h, he⟩ | ⟨x, queue, -, -, -, he⟩
  · rwa [he]
  · rw [he]
    rintro ⟨-, hr, -⟩
    cases hr

/-- Starting a chain leaves the row as it is. -/
theorem advance_ahead (e : Engine) : e.advance.ahead = e.ahead := by
  rcases advance_cases e with ⟨-, he⟩ | ⟨x, queue, -, hr, hq, he⟩
  · rw [he]
  · rw [he]
    simp [ahead, running, hr, hq]

@[simp] theorem advance_life (e : Engine) : e.advance.life = e.life := by
  unfold advance; split <;> rfl

@[simp] theorem advance_finished (e : Engine) : e.advance.finished = e.finished := by
  unfold advance; split <;> rfl

@[simp] theorem advance_dropped (e : Engine) : e.advance.dropped = e.dropped := by
  unfold advance; split <;> rfl

@[simp] theorem advance_answers (e : Engine) : e.advance.answers = e.answers := by
  unfold advance; split <;> rfl

@[simp] theorem advance_next (e : Engine) : e.advance.next = e.next := by
  unfold advance; split <;> rfl

@[simp] theorem advance_stepDelay (e : Engine) : e.advance.stepDelay = e.stepDelay := by
  unfold advance; split <;> rfl

/-! ## Giving answers -/

/-- Giving an answer changes the answers only. -/
theorem resolve_eq (e : Engine) (id : Nat) (v : Pipe) :
    ∃ answers, e.resolve id v = { e with answers } := by
  unfold resolve
  split
  · exact ⟨e.answers, rfl⟩
  · exact ⟨_, rfl⟩

theorem resolveAll_eq (e : Engine) (ids : List Nat) (v : Pipe) :
    ∃ answers, e.resolveAll ids v = { e with answers } := by
  unfold resolveAll
  induction ids generalizing e with
  | nil => exact ⟨e.answers, rfl⟩
  | cons id ids ih =>
      obtain ⟨as, h⟩ := resolve_eq e id v
      obtain ⟨as', h'⟩ := ih (e.resolve id v)
      exact ⟨as', by rw [List.foldl_cons, h', h]⟩

/-! ## What a move does -/

/-- What a move does to an engine, but for its answers and the start of the next
chain. -/
def land (e : Engine) : Move → Engine
  | .call (.enqueue chain) =>
    { e with next := e.next + 1, queue := e.queue ++ e.accepts (.call (.enqueue chain)) }
  | .call (.interrupt reason) =>
    ({ e with queue := [], dropped := e.dropped ++ e.queue } : Engine).cancel reason
  | .call .resume => e
  | .call .enable => { e with life := e.life.enable }
  | .finish status _ =>
    { e with run := none, finished := e.finished ++ (e.run.map fun r => ⟨r, status⟩).toList }
  | m => e.apply m

theorem interrupt_eq (e : Engine) (reason : Option String) :
    ∃ answers, e.interrupt reason = { e.land (.call (.interrupt reason)) with answers } := by
  obtain ⟨as, h⟩ := resolveAll_eq { e with queue := [], dropped := e.dropped ++ e.queue }
    (e.queue.map (·.id) ++ (e.run.map (·.entry.id)).toList) none
  exact ⟨as, by simp only [interrupt, h, land, cancel, onRun]⟩

/-- Everything that a move can do: after what `land` says, the next chain is
started or it is not, and answers are given. -/
theorem apply_cases (e : Engine) (m : Move) : ∃ answers,
    e.apply m = { e.land m with answers } ∨
    e.apply m = ({ e.land m with answers } : Engine).advance := by
  cases m with
  | call c =>
      cases c with
      | enqueue chain =>
          show ∃ answers, e.enqueue chain = _ ∨ e.enqueue chain = _
          cases h : e.life.enabled with
          | true => exact ⟨e.answers, Or.inr (by simp [enqueue, land, accepts, h])⟩
          | false =>
              obtain ⟨as, h'⟩ := resolve_eq { e with next := e.next + 1 } e.next none
              exact ⟨as, Or.inl (by simp [enqueue, land, accepts, h, h'])⟩
      | interrupt reason =>
          obtain ⟨as, h⟩ := interrupt_eq e reason
          exact ⟨as, Or.inl h⟩
      | resume => exact ⟨e.answers, Or.inr rfl⟩
      | enable =>
          show ∃ answers, e.enable = _ ∨ e.enable = _
          unfold enable
          dsimp only
          split
          · exact ⟨e.answers, Or.inr rfl⟩
          · exact ⟨e.answers, Or.inl rfl⟩
      | disable => exact ⟨e.answers, Or.inl rfl⟩
      | cancel reason => exact ⟨e.answers, Or.inl rfl⟩
  | finish status result =>
      show ∃ answers, e.finish status result = _ ∨ e.finish status result = _
      cases hr : e.run with
      | none =>
          refine ⟨e.answers, Or.inl ?_⟩
          simp only [finish, hr, land, Option.map_none, Option.toList_none, List.append_nil]
          rw [← hr]
      | some r =>
          obtain ⟨as, h⟩ := resolve_eq e r.entry.id (if status = .completed then result else none)
          refine ⟨as, ?_⟩
          simp only [finish, hr, h, land, Option.map_some, Option.toList_some]
          split
          · exact Or.inl rfl
          · exact Or.inr rfl
  | _ => exact ⟨e.answers, Or.inl rfl⟩

/-- What neither the start of a chain nor an answer changes is as `land` says. -/
theorem apply_eq_land {β : Type} (view : Engine → β) (hadvance : ∀ e, view e.advance = view e)
    (hanswers : ∀ e answers, view { e with answers } = view e) (e : Engine) (m : Move) :
    view (e.apply m) = view (e.land m) := by
  obtain ⟨as, h | h⟩ := apply_cases e m
  · rw [h, hanswers]
  · rw [h, hadvance, hanswers]

/-! ## The tables -/

theorem release_entry (r : Run) : r.release.entry = r.entry := by
  unfold Run.release
  split <;> rfl

/-- A move may end the running chain, and ends no other. -/
theorem finished_apply (e : Engine) (m : Move) :
    (e.apply m).finished =
      match m with
      | .finish status _ => e.finished ++ (e.run.map fun r => ⟨r, status⟩).toList
      | _ => e.finished := by
  rw [apply_eq_land finished advance_finished (fun _ _ => rfl) e m]
  cases m with
  | call c => cases c <;> rfl
  | _ => rfl

/-- The chains that are over: a move may add the one that it ends. -/
theorem ended_apply (e : Engine) (m : Move) :
    (e.apply m).ended =
      match m with
      | .finish _ _ => e.ended ++ e.running
      | _ => e.ended := by
  unfold ended
  rw [finished_apply]
  split
  · cases hr : e.run <;> simp [running, hr]
  · rfl

/-- The chains that are not over: an enabled engine adds the one that is handed
in, an interruption takes the queue away, and the end of a chain leaves the
queue. -/
theorem ahead_apply (e : Engine) (m : Move) :
    (e.apply m).ahead =
      match m with
      | .call (.interrupt _) => e.running
      | .finish _ _ => e.queue
      | m => e.ahead ++ e.accepts m := by
  rw [apply_eq_land ahead advance_ahead (fun _ _ => rfl) e m]
  cases m with
  | call c =>
      cases c <;> cases hr : e.run <;>
        simp [land, apply, call, disable, cancel, onRun, ahead, running, accepts, hr]
  | finish status result => rfl
  | _ =>
      cases hr : e.run <;>
        simp [land, apply, onRun, ahead, running, accepts, hr, release_entry]

/-- The chains that interruptions took from the queue. -/
theorem dropped_apply (e : Engine) (m : Move) :
    (e.apply m).dropped =
      match m with
      | .call (.interrupt _) => e.dropped ++ e.queue
      | _ => e.dropped := by
  rw [apply_eq_land dropped advance_dropped (fun _ _ => rfl) e m]
  cases m with
  | call c => cases c <;> rfl
  | _ => rfl

/-- The number of the next chain counts the chains that were handed in. -/
theorem next_apply (e : Engine) (m : Move) :
    (e.apply m).next =
      match m with
      | .call (.enqueue _) => e.next + 1
      | _ => e.next := by
  rw [apply_eq_land next advance_next (fun _ _ => rfl) e m]
  cases m with
  | call c => cases c <;> rfl
  | _ => rfl

/-- Only its own calls enable and disable the engine. -/
theorem life_apply (e : Engine) (m : Move) :
    (e.apply m).life =
      match m with
      | .call .enable => e.life.enable
      | .call .disable => e.life.disable
      | _ => e.life := by
  rw [apply_eq_land life advance_life (fun _ _ => rfl) e m]
  cases m with
  | call c => cases c <;> rfl
  | _ => rfl

/-- No move changes the delay after a chain. -/
theorem stepDelay_apply (e : Engine) (m : Move) : (e.apply m).stepDelay = e.stepDelay := by
  rw [apply_eq_land stepDelay advance_stepDelay (fun _ _ => rfl) e m]
  cases m with
  | call c => cases c <;> rfl
  | _ => rfl

theorem initialized_apply (e : Engine) (m : Move) :
    (e.apply m).life.initialized = e.life.initialized := by
  rw [life_apply]
  split <;> rfl

end CommandShell.Engine
