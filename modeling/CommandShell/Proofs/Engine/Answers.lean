import CommandShell.Proofs.Engine.Stages

/-!
# Answers

Whoever hands in a chain gets one answer, and it never changes
(`answer?_play_append`). A chain is without an answer as long as it is not over
and no interruption has found it running (`Answered.unanswered`); what it has
produced is the answer only if it was completed and not interrupted while it ran.
-/

namespace CommandShell.Engine

/-- An interruption came while the chain ran. -/
def Interrupted (e : Engine) (id : Nat) (ms : List Move) : Prop :=
  Occurs (fun before m => (∃ reason, m = .call (.interrupt reason)) ∧
    (e.play before).running? = some id) ms

theorem mem_running_ids {e : Engine} {id : Nat} :
    id ∈ ids e.running ↔ e.running? = some id := by
  cases h : e.run <;> simp [ids, running, running?, h, eq_comm]

/-! ## The answers that a move gives -/

/-- The answer that a move gives to a chain that has none. -/
def gives (e : Engine) (m : Move) (id : Nat) : Option Pipe :=
  match m with
  | .call (.enqueue _) => if e.life.enabled = false ∧ id = e.next then some none else none
  | .call (.interrupt _) => if id ∈ ids e.ahead then some none else none
  | .finish status result =>
    if id ∈ ids e.running then some (if status = .completed then result else none) else none
  | _ => none

theorem answer?_resolve (e : Engine) (id : Nat) (v : Pipe) (j : Nat) :
    (e.resolve id v).answer? j = (e.answer? j).or (if j = id then some v else none) := by
  unfold resolve
  split
  · rename_i h
    split
    · rename_i hj
      subst hj
      obtain ⟨w, hw⟩ := Option.isSome_iff_exists.mp h
      rw [hw]
      rfl
    · rw [Option.or_none]
  · unfold answer?
    dsimp only
    rw [List.lookup_append, List.lookup_cons, List.lookup_nil]
    by_cases hj : j = id
    · have hb : (j == id) = true := beq_iff_eq.mpr hj
      rw [hb, if_pos hj]
    · have hb : (j == id) = false := beq_eq_false_iff_ne.mpr hj
      rw [hb, if_neg hj]

theorem answer?_resolveAll (e : Engine) (js : List Nat) (v : Pipe) (j : Nat) :
    (e.resolveAll js v).answer? j = (e.answer? j).or (if j ∈ js then some v else none) := by
  unfold resolveAll
  induction js generalizing e with
  | nil => simp
  | cons id js ih =>
      rw [List.foldl_cons, ih, answer?_resolve, Option.or_assoc]
      congr 1
      by_cases hj : j = id <;> simp [hj]

theorem answer?_advance (e : Engine) (j : Nat) : e.advance.answer? j = e.answer? j := by
  unfold answer?
  rw [advance_answers]

/-- An answer stays, and a chain without one gets what the move gives. -/
theorem answer?_apply (e : Engine) (m : Move) (j : Nat) :
    (e.apply m).answer? j = (e.answer? j).or (e.gives m j) := by
  cases m with
  | call c =>
      cases c with
      | enqueue chain =>
          show (e.enqueue chain).answer? j = _
          unfold enqueue gives
          dsimp only
          cases hl : e.life.enabled with
          | true =>
              simp only [if_true, answer?_advance, Bool.true_eq_false, false_and, if_false,
                Option.or_none]
              rfl
          | false =>
              simp only [Bool.false_eq_true, if_false, answer?_resolve, true_and]
              rfl
      | interrupt reason =>
          show (e.interrupt reason).answer? j = _
          unfold interrupt gives
          have hmem : (j ∈ e.queue.map (·.id) ++ (e.run.map (·.entry.id)).toList) ↔
              j ∈ ids e.ahead := by
            cases hr : e.run <;> simp [ids, ahead, running, hr, or_comm]
          have hresolve := answer?_resolveAll
            { e with queue := [], dropped := e.dropped ++ e.queue }
            (e.queue.map (·.id) ++ (e.run.map (·.entry.id)).toList) none j
          simp only [hmem] at hresolve
          exact hresolve
      | resume =>
          simp only [gives, Option.or_none]
          exact answer?_advance e j
      | enable =>
          show e.enable.answer? j = _
          unfold enable gives
          dsimp only
          rw [Option.or_none]
          split
          · exact answer?_advance _ j
          · rfl
      | disable => simp only [gives, Option.or_none]; rfl
      | cancel reason => simp only [gives, Option.or_none]; rfl
  | finish status result =>
      show (e.finish status result).answer? j = _
      unfold finish gives
      cases hr : e.run with
      | none => simp [ids, running, hr]
      | some r =>
          have hmem : j ∈ ids e.running ↔ j = r.entry.id := by simp [ids, running, hr]
          simp only [hmem]
          rw [← answer?_resolve]
          split
          · rfl
          · exact answer?_advance _ j
  | _ => simp only [gives, Option.or_none]; rfl

/-- **An answer never changes.** -/
theorem answer?_play_append {e : Engine} {ms : List Move} {id : Nat} {v : Pipe}
    (h : (e.play ms).answer? id = some v) (ms' : List Move) :
    (e.play (ms ++ ms')).answer? id = some v := by
  induction ms' using List.reverseRecOn with
  | nil => rwa [List.append_nil]
  | append_singleton ms' m ih =>
      rw [← List.append_assoc, play_concat, answer?_apply, ih]
      rfl

/-! ## Where the numbers are -/

theorem id_lt_of_mem_row {e : Engine} (h : e.IsFresh) {ms : List Move} {id : Nat}
    (hid : id ∈ ids (e.play ms).row) : id < (e.play ms).next := by
  exact (accepted_ids e ms).2 id (((row_sublist h ms).map _).subset hid)

theorem id_lt_of_mem_ahead {e : Engine} (h : e.IsFresh) {ms : List Move} {id : Nat}
    (hid : id ∈ ids (e.play ms).ahead) : id < (e.play ms).next := by
  refine id_lt_of_mem_row h ?_
  unfold row
  rw [ids_append]
  exact List.mem_append_right _ hid

theorem id_lt_of_mem_started {e : Engine} (h : e.IsFresh) {ms : List Move} {id : Nat}
    (hid : id ∈ ids (e.play ms).started) : id < (e.play ms).next := by
  refine id_lt_of_mem_row h ?_
  rw [row_eq_started, ids_append]
  exact List.mem_append_left _ hid

theorem mem_ids_ahead {e : Engine} {id : Nat} :
    id ∈ ids e.ahead ↔ id ∈ ids e.running ∨ id ∈ ids e.queue := by
  unfold ahead
  rw [ids_append, List.mem_append]

theorem mem_ids_started {e : Engine} {id : Nat} :
    id ∈ ids e.started ↔ id ∈ ids e.ended ∨ id ∈ ids e.running := by
  unfold started
  rw [ids_append, List.mem_append]

theorem not_mem_ahead_of_ended {e : Engine} (h : e.IsFresh) {ms : List Move} {id : Nat}
    (hid : id ∈ ids (e.play ms).ended) : id ∉ ids (e.play ms).ahead := by
  have hnodup := row_ids_nodup h ms
  unfold row at hnodup
  rw [ids_append] at hnodup
  intro ha
  exact (List.nodup_append.mp hnodup).2.2 _ hid _ ha rfl

theorem not_mem_queue_of_started {e : Engine} (h : e.IsFresh) {ms : List Move} {id : Nat}
    (hid : id ∈ ids (e.play ms).started) : id ∉ ids (e.play ms).queue := by
  have hnodup := row_ids_nodup h ms
  rw [row_eq_started, ids_append] at hnodup
  intro hq
  exact (List.nodup_append.mp hnodup).2.2 _ hid _ hq rfl

/-- A chain that was started is over or runs. -/
theorem started_play_append {e : Engine} (ms ms' : List Move) :
    (e.play ms).started <+: (e.play (ms ++ ms')).started := by
  induction ms' using List.reverseRecOn with
  | nil => exact (List.append_nil ms).symm ▸ List.prefix_refl _
  | append_singleton ms' m ih =>
      rw [← List.append_assoc, play_concat]
      rcases started_apply (e.play (ms ++ ms')) m with heq | ⟨x, heq, -, -⟩
      · rwa [heq]
      · rw [heq]
        exact ih.trans (List.prefix_append _ _)

/-- Only a chain that has been started was interrupted while it ran. -/
theorem started_of_interrupted {e : Engine} {id : Nat} {ms : List Move}
    (h : Interrupted e id ms) : id ∈ ids (e.play ms).started := by
  obtain ⟨before, m, after, rfl, -, hrun⟩ := h
  have hstarted : id ∈ ids (e.play before).started :=
    mem_ids_started.mpr (Or.inr (mem_running_ids.mpr hrun))
  exact ((started_play_append before (m :: after)).map _).subset hstarted

/-! ## Who has which answer -/

/-- What holds of the answers at a moment. -/
structure Answered (e : Engine) (ms : List Move) : Prop where
  /-- A chain is without an answer if it was not handed in yet, or is not over and
  was not interrupted while it ran. -/
  unanswered : ∀ id, (e.play ms).answer? id = none ↔
    (e.play ms).next ≤ id ∨ (id ∈ ids (e.play ms).ahead ∧ ¬ Interrupted e id ms)
  /-- A chain that was completed without an interruption is answered with what its
  last stage has handed on. -/
  completed : ∀ f ∈ (e.play ms).finished, f.status = .completed →
    ¬ Interrupted e f.run.entry.id ms →
      (e.play ms).answer? f.run.entry.id = some f.run.lastPipe
  /-- All other answers are nothing. -/
  otherwise : ∀ id v, (e.play ms).answer? id = some v →
    (∀ f ∈ (e.play ms).finished, f.run.entry.id = id → f.status = .completed →
      Interrupted e id ms) → v = none

theorem interrupted_concat {e : Engine} {id : Nat} {ms : List Move} {m : Move} :
    Interrupted e id (ms ++ [m]) ↔
      Interrupted e id ms ∨
        ((∃ reason, m = .call (.interrupt reason)) ∧ id ∈ ids (e.play ms).running) := by
  unfold Interrupted
  rw [occurs_concat, mem_running_ids]

theorem answered_nil {e : Engine} (h : e.IsFresh) : e.Answered [] where
  unanswered id := by
    have hanswer : e.answer? id = none := by simp [answer?, h.answers]
    have hnext : e.next ≤ id := by rw [h.next]; exact Nat.zero_le id
    exact ⟨fun _ => Or.inl hnext, fun _ => hanswer⟩
  completed f hf := by
    have hnil : (e.play []).finished = [] := h.finished
    simp [hnil] at hf
  otherwise id v hv := by
    have hanswer : (e.play []).answer? id = none := by simp [play, answer?, h.answers]
    rw [hanswer] at hv
    cases hv

theorem unanswered_concat {e : Engine} (h : e.IsFresh) {ms : List Move} (hms : e.Answered ms)
    (m : Move) (id : Nat) :
    (e.play (ms ++ [m])).answer? id = none ↔
      (e.play (ms ++ [m])).next ≤ id ∨
        (id ∈ ids (e.play (ms ++ [m])).ahead ∧ ¬ Interrupted e id (ms ++ [m])) := by
  have hlt : id ∈ ids (e.play ms).ahead → id < (e.play ms).next := id_lt_of_mem_ahead h
  have hint : Interrupted e id ms → id < (e.play ms).next :=
    fun hi => id_lt_of_mem_started h (started_of_interrupted hi)
  have hdisjoint : id ∈ ids (e.play ms).running → id ∉ ids (e.play ms).queue :=
    fun hr => not_mem_queue_of_started h (mem_ids_started.mpr (Or.inr hr))
  have hahead : id ∈ ids (e.play ms).ahead ↔
      id ∈ ids (e.play ms).running ∨ id ∈ ids (e.play ms).queue := mem_ids_ahead
  rw [play_concat, answer?_apply, Option.or_eq_none_iff, hms.unanswered id, next_apply,
    ahead_apply, interrupted_concat]
  cases m with
  | call c =>
      cases c with
      | enqueue chain =>
          cases hl : (e.play ms).life.enabled with
          | true =>
              simp only [gives, hl, Bool.true_eq_false, false_and, if_false, and_true, accepts,
                if_true, ids_append, List.mem_append, mem_ids_singleton, Move.call.injEq,
                reduceCtorEq, exists_const, or_false]
              grind
          | false =>
              simp only [gives, hl, true_and, ite_eq_right_iff, reduceCtorEq, imp_false, accepts,
                Bool.false_eq_true, if_false, List.append_nil, Move.call.injEq, exists_const,
                false_and, or_false]
              grind
      | interrupt reason =>
          simp only [gives, ite_eq_right_iff, reduceCtorEq, imp_false, Move.call.injEq,
            Call.interrupt.injEq, exists_eq', true_and, not_or]
          grind
      | _ => simp [gives, accepts]
  | finish status result =>
      simp only [gives, ite_eq_right_iff, reduceCtorEq, imp_false, exists_const, false_and,
        or_false]
      grind
  | _ => simp [gives, accepts]

/-- The chains that a move ends: the running one, and it was allowed to end like
that. -/
theorem finished_concat {e : Engine} {ms : List Move} {m : Move} (hm : (e.play ms).Allows m)
    {f : Finished} (hf : f ∈ (e.play (ms ++ [m])).finished) :
    f ∈ (e.play ms).finished ∨
    ∃ result, m = .finish f.status result ∧ (e.play ms).run = some f.run ∧
      (f.status = .completed → result = f.run.lastPipe) := by
  rw [play_concat, finished_apply] at hf
  split at hf
  · rename_i status result
    rcases List.mem_append.mp hf with hf | hf
    · exact Or.inl hf
    · obtain ⟨r, hr, hrun⟩ := hm
      obtain rfl : f = ⟨r, status⟩ := by simpa [hr] using hf
      exact Or.inr ⟨result, rfl, hr, fun hs => (hrun hs).2⟩
  · exact Or.inl hf

theorem completed_concat {e : Engine} {ms : List Move} (hms : e.Answered ms)
    {m : Move} (hm : (e.play ms).Allows m) {f : Finished}
    (hf : f ∈ (e.play (ms ++ [m])).finished) (hs : f.status = .completed)
    (hi : ¬ Interrupted e f.run.entry.id (ms ++ [m])) :
    (e.play (ms ++ [m])).answer? f.run.entry.id = some f.run.lastPipe := by
  have hbefore : ¬ Interrupted e f.run.entry.id ms := fun h => hi (interrupted_concat.mpr (Or.inl h))
  rcases finished_concat hm hf with hf | ⟨result, rfl, hr, hresult⟩
  · exact answer?_play_append (hms.completed f hf hs hbefore) [m]
  · have hid : f.run.entry.id ∈ ids (e.play ms).running := by simp [ids, running, hr]
    have hnone : (e.play ms).answer? f.run.entry.id = none :=
      (hms.unanswered _).mpr (Or.inr ⟨mem_ids_ahead.mpr (Or.inl hid), hbefore⟩)
    rw [play_concat, answer?_apply, hnone]
    simp [gives, hid, hs, hresult hs]

/-- The answer that a move gives is nothing, unless the move ends a chain as
completed. -/
theorem gives_cases {e : Engine} {m : Move} {id : Nat} {v : Pipe} (h : e.gives m id = some v) :
    v = none ∨ ∃ r, m = .finish .completed v ∧ e.run = some r ∧ r.entry.id = id := by
  unfold gives at h
  split at h
  · split at h
    · exact Or.inl (Option.some.inj h).symm
    · cases h
  · split at h
    · exact Or.inl (Option.some.inj h).symm
    · cases h
  · rename_i status result
    split at h
    · rename_i hid
      obtain ⟨r, hr, hrid⟩ := Option.map_eq_some_iff.mp (mem_running_ids.mp hid)
      cases status with
      | completed =>
          obtain rfl : result = v := Option.some.inj h
          exact Or.inr ⟨r, rfl, hr, hrid⟩
      | aborted => exact Or.inl (Option.some.inj h).symm
      | failed => exact Or.inl (Option.some.inj h).symm
    · cases h
  · cases h

theorem finished_subset_concat (e : Engine) (ms : List Move) (m : Move) :
    (e.play ms).finished ⊆ (e.play (ms ++ [m])).finished := by
  rw [play_concat, finished_apply]
  split
  · exact List.subset_append_left _ _
  · exact List.Subset.refl _

theorem otherwise_concat {e : Engine} (h : e.IsFresh) {ms : List Move} (hms : e.Answered ms)
    {m : Move} {id : Nat} {v : Pipe} (hv : (e.play (ms ++ [m])).answer? id = some v)
    (hf : ∀ f ∈ (e.play (ms ++ [m])).finished, f.run.entry.id = id → f.status = .completed →
      Interrupted e id (ms ++ [m])) : v = none := by
  rw [play_concat, answer?_apply] at hv
  cases hanswer : (e.play ms).answer? id with
  | some w =>
      rw [hanswer] at hv
      obtain rfl : w = v := Option.some.inj hv
      refine hms.otherwise id w hanswer ?_
      intro f hfin hid hs
      rcases interrupted_concat.mp (hf f (finished_subset_concat e ms m hfin) hid hs) with
        hi | ⟨-, hrun⟩
      · exact hi
      · -- a chain that is over does not run
        have hended : id ∈ ids (e.play ms).ended := by
          rw [← hid]
          exact id_mem_ids (List.mem_map_of_mem hfin)
        exact absurd (mem_ids_ahead.mpr (Or.inl hrun)) (not_mem_ahead_of_ended h hended)
  | none =>
      rw [hanswer, Option.none_or] at hv
      rcases gives_cases hv with hnone | ⟨r, rfl, hr, hrid⟩
      · exact hnone
      · -- the chain that is completed has no answer yet, so it was not interrupted
        have hrun : id ∈ ids (e.play ms).running := by simp [ids, running, hr, hrid]
        have hlast : (⟨r, .completed⟩ : Finished) ∈
            (e.play (ms ++ [.finish .completed v])).finished := by
          rw [play_concat, finished_apply, hr]
          simp
        rcases (hms.unanswered id).mp hanswer with hle | ⟨-, hni⟩
        · have hlt := id_lt_of_mem_ahead h (mem_ids_ahead.mpr (Or.inl hrun))
          exact absurd hlt (Nat.not_lt.mpr hle)
        · rcases interrupted_concat.mp (hf _ hlast hrid rfl) with hi | ⟨⟨reason, heq⟩, -⟩
          · exact absurd hi hni
          · cases heq

/-- **Every answer is as it should be**, at every moment. -/
theorem answered {e : Engine} (h : e.IsFresh) {ms : List Move} (ha : e.Allowed ms) :
    e.Answered ms := by
  induction ms using List.reverseRecOn with
  | nil => exact answered_nil h
  | append_singleton ms m ih =>
      obtain ⟨hms, hm⟩ := allowed_concat.mp ha
      exact ⟨unanswered_concat h (ih hms) m, fun f hf hs => completed_concat (ih hms) hm hf hs,
        fun id v hv hf => otherwise_concat h (ih hms) hv hf⟩

/-- A chain that is not cancelled was not interrupted while it ran. -/
theorem not_interrupted_of_mem_runs {e : Engine} (h : e.IsFresh) {ms : List Move}
    (ha : e.Allowed ms) {r : Run} (hr : r ∈ (e.play ms).runs)
    (hc : r.token.isCancelled = false) : ¬ Interrupted e r.entry.id ms := by
  rintro ⟨before, m, after, rfl, ⟨reason, rfl⟩, hrunning⟩
  obtain ⟨r₀, hr₀, hid⟩ := Option.map_eq_some_iff.mp hrunning
  rw [List.append_cons] at ha hr
  -- the interruption has cancelled the chain, and it has stayed so
  have hcut : (e.play (before ++ [.call (.interrupt reason)])).run =
      some (r₀.apply (.call (.interrupt reason))) := by
    rw [play_concat]
    exact run_apply hr₀ (by rintro _ _ ⟨⟩)
  obtain ⟨r', hr', hentry, -, hcancelled⟩ := invoked_of_cancelled (mem_runs.mpr (Or.inr hcut))
    (Token.isCancelled_cancel r₀.token reason) (allowed_append.mp ha).2
  rw [← play_append] at hr'
  have hsame : r'.entry.id = r.entry.id := by
    rw [hentry]
    exact hid
  obtain rfl := eq_of_mem_runs h hr hr' hsame
  rw [hc] at hcancelled
  cases hcancelled

/-- What a chain that is over is answered with, unless it was interrupted while it
ran. -/
theorem answer?_of_finished {e : Engine} (h : e.IsFresh) {ms : List Move} (ha : e.Allowed ms)
    {f : Finished} (hf : f ∈ (e.play ms).finished) (hi : ¬ Interrupted e f.run.entry.id ms) :
    (e.play ms).answer? f.run.entry.id =
      some (if f.status = .completed then f.run.lastPipe else none) := by
  have hanswered := answered h ha
  by_cases hs : f.status = .completed
  · rw [if_pos hs]
    exact hanswered.completed f hf hs hi
  · have hended : f.run.entry.id ∈ ids (e.play ms).ended := id_mem_ids (List.mem_map_of_mem hf)
    have hlt := id_lt_of_mem_started h (mem_ids_started.mpr (Or.inl hended))
    have hsome : (e.play ms).answer? f.run.entry.id ≠ none := by
      rw [ne_eq, hanswered.unanswered]
      rintro (hle | ⟨hahead, -⟩)
      · omega
      · exact not_mem_ahead_of_ended h hended hahead
    obtain ⟨v, hv⟩ := Option.ne_none_iff_exists'.mp hsome
    rw [hv, if_neg hs, hanswered.otherwise _ v hv]
    intro f' hf' hid hs'
    obtain rfl := eq_of_finished h hf hf' hid
    exact absurd hs' hs

/-! ## What a caller sees -/

/-- What holds at a moment of the answers to the chains that were handed in. -/
structure Resolved (e : Engine) (ms : List Move) : Prop where
  /-- There is no answer as long as the chain is in the queue, or it runs and no
  interruption has come since it was started. -/
  pending : ∀ id < (e.play ms).next, (e.play ms).answer? id = none ↔
    id ∈ ids (e.play ms).queue ∨ ((e.play ms).running? = some id ∧ ¬ Interrupted e id ms)
  /-- An answer never changes. -/
  final : ∀ id v, (e.play ms).answer? id = some v →
    ∀ ms', (e.play (ms ++ ms')).answer? id = some v
  /-- A chain that was completed without an interruption is answered with what the
  last of its stages has handed on. -/
  completed : ∀ f ∈ (e.play ms).finished, f.status = .completed →
    f.run.produced.length = f.run.entry.chain.fragments.length ∧
      (¬ Interrupted e f.run.entry.id ms →
        (e.play ms).answer? f.run.entry.id = some f.run.lastPipe)
  /-- Every other answer is nothing. -/
  otherwise : ∀ id v, (e.play ms).answer? id = some v →
    (∀ f ∈ (e.play ms).finished, f.run.entry.id = id → f.status = .completed →
      Interrupted e id ms) → v = none

theorem resolved {e : Engine} (h : e.IsFresh) {ms : List Move} (ha : e.Allowed ms) :
    e.Resolved ms where
  pending id hid := by
    rw [(answered h ha).unanswered id, mem_ids_ahead, mem_running_ids]
    constructor
    · rintro (hle | ⟨hr | hq, hi⟩)
      · exact absurd hid (Nat.not_lt.mpr hle)
      · exact Or.inr ⟨hr, hi⟩
      · exact Or.inl hq
    · rintro (hq | ⟨hr, hi⟩)
      · exact Or.inr ⟨Or.inr hq, fun hi => not_mem_queue_of_started h (started_of_interrupted hi) hq⟩
      · exact Or.inr ⟨Or.inl hr, hi⟩
  final id v hv := answer?_play_append hv
  completed f hf hs := ⟨produced_of_completed h ha f hf hs, (answered h ha).completed f hf hs⟩
  otherwise := (answered h ha).otherwise

end CommandShell.Engine
