import CommandShell.Proofs.Engine.Moves
import Mathlib.Data.List.Perm.Basic

/-!
# The row of chains is conserved

Every chain that an enabled engine has taken stands in the row or was dropped,
and nothing else does (`row_perm`). The row keeps the order in which the chains
came (`row_eq_filter`), so chains are started in that order, and those that were
dropped are skipped. All of it rests on one line for all moves, `row_apply`: a
move puts chains at the end of the row or cuts the queue off.
-/

namespace CommandShell.Engine

/-- The chains that are over, the running one, and the queue. -/
def row (e : Engine) : List Entry := e.ended ++ e.ahead

theorem row_eq_started (e : Engine) : e.row = e.started ++ e.queue := by
  unfold row started ahead
  rw [List.append_assoc]

/-- A move puts chains at the end of the row or cuts the queue off. -/
theorem row_apply (e : Engine) (m : Move) :
    (e.apply m).row =
      match m with
      | .call (.interrupt _) => e.started
      | m => e.row ++ e.accepts m := by
  unfold row started
  rw [ended_apply, ahead_apply]
  cases m with
  | call c => cases c <;> simp
  | finish status result => simp [ahead, accepts]
  | _ => simp

/-! ## Numbers -/

/-- The chains that were taken have ascending numbers, below that of the next
one. -/
theorem accepted_ids (e : Engine) (ms : List Move) :
    (ids (e.accepted ms)).Pairwise (· < ·) ∧
    ∀ id ∈ ids (e.accepted ms), id < (e.play ms).next := by
  induction ms using List.reverseRecOn with
  | nil => simp [accepted, ids]
  | append_singleton ms m ih =>
      obtain ⟨hsorted, hlt⟩ := ih
      rw [accepted_concat, play_concat, next_apply, ids_append]
      unfold accepts
      split
      · rename_i chain
        split
        · constructor
          · rw [List.pairwise_append]
            refine ⟨hsorted, List.pairwise_singleton _ _, ?_⟩
            intro id hid id' hid'
            obtain rfl := mem_ids_singleton.mp hid'
            exact hlt id hid
          · intro id hid
            rcases List.mem_append.mp hid with hid | hid
            · exact Nat.lt_succ_of_lt (hlt id hid)
            · obtain rfl := mem_ids_singleton.mp hid
              exact Nat.lt_succ_self _
        · have hnil : ids (e.accepted ms) ++ ids [] = ids (e.accepted ms) := List.append_nil _
          rw [hnil]
          exact ⟨hsorted, fun id hid => Nat.lt_succ_of_lt (hlt id hid)⟩
      · have hnil : ids (e.accepted ms) ++ ids [] = ids (e.accepted ms) := List.append_nil _
        rw [hnil]
        exact ⟨hsorted, hlt⟩

theorem accepted_nodup (e : Engine) (ms : List Move) :
    (ids (e.accepted ms)).Nodup :=
  (accepted_ids e ms).1.imp fun hlt => Nat.ne_of_lt hlt

/-! ## Conservation -/

theorem row_of_isFresh {e : Engine} (h : e.IsFresh) : e.row = [] := by
  simp [row, ended, ahead, running, h.finished, h.run, h.queue]

/-- **Conservation.** The row and the dropped chains together are the chains that
were taken. -/
theorem row_perm {e : Engine} (h : e.IsFresh) (ms : List Move) :
    ((e.play ms).row ++ (e.play ms).dropped).Perm (e.accepted ms) := by
  induction ms using List.reverseRecOn with
  | nil =>
      have hrow : (e.play []).row = [] := row_of_isFresh h
      have hdropped : (e.play []).dropped = [] := h.dropped
      simp [hrow, hdropped, accepted]
  | append_singleton ms m ih =>
      -- a chain that is taken is put between the row and the dropped ones
      have htaken (new : List Entry) : ((e.play ms).row ++ new ++ (e.play ms).dropped).Perm
          (e.accepted ms ++ new) := by
        rw [List.append_assoc]
        refine List.Perm.trans (List.Perm.append_left _ List.perm_append_comm) ?_
        rw [← List.append_assoc]
        exact List.Perm.append_right _ ih
      rw [accepted_concat, play_concat, row_apply, dropped_apply]
      cases m with
      | call c =>
          cases c with
          | interrupt reason =>
              rw [row_eq_started] at ih
              simp only [accepts, List.append_nil]
              refine List.Perm.trans ?_ ih
              rw [List.append_assoc]
              exact List.Perm.append_left _ List.perm_append_comm
          | _ => exact htaken _
      | _ => exact htaken _

/-- The row keeps the order in which the chains came. -/
theorem row_sublist {e : Engine} (h : e.IsFresh) (ms : List Move) :
    (e.play ms).row.Sublist (e.accepted ms) := by
  induction ms using List.reverseRecOn with
  | nil => exact (row_of_isFresh h : (e.play []).row = []) ▸ List.nil_sublist _
  | append_singleton ms m ih =>
      rw [accepted_concat, play_concat, row_apply]
      split
      · rw [row_eq_started] at ih
        exact ((List.sublist_append_left _ _).trans ih).trans (List.sublist_append_left _ _)
      · exact List.Sublist.append ih (List.Sublist.refl _)

/-- The numbers of all places are different. -/
theorem places_nodup {e : Engine} (h : e.IsFresh) (ms : List Move) :
    (ids ((e.play ms).row ++ (e.play ms).dropped)).Nodup :=
  ((row_perm h ms).map _).nodup_iff.mpr (accepted_nodup e ms)

theorem row_ids_nodup {e : Engine} (h : e.IsFresh) (ms : List Move) :
    (ids (e.play ms).row).Nodup := by
  have hall := places_nodup h ms
  rw [ids_append] at hall
  exact (List.nodup_append.mp hall).1

/-- No chain of the row was dropped. -/
theorem not_mem_dropped_of_row {e : Engine} (h : e.IsFresh) {ms : List Move} {id : Nat}
    (hid : id ∈ ids (e.play ms).row) : id ∉ ids (e.play ms).dropped := by
  have hall := places_nodup h ms
  rw [ids_append] at hall
  intro hd
  exact (List.nodup_append.mp hall).2.2 _ hid _ hd rfl

/-- **First come, first served.** The row consists of the chains that were taken,
in the order in which they came and without those that were dropped. -/
theorem row_eq_filter {e : Engine} (h : e.IsFresh) (ms : List Move) :
    (e.play ms).row =
      (e.accepted ms).filter fun x => x.id ∉ ids (e.play ms).dropped := by
  set keeps : Entry → Bool := fun x => x.id ∉ ids (e.play ms).dropped with hkeeps
  have hrow : (e.play ms).row.filter keeps = (e.play ms).row := by
    apply List.filter_eq_self.mpr
    intro x hx
    exact decide_eq_true (not_mem_dropped_of_row h (id_mem_ids hx))
  have hdropped : (e.play ms).dropped.filter keeps = [] := by
    apply List.filter_eq_nil_iff.mpr
    intro y hy
    simp only [hkeeps, decide_eq_true_eq, not_not]
    exact id_mem_ids hy
  have hperm := (row_perm h ms).filter keeps
  rw [List.filter_append, hrow, hdropped, List.append_nil] at hperm
  have hsub := (row_sublist h ms).filter keeps
  rw [hrow] at hsub
  exact hsub.eq_of_length hperm.length_eq

/-- A chain was dropped exactly if an interruption came while it was in the
queue. -/
theorem mem_dropped_iff {e : Engine} (h : e.IsFresh) (ms : List Move) (x : Entry) :
    x ∈ (e.play ms).dropped ↔
      Occurs (fun before m => (∃ reason, m = .call (.interrupt reason)) ∧
        x ∈ (e.play before).queue) ms := by
  induction ms using List.reverseRecOn with
  | nil =>
      have hdropped : (e.play []).dropped = [] := h.dropped
      simp [hdropped, not_occurs_nil]
  | append_singleton ms m ih =>
      rw [occurs_concat, ← ih, play_concat, dropped_apply]
      split
      · simp
      · rename_i hm
        constructor
        · exact Or.inl
        · rintro (hx | ⟨⟨reason, rfl⟩, -⟩)
          · exact hx
          · exact absurd rfl (hm reason)

/-! ## Starts -/

theorem land_started (e : Engine) (m : Move) : (e.land m).started = e.started := by
  cases m with
  | call c =>
      cases c <;> cases hr : e.run <;>
        simp [land, apply, call, disable, cancel, onRun, started, ended, running, hr]
  | finish status result =>
      cases hr : e.run <;> simp [land, started, ended, running, hr]
  | _ =>
      cases hr : e.run <;>
        simp [land, apply, onRun, started, ended, running, hr, release_entry]

/-- A move starts no chain, or it starts one that runs then, and the engine is
enabled. -/
theorem started_apply (e : Engine) (m : Move) :
    (e.apply m).started = e.started ∨
    ∃ x, (e.apply m).started = e.started ++ [x] ∧ (e.apply m).running = [x] ∧
      (e.apply m).life.enabled = true := by
  obtain ⟨as, h | h⟩ := apply_cases e m
  · left
    rw [h]
    exact land_started e m
  · rcases advance_cases { e.land m with answers := as } with ⟨-, ha⟩ | ⟨x, queue, hl, hr, -, ha⟩
    · left
      rw [h, ha]
      exact land_started e m
    · right
      have hrun : (e.land m).run = none := hr
      refine ⟨x, ?_, by rw [h, ha]; rfl, by rw [h, ha]; exact hl⟩
      rw [h, ha, ← land_started e m]
      simp [started, ended, running, hrun]

/-! ## All of it at a moment -/

/-- The runs of all chains that have been started. -/
def runs (e : Engine) : List Run := (e.finished.map fun f => f.run) ++ e.run.toList

theorem runs_map_entry (e : Engine) : (e.runs.map fun r => r.entry) = e.started := by
  cases h : e.run <;> simp [runs, started, ended, running, h]

/-- The invocations of handlers for a chain. -/
def invocations (e : Engine) (id : Nat) : List Invocation :=
  (e.runs.filter fun r => r.entry.id = id).flatMap fun r => r.invoked

/-- What holds at a moment of the chains that an engine has taken. -/
structure Conserved (e : Engine) (ms : List Move) : Prop where
  /-- Every chain that was taken is in the queue, is running, is over or was
  dropped, once in all. -/
  places : ((e.play ms).queue ++ (e.play ms).running ++ (e.play ms).ended ++
    (e.play ms).dropped).Perm (e.accepted ms)
  distinct : (ids (e.accepted ms)).Nodup
  /-- The chains are started in the order in which they came, without those that
  were dropped, and the queue is next. -/
  order : (e.play ms).started ++ (e.play ms).queue =
    (e.accepted ms).filter fun x => x.id ∉ ids (e.play ms).dropped
  /-- The dropped chains are those that an interruption found in the queue. -/
  dropped : ∀ x, x ∈ (e.play ms).dropped ↔
    Occurs (fun before m => (∃ reason, m = .call (.interrupt reason)) ∧
      x ∈ (e.play before).queue) ms
  /-- No handler is called for a dropped chain. -/
  idle : ∀ x ∈ (e.play ms).dropped, (e.play ms).invocations x.id = []
  /-- A move that starts a chain starts one, and leaves the engine enabled. -/
  starts : ∀ before m after, ms = before ++ m :: after →
    (e.play (before ++ [m])).started = (e.play before).started ∨
    ∃ x, (e.play (before ++ [m])).started = (e.play before).started ++ [x] ∧
      (e.play (before ++ [m])).running = [x] ∧
      (e.play (before ++ [m])).life.enabled = true

theorem invocations_of_mem_dropped {e : Engine} (h : e.IsFresh) {ms : List Move} {x : Entry}
    (hx : x ∈ (e.play ms).dropped) : (e.play ms).invocations x.id = [] := by
  unfold invocations
  rw [List.flatMap_eq_nil_iff]
  intro r hr
  obtain ⟨hr, hid⟩ := List.mem_filter.mp hr
  have hmem : r.entry ∈ (e.play ms).row := by
    rw [row_eq_started, ← runs_map_entry]
    exact List.mem_append_left _ (List.mem_map_of_mem hr)
  have hnot := not_mem_dropped_of_row h (id_mem_ids hmem)
  rw [of_decide_eq_true hid] at hnot
  exact absurd (id_mem_ids hx) hnot

theorem conserved {e : Engine} (h : e.IsFresh) (ms : List Move) : e.Conserved ms where
  places := by
    refine List.Perm.trans (List.Perm.append_right _ ?_) (row_perm h ms)
    unfold row ahead
    refine List.perm_append_comm.trans (List.Perm.append_left _ ?_)
    exact List.perm_append_comm
  distinct := accepted_nodup e ms
  order := by
    rw [← row_eq_started]
    exact row_eq_filter h ms
  dropped := mem_dropped_iff h ms
  idle x hx := invocations_of_mem_dropped h hx
  starts before m after _ := by
    rw [play_concat]
    exact started_apply (e.play before) m

end CommandShell.Engine
