import CommandShell.Proofs.Session.Telling
import CommandShell.Proofs.Session.Upkeep

/-!
# Prompts and lines

Between two prompts a line was handed in, and since the last line there was one prompt
if a prompt is open, and none otherwise (`Alternates`). Nothing that a session tells
changes this (`alternates_of_tells`): a prompt is opened only where none is open, and
only a line closes it.
-/

namespace CommandShell

open Presenter (promptCount)

namespace Session

variable {C : Prop} {P : Remark → Prop} {s t : Session}

/-- The calls to the presenter since the last line was handed in, or since the start. -/
def sinceLine (s : Session) : List Presenter.Call := s.calls.drop (s.handed.getLast?.getD 0)

/-- A line was handed in between any two prompts. -/
def PromptsApart (s : Session) : Prop :=
  ∀ i j, i < j → s.calls[i]? = some .prompt → s.calls[j]? = some .prompt →
    ∃ n ∈ s.handed, i < n ∧ n ≤ j

structure Alternates (s : Session) : Prop where
  bound : ∀ n ∈ s.handed, n ≤ s.calls.length
  apart : s.PromptsApart
  since : promptCount s.sinceLine = if s.hasPrompt then 1 else 0

theorem hasPrompt_congr (h : t.surface = s.surface) : t.hasPrompt = s.hasPrompt := by
  unfold hasPrompt
  rw [h]

theorem alternates_of_eq (h : s.Alternates) (hc : t.calls = s.calls) (hh : t.handed = s.handed)
    (hp : t.hasPrompt = s.hasPrompt) : t.Alternates := by
  obtain ⟨hbound, hapart, hsince⟩ := h
  refine ⟨?_, ?_, ?_⟩
  · rwa [hc, hh]
  · unfold PromptsApart
    rwa [hc, hh]
  · unfold sinceLine
    rwa [hc, hh, hp]

/-- The last line was handed in before the calls that came since. -/
theorem lastLine_le (h : s.Alternates) : s.handed.getLast?.getD 0 ≤ s.calls.length := by
  cases hlast : s.handed.getLast? with
  | none => exact Nat.zero_le _
  | some n => exact h.bound n (List.mem_of_getLast? hlast)

/-- While no prompt is open, a line was handed in after every prompt. -/
theorem exists_line_of_prompt (h : s.Alternates) (hp : s.hasPrompt = false) {i : Nat}
    (hi : s.calls[i]? = some .prompt) : ∃ n ∈ s.handed, i < n := by
  have hnone := h.since
  rw [hp, if_neg Bool.false_ne_true] at hnone
  have hlt : i < s.handed.getLast?.getD 0 := by
    -- otherwise the prompt would be among the calls since the last line
    by_contra hge
    have hmem : Presenter.Call.prompt ∈ s.sinceLine := by
      refine List.mem_of_getElem? (i := i - s.handed.getLast?.getD 0) ?_
      unfold sinceLine
      rw [List.getElem?_drop, Nat.add_sub_cancel' (Nat.le_of_not_lt hge), hi]
    exact List.countP_eq_zero.mp hnone _ hmem rfl
  cases hlast : s.handed.getLast? with
  | none =>
      rw [hlast] at hlt
      exact absurd hlt (Nat.not_lt_zero i)
  | some n =>
      rw [hlast] at hlt
      exact ⟨n, List.mem_of_getLast? hlast, hlt⟩

/-- The presenter is called once more. If it opens a prompt, none was open before. -/
theorem alternates_of_call (h : s.Alternates) (call : Presenter.Call)
    (hc : t.calls = s.calls ++ [call]) (hh : t.handed = s.handed)
    (hp : t.hasPrompt = (s.hasPrompt || call == .prompt))
    (hnew : call = .prompt → s.hasPrompt = false) : t.Alternates := by
  refine ⟨?_, ?_, ?_⟩
  · intro n hn
    rw [hh] at hn
    rw [hc, List.length_append]
    exact Nat.le_add_right_of_le (h.bound n hn)
  · intro i j hij hi hj
    rw [hc] at hi hj
    rw [hh]
    have hjlen : j < s.calls.length + 1 := by
      simpa using (List.getElem?_eq_some_iff.mp hj).1
    rw [List.getElem?_append_left (by omega)] at hi
    by_cases hlast : j < s.calls.length
    · rw [List.getElem?_append_left hlast] at hj
      exact h.apart i j hij hi hj
    · -- the second prompt is the one that is opened now
      obtain rfl : j = s.calls.length := by omega
      have hcall : call = .prompt := by simpa using hj
      obtain ⟨n, hn, hin⟩ := exists_line_of_prompt h (hnew hcall) hi
      exact ⟨n, hn, hin, h.bound n hn⟩
  · have hsince : t.sinceLine = s.sinceLine ++ [call] := by
      unfold sinceLine
      rw [hc, hh, List.drop_append_of_le_length (lastLine_le h)]
    have hcount := h.since
    unfold promptCount at hcount ⊢
    rw [hsince, hp, List.countP_append, hcount]
    by_cases hcall : call = .prompt
    · subst hcall
      rw [hnew rfl]
      rfl
    · have hno : (call == .prompt) = false := by simpa using hcall
      simp [hno]

theorem alternates_closePrompt (h : s.Alternates) : s.closePrompt.Alternates := by
  refine ⟨?_, ?_, ?_⟩
  · intro n hn
    rcases List.mem_append.mp hn with hn | hn
    · exact h.bound n hn
    · obtain rfl := List.mem_singleton.mp hn
      exact Nat.le_refl _
  · intro i j hij hi hj
    obtain ⟨n, hn, hin, hnj⟩ := h.apart i j hij hi hj
    exact ⟨n, List.mem_append_left _ hn, hin, hnj⟩
  · have hsince : s.closePrompt.sinceLine = [] := by
      show s.calls.drop ((s.handed ++ [s.calls.length]).getLast?.getD 0) = []
      simp
    have hclosed : s.closePrompt.hasPrompt = false := by
      unfold hasPrompt closePrompt
      cases s.surface <;> rfl
    rw [hsince, hclosed]
    rfl

/-- **Prompts and lines alternate**, whatever the session tells. -/
theorem alternates_of_tells (h : s.Alternates) (ht : Tells C P s t) : t.Alternates := by
  induction ht with
  | untold hu => exact alternates_of_eq h hu.calls hu.handed (hasPrompt_congr hu.surface)
  | render s line =>
      refine alternates_of_call h (.render line.displayed) rfl rfl ?_ (by rintro ⟨⟩)
      unfold hasPrompt render
      cases s.surface with
      | none => rfl
      | some f => exact (Bool.or_false _).symm
  | clear s _ =>
      unfold clearSurface
      split
      · rename_i f hf
        have hopen : s.hasPrompt = f.promptOpen := by simp [hasPrompt, hf]
        dsimp only
        split
        · refine alternates_of_call h .clear rfl rfl ?_ (by rintro ⟨⟩)
          rw [hopen]
          exact (Bool.or_false _).symm
        · exact alternates_of_eq h rfl rfl hopen.symm
      · exact h
  | prompt s =>
      unfold requestPrompt
      split
      · rename_i f hf
        have hopen : s.hasPrompt = f.promptOpen := by simp [hasPrompt, hf]
        split
        · exact h
        · rename_i hclosed
          refine alternates_of_call h .prompt rfl rfl (Bool.or_true _).symm fun _ => ?_
          rw [hopen]
          exact Bool.eq_false_iff.mpr hclosed
      · exact h
  | close s => exact alternates_closePrompt h
  | drain s => exact alternates_of_eq h rfl rfl rfl
  | warn s _ _ => exact alternates_of_eq h rfl rfl rfl
  | output s _ => exact alternates_of_eq h rfl rfl rfl
  | event s _ => exact alternates_of_eq h rfl rfl rfl
  | fault s _ => exact alternates_of_eq h rfl rfl rfl
  | trans _ _ ih ih' => exact ih' (ih h)

end Session

end CommandShell
