import CommandShell.Proofs.Session.Schedule

/-!
# Lines, interruptions and work

What happens to a shell, one thing at a time: somebody hands in a line
(`HandsIn`) or interrupts (`Interrupts`), and in between there is work (`Works`).
Work may be taken up in any order and at any time. The order of `settle` and
`pass` is one of many (`worksOn_settle`, `worksOn_pass`), so what is shown for
all orders holds for a shell that runs.
-/

namespace CommandShell.Session

/-! ## What happens -/

/-- No caller that waits has this label. -/
def IsUnused (s : Session) (label : Nat) : Prop := ∀ c ∈ s.callers, c.label ≠ label

/-- Somebody hands in a line, and waits for its end or does not. -/
inductive HandsIn (s : Session) (text : String) : Session → Prop
  | submit : HandsIn s text (s.submit text)
  | execute {label : Nat} (hnew : s.IsUnused label) : HandsIn s text (s.execute label text)

/-- Somebody interrupts, and waits for the end of the running chain. -/
inductive Interrupts (s : Session) : Session → Prop
  | interrupt {label : Nat} (hnew : s.IsUnused label) (reason : Option String) :
      Interrupts s (s.interruptAndRecover label reason)

/-- A piece of work is taken up: one that is ready, or one whose timer goes off. -/
inductive Takes (s : Session) : Job → Session → Prop
  | ready {job : Job} (h : job ∈ s.ready) : Takes s job { s with ready := s.ready.erase job }
  | timer {t : Timer} (h : t ∈ s.timers) (now : Rat) :
      Takes s t.job { s with timers := s.timers.erase t, now }

/-- Time passes, the present invocation is released, or a piece of work is done. -/
inductive Works (s : Session) : Session → Prop
  | clock (now : Rat) : Works s { s with now }
  | release : Works s s.release
  | job {job : Job} {t : Session} (h : Takes s job t) : Works s (t.doJob job)

/-- Work alone, any amount of it. -/
abbrev WorksOn : Session → Session → Prop := Relation.ReflTransGen Works

/-- Work that is no chain's is taken up around the running chain. -/
theorem around_takes {s t : Session} {job : Job} (h : Takes s job t) (hjob : job ≠ .chain) :
    Around s t := by
  cases h with
  | ready hready =>
      refine ⟨rfl, rfl, ?_, rfl⟩
      unfold turns
      exact List.count_erase_of_ne (Ne.symm hjob)
  | timer htimer now =>
      refine ⟨rfl, rfl, rfl, ?_⟩
      unfold sleeps
      rw [(List.perm_cons_erase htimer).countP_eq, List.countP_cons_of_neg (by simp [hjob])]

theorem wakes_of_takes {s t : Session} (h : Takes s .chain t) : Wakes s t := by
  generalize hjob : Job.chain = job at h
  cases h with
  | ready hready =>
      subst hjob
      exact .turn hready
  | timer htimer now => exact .timer _ htimer hjob.symm now

theorem reaches_works {s s' : Session} (h : Works s s') : Reaches s s' := by
  cases h with
  | clock now => exact reaches_of_calls (Calls.around ⟨rfl, rfl, rfl, rfl⟩)
  | release => exact reaches_of_calls (calls_release s)
  | job htakes =>
      refine reaches_doJob ?_ (around_takes htakes)
      rintro rfl
      exact wakes_of_takes htakes

theorem reaches_handsIn {s s' : Session} {text : String} (h : HandsIn s text s') :
    Reaches s s' := by
  cases h with
  | submit => exact reaches_of_calls (calls_enqueueLine s text)
  | execute hnew => exact reaches_of_calls (calls_execute s _ text)

theorem reaches_interrupts {s s' : Session} (h : Interrupts s s') : Reaches s s' := by
  obtain ⟨-, reason⟩ := h
  exact reaches_of_calls (calls_interruptAndRecover s _ reason)

/-! ## Lines -/

/-- The chains that a line stands for: its own, unless it is empty, and those that
follow. -/
def chainsOf (text : String) : List Chain :=
  (Chain.read? text).toList ++ followers.map Chain.single

/-- The last of them opens a prompt. -/
theorem chainsOf_eq (text : String) :
    chainsOf text = ((Chain.read? text).toList ++ [Chain.single "obuffer"]) ++
      [Chain.single "commandline"] := by
  unfold chainsOf followers
  rw [List.append_assoc]
  rfl

/-- A line closes the prompt and hands in its chains. -/
theorem enqueueLine_eq (s : Session) (text : String) :
    (s.enqueueLine text).2 =
      (chainsOf text).foldl (fun s c => s.make (.enqueue c)) s.closePrompt := by
  unfold enqueueLine chainsOf
  cases Chain.read? text <;> rfl

/-! ## Work in its order -/

theorem worksOn_settleWithin (n : Nat) (s : Session) : WorksOn s (s.settleWithin n) := by
  induction n generalizing s with
  | zero => exact Relation.ReflTransGen.refl
  | succ n ih =>
      unfold settleWithin
      split
      · exact Relation.ReflTransGen.refl
      · rename_i job ready hready
        have hwork : Works s (doJob { s with ready := s.ready.erase job } job) :=
          .job (.ready (by rw [hready]; exact List.mem_cons_self))
        rw [hready, List.erase_cons_head] at hwork
        exact Relation.ReflTransGen.head hwork (ih _)

theorem worksOn_settle (s : Session) : WorksOn s s.settle := worksOn_settleWithin patience s

theorem worksOn_passUntil (moment : Rat) (n : Nat) (s : Session) :
    WorksOn s (s.passUntil moment n) := by
  induction n generalizing s with
  | zero => exact Relation.ReflTransGen.refl
  | succ n ih =>
      unfold passUntil
      split
      · exact Relation.ReflTransGen.single (.clock moment)
      · rename_i t ht
        have hmem : t ∈ s.timers := (List.mem_filter.mp (mem_of_firstTimer? ht)).1
        refine Relation.ReflTransGen.head (.job (.timer hmem t.due)) ?_
        exact (worksOn_settle _).trans (ih _)

theorem worksOn_pass (s : Session) (millis : Rat) : WorksOn s (s.pass millis) :=
  worksOn_passUntil _ _ s

end CommandShell.Session
