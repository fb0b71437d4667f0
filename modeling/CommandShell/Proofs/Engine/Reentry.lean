import CommandShell.Engine.Token

/-!
# Hooks act on the token that calls them

While hooks are called, they add further hooks and cancel again, on the very token that calls
them. `Token.Runs` has it so: each program goes on with the token as it is by then, adding a hook
may call it or keep it, and cancelling may call hooks or do nothing. Since a token is cancelled before its
hooks are called, only one of each ever happens. So `Token.addHook` and `Token.cancel`, which
call hooks one by one and keep the token, are what comes of it (`adds_iff`, `cancels_iff`).
-/

namespace CommandShell

variable {ε : Type}

namespace Token

mutual

/-- A token calls a hook, whose program goes on with what the token is by then. -/
inductive Runs : Token ε → Hook ε → Token ε → Calls ε → Prop
  | stop (t : Token ε) : Runs t .stop t {}
  | fail (t : Token ε) (fault : Fault) : Runs t (.fail fault) t { fault := some fault }
  | effect {t t' : Token ε} {c : Calls ε} {rest : Hook ε} (e : ε) (h : Runs t rest t' c) :
      Runs t (.effect e rest) t' { c with deeds := .effect e :: c.deeds }
  | raised {t t' : Token ε} {c : Calls ε} {hook rest : Hook ε} (h : Adds t hook t' c)
      (hf : c.fault ≠ none) : Runs t (.add hook rest) t' c
  | add {t t' t'' : Token ε} {c c' : Calls ε} {hook rest : Hook ε} (h : Adds t hook t' c)
      (hf : c.fault = none) (h' : Runs t' rest t'' c') :
      Runs t (.add hook rest) t'' { c' with deeds := c.deeds ++ c'.deeds }
  | thrown {t t' : Token ε} {c : Calls ε} {reason : Option String} {rest : Hook ε}
      (h : Cancels t reason t' c) (hf : c.fault ≠ none) : Runs t (.cancel reason rest) t' c
  | cancel {t t' t'' : Token ε} {c c' : Calls ε} {reason : Option String} {rest : Hook ε}
      (h : Cancels t reason t' c) (hf : c.fault = none) (h' : Runs t' rest t'' c') :
      Runs t (.cancel reason rest) t'' { c' with deeds := c.deeds ++ c'.deeds }

/-- A token calls hooks one after the other. What they raise is reported, or the first of it is
raised again behind the last one. -/
inductive RunsAll : Token ε → List (Hook ε) → Token ε → Calls ε → Prop
  | nil (t : Token ε) : RunsAll t [] t {}
  | cons {t t' t'' : Token ε} {c c' : Calls ε} {hook : Hook ε} {hooks : List (Hook ε)}
      (h : Runs t hook t' c) (h' : RunsAll t' hooks t'' c') :
      RunsAll t (hook :: hooks) t''
        ⟨(c.reported t.reports).deeds ++ c'.deeds, (c.reported t.reports).fault.or c'.fault⟩

/-- A hook is added to a token, whoever adds it. -/
inductive Adds : Token ε → Hook ε → Token ε → Calls ε → Prop
  | later {t : Token ε} (h : t.isCancelled = false) (hook : Hook ε) :
      Adds t hook { t with hooks := t.hooks ++ [hook] } {}
  | now {t t' : Token ε} {c : Calls ε} {hook : Hook ε} (h : t.isCancelled = true)
      (h' : RunsAll t [hook] t' c) : Adds t hook t' c

/-- A token is cancelled, whoever cancels it. It is cancelled before its hooks are called. -/
inductive Cancels : Token ε → Option String → Token ε → Calls ε → Prop
  | again {t : Token ε} (h : t.isCancelled = true) (reason : Option String) :
      Cancels t reason t {}
  | first {t t' : Token ε} {c : Calls ε} {reason : Option String} (h : t.isCancelled = false)
      (h' : RunsAll { t with reason := some reason, hooks := [] } t.hooks t' c) :
      Cancels t reason t' c

end

end Token

namespace Hook

theorem callAll_singleton (reports : Bool) (hook : Hook ε) :
    callAll reports [hook] = (hook.call reports).reported reports := by
  simp [callAll]

theorem callAll_append (reports : Bool) (hooks hooks' : List (Hook ε)) :
    callAll reports (hooks ++ hooks') =
      ⟨(callAll reports hooks).deeds ++ (callAll reports hooks').deeds,
        (callAll reports hooks).fault.or (callAll reports hooks').fault⟩ := by
  induction hooks with
  | nil => simp [callAll]
  | cons hook hooks ih =>
      rw [List.cons_append, callAll, ih, callAll]
      simp only [List.append_assoc, Option.or_assoc]

end Hook

namespace Token

variable {t t' : Token ε} {c : Calls ε}

/-- If each of the hooks leaves the token as it is, so do all of them. -/
theorem runsAll_iff_of {hooks : List (Hook ε)}
    (h : ∀ hook ∈ hooks, ∀ (t' : Token ε) (c : Calls ε),
      Runs t hook t' c ↔ t' = t ∧ c = hook.call t.reports) :
    RunsAll t hooks t' c ↔ t' = t ∧ c = Hook.callAll t.reports hooks := by
  induction hooks generalizing c with
  | nil =>
      constructor
      · rintro ⟨⟩
        exact ⟨rfl, rfl⟩
      · rintro ⟨rfl, rfl⟩
        exact .nil t'
  | cons hook hooks ih =>
      have hhook := h hook List.mem_cons_self
      have hhooks (c : Calls ε) := ih (c := c) fun hook hmem => h hook (List.mem_cons_of_mem _ hmem)
      constructor
      · intro hall
        cases hall with
        | cons hrun hrest =>
            obtain ⟨rfl, rfl⟩ := (hhook _ _).mp hrun
            obtain ⟨rfl, rfl⟩ := (hhooks _).mp hrest
            exact ⟨rfl, rfl⟩
      · rintro ⟨rfl, rfl⟩
        exact .cons ((hhook _ _).mpr ⟨rfl, rfl⟩) ((hhooks _).mpr ⟨rfl, rfl⟩)

/-- A cancelled token calls a hook that is added. -/
theorem adds_iff_runsAll (ht : t.isCancelled = true) {hook : Hook ε} :
    Adds t hook t' c ↔ RunsAll t [hook] t' c := by
  constructor
  · intro hadds
    cases hadds with
    | later hnot =>
        rw [ht] at hnot
        cases hnot
    | now _ hall => exact hall
  · exact .now ht

/-- Cancelling a cancelled token changes nothing. -/
theorem cancels_iff_of_isCancelled (ht : t.isCancelled = true) {reason : Option String} :
    Cancels t reason t' c ↔ t' = t ∧ c = {} := by
  constructor
  · intro hcancels
    cases hcancels with
    | again => exact ⟨rfl, rfl⟩
    | first hnot =>
        rw [ht] at hnot
        cases hnot
  · rintro ⟨rfl, rfl⟩
    exact .again ht reason

/-- While a cancelled token calls a hook, it stays as it is: a hook that is added is called there
and then, and cancelling again changes nothing. -/
theorem runs_iff (hook : Hook ε) (ht : t.isCancelled = true) :
    Runs t hook t' c ↔ t' = t ∧ c = hook.call t.reports := by
  induction hook generalizing t' c with
  | stop =>
      constructor
      · rintro ⟨⟩
        exact ⟨rfl, rfl⟩
      · rintro ⟨rfl, rfl⟩
        exact .stop t'
  | fail fault =>
      constructor
      · rintro ⟨⟩
        exact ⟨rfl, rfl⟩
      · rintro ⟨rfl, rfl⟩
        exact .fail t' fault
  | effect e rest ih =>
      constructor
      · intro hrun
        cases hrun with
        | effect _ hrest =>
            obtain ⟨rfl, rfl⟩ := ih.mp hrest
            exact ⟨rfl, rfl⟩
      · rintro ⟨rfl, rfl⟩
        exact .effect e (ih.mpr ⟨rfl, rfl⟩)
  | add hook rest ih ihr =>
      have hadds (t' : Token ε) (c : Calls ε) :
          Adds t hook t' c ↔ t' = t ∧ c = (hook.call t.reports).reported t.reports := by
        rw [← Hook.callAll_singleton, ← runsAll_iff_of (by simpa using fun _ _ => ih)]
        exact adds_iff_runsAll ht
      unfold Hook.call
      dsimp only
      constructor
      · intro hrun
        cases hrun with
        | raised hadd hf =>
            obtain ⟨rfl, rfl⟩ := (hadds _ _).mp hadd
            split
            · exact ⟨rfl, rfl⟩
            · rename_i hnone
              exact absurd hnone hf
        | add hadd hf hrest =>
            obtain ⟨rfl, rfl⟩ := (hadds _ _).mp hadd
            obtain ⟨rfl, rfl⟩ := ihr.mp hrest
            rw [hf]
            exact ⟨rfl, rfl⟩
      · rintro ⟨rfl, rfl⟩
        split
        · rename_i hf
          exact .raised ((hadds _ _).mpr ⟨rfl, rfl⟩) (by rw [hf]; rintro ⟨⟩)
        · rename_i hf
          exact .add ((hadds _ _).mpr ⟨rfl, rfl⟩) hf (ihr.mpr ⟨rfl, rfl⟩)
  | cancel reason rest ih =>
      constructor
      · intro hrun
        cases hrun with
        | thrown hcancel hf =>
            obtain ⟨-, rfl⟩ := (cancels_iff_of_isCancelled ht).mp hcancel
            exact absurd rfl hf
        | cancel hcancel hf hrest =>
            obtain ⟨rfl, rfl⟩ := (cancels_iff_of_isCancelled ht).mp hcancel
            obtain ⟨rfl, rfl⟩ := ih.mp hrest
            exact ⟨rfl, rfl⟩
      · rintro ⟨rfl, rfl⟩
        exact .cancel (.again ht reason) rfl (ih.mpr ⟨rfl, rfl⟩)

theorem runsAll_iff (hooks : List (Hook ε)) (ht : t.isCancelled = true) :
    RunsAll t hooks t' c ↔ t' = t ∧ c = Hook.callAll t.reports hooks :=
  runsAll_iff_of fun hook _ _ _ => runs_iff hook ht

/-- Adding a hook is what comes of hooks that act on the token. -/
theorem adds_iff (t : Token ε) (hook : Hook ε) : Adds t hook t' c ↔ (t', c) = t.addHook hook := by
  unfold addHook
  split
  · rename_i ht
    rw [Prod.mk.injEq, adds_iff_runsAll ht]
    exact runsAll_iff [hook] ht
  · rename_i ht
    rw [Bool.not_eq_true] at ht
    constructor
    · intro hadds
      cases hadds with
      | later => rfl
      | now hcancelled =>
          rw [ht] at hcancelled
          cases hcancelled
    · intro heq
      obtain ⟨rfl, rfl⟩ := Prod.mk.inj heq
      exact .later ht hook

/-- Cancelling is what comes of hooks that act on the token. -/
theorem cancels_iff (t : Token ε) (reason : Option String) :
    Cancels t reason t' c ↔ (t', c) = t.cancel reason := by
  unfold cancel
  split
  · rename_i ht
    rw [Prod.mk.injEq]
    exact cancels_iff_of_isCancelled ht
  · rename_i ht
    rw [Bool.not_eq_true] at ht
    rw [Prod.mk.injEq]
    have hall : RunsAll { t with reason := some reason, hooks := [] } t.hooks t' c ↔ _ :=
      runsAll_iff t.hooks rfl
    constructor
    · intro hcancels
      cases hcancels with
      | again hcancelled =>
          rw [ht] at hcancelled
          cases hcancelled
      | first _ hrun => exact hall.mp hrun
    · intro heq
      exact .first ht (hall.mpr heq)

end Token

end CommandShell
