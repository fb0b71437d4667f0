import CommandShell.Proofs.Session.Look
import CommandShell.Proofs.Session.Tending

/-!
# The watchdog

A look of the watchdog leaves every critical service enabled that it knows, unless one
of them is no name (`looked_checkServices`). It enables services and disables none, so a
session that was tended stays so (`tended_watch`).
-/

namespace CommandShell.Session

variable {critical : List Value} {s t : Session}

/-! ## Services that are enabled again -/

theorem idles_recovered (s : Session) (name : String) : Idles s (s.recovered name) := by
  have hcleared : Minds s s.clearOutput := minds_of_eq rfl rfl rfl rfl rfl rfl rfl rfl
  unfold recovered
  dsimp only
  split
  · have hshown := hcleared.trans (minds_render s.clearOutput (.status (recoveryMessage name)))
    exact ⟨hshown.trans (minds_of_eq rfl rfl rfl rfl rfl rfl rfl rfl), rfl, rfl, rfl⟩
  · exact ⟨hcleared.trans (minds_of_eq rfl rfl rfl rfl rfl rfl rfl rfl), rfl, rfl, rfl⟩

theorem kept_enable (h : Kept critical s) (v : Service) : Kept critical (s.enable v) := by
  cases v with
  | engine => exact kept_make h trivial (by rintro ⟨⟩)
  | _ => exact kept_of_minds h (minds_changeLife s _ _) rfl

/-! ## Looking around -/

/-- The watchdog has looked at services, one after the other. -/
structure Looked (critical vs : List Value) (s t : Session)
    (result : Except Fault (List String)) : Prop where
  kept : Kept critical t
  stays : ∀ w, s.isEnabled w = true → t.isEnabled w = true
  /-- A look that does not fail leaves every service enabled that is asked for, and
  changes nothing if all of them were. -/
  ends : ∀ names, result = .ok names → (∀ v ∈ vs, v.isKey = true) ∧
    (∀ w, .str (Service.name w) ∈ vs → t.isEnabled w = true) ∧ (names = [] → t = s)
  fails : ∀ f, result = .error f → ∃ v ∈ vs, v.isKey = false

theorem looked_checkServices (h : Kept critical s) (vs : List Value) :
    Looked critical vs s (s.checkServices vs).1 (s.checkServices vs).2 := by
  induction vs generalizing s with
  | nil =>
      refine ⟨h, fun _ => id, ?_, by rintro _ ⟨⟩⟩
      intro names _
      exact ⟨by rintro _ ⟨⟩, by rintro _ ⟨⟩, fun _ => rfl⟩
  | cons v vs ih =>
      unfold checkServices
      rcases checkService_cases s v with ⟨f, hone, hfault⟩ | ⟨hone, hkey, hon⟩ |
        ⟨w, -, -, rfl, hone⟩
      · have hkey : v.isKey = false := by
          rcases hfault with hkey | ⟨name, hbroken, -⟩
          · exact hkey
          · rw [h.furnished.broken] at hbroken
            cases hbroken
        rw [hone]
        exact ⟨h, fun _ => id, by rintro _ ⟨⟩, fun _ _ => ⟨v, List.mem_cons_self, hkey⟩⟩
      · have hmore := ih h
        have hall : Looked critical (v :: vs) s (s.checkServices vs).1 (s.checkServices vs).2 := by
          refine ⟨hmore.kept, hmore.stays, ?_, ?_⟩
          · intro names hnames
            obtain ⟨hkeys, henabled, hsame⟩ := hmore.ends names hnames
            refine ⟨List.forall_mem_cons.mpr ⟨hkey, hkeys⟩, ?_, hsame⟩
            intro w hw
            rcases List.mem_cons.mp hw with hw | hw
            · exact hmore.stays w (hon w (h.furnished.watched w) hw.symm)
            · exact henabled w hw
          · intro f hf
            obtain ⟨v', hv', hkey'⟩ := hmore.fails f hf
            exact ⟨v', List.mem_cons_of_mem _ hv', hkey'⟩
        rw [hone]
        exact hall
      · have hidles := idles_recovered (s.enable w) w.name
        have hmore := ih (kept_of_minds (kept_enable h w) hidles.toMinds hidles.engine)
        obtain ⟨hon, hstays⟩ := isEnabled_recovered s w w.name
        rw [hone]
        dsimp only
        refine ⟨hmore.kept, fun w' hw' => hmore.stays w' (hstays w' hw'), ?_, ?_⟩
        · intro names hnames
          obtain ⟨more, hmap, rfl⟩ : ∃ more, (checkServices ((s.enable w).recovered w.name) vs).2 =
              .ok more ∧ names = w.name :: more := by
            cases hm : (checkServices ((s.enable w).recovered w.name) vs).2 with
            | error f => simp [hm, Except.map] at hnames
            | ok more => exact ⟨more, rfl, by simpa [hm, Except.map, eq_comm] using hnames⟩
          obtain ⟨hkeys, henabled, -⟩ := hmore.ends more hmap
          refine ⟨List.forall_mem_cons.mpr ⟨rfl, hkeys⟩, ?_, by rintro ⟨⟩⟩
          intro w' hw'
          rcases List.mem_cons.mp hw' with hw' | hw'
          · obtain rfl := name_inj hw'
            exact hmore.stays w' hon
          · exact henabled w' hw'
        · intro f hf
          cases hm : (checkServices ((s.enable w).recovered w.name) vs).2 with
          | error f' =>
              obtain ⟨v', hv', hkey'⟩ := hmore.fails f' hm
              exact ⟨v', List.mem_cons_of_mem _ hv', hkey'⟩
          | ok more => simp [hm, Except.map] at hf

theorem tended_check (h : Tended critical s) : Tended critical s.check.1 := by
  have hlooked := looked_checkServices h.toKept s.watchdog.critical
  unfold check
  split
  · exact h
  · generalize s.checkServices s.watchdog.critical = there at hlooked
    obtain ⟨t, result⟩ := there
    cases result with
    | ok names =>
        dsimp only
        obtain ⟨-, -, hsame⟩ := hlooked.ends names rfl
        cases names with
        | nil =>
            obtain rfl : t = s := hsame rfl
            exact h
        | cons name names =>
            -- whatever was enabled, the user is prompted
            obtain ⟨hminds, hprompt⟩ := minds_requestPrompt t
            refine ⟨kept_of_minds hlooked.kept hminds (around_requestPrompt t).engine, ?_⟩
            intro _ _ _
            exact Or.inl (hprompt hlooked.kept.furnished.surface)
    | error f =>
        refine ⟨hlooked.kept, ?_⟩
        intro hkeys _ _
        obtain ⟨v, hv, hkey⟩ := hlooked.fails f rfl
        rw [h.furnished.critical] at hv
        rw [hkeys v hv] at hkey
        cases hkey

theorem minds_arm (s : Session) : Minds s s.arm := by
  have hready : Minds s { s with ready := s.ready ++ [.watch] } := by
    refine ⟨rfl, rfl, rfl, rfl, rfl, rfl, rfl, rfl, id, fun ha => ?_, id, id⟩
    refine attended_of_eq ha rfl ?_ rfl
    rw [List.filterMap_append]
    exact List.append_nil _
  have hstopped : Minds s { s with watchdog.started := false } :=
    ⟨rfl, rfl, rfl, rfl, rfl, rfl, rfl, rfl, id, fun ha => ⟨ha.1, ha.2, ha.3⟩, id, id⟩
  unfold arm
  split
  · exact minds_refl s
  · split
    · exact minds_timer s _ rfl
    · exact hready
    · exact minds_refl s
    · exact hstopped
    · exact hstopped

theorem tended_arm (h : Tended critical s) : Tended critical s.arm := by
  have hregistry : s.arm.registry = s.registry := by
    unfold arm
    split
    · rfl
    · split <;> rfl
  exact tended_of_minds h (minds_arm s) (around_arm s).engine (congrArg _ hregistry)

/-- **The watchdog leaves the session tended.** -/
theorem tended_watch (h : Tended critical s) : Tended critical s.watch := by
  have hcheck := tended_check h
  unfold watch
  generalize s.check = there at hcheck
  obtain ⟨t, result⟩ := there
  cases result with
  | ok names => exact tended_arm hcheck
  | error f =>
      refine tended_arm (tended_of_minds hcheck ?_ rfl rfl)
      exact minds_of_eq rfl rfl rfl rfl rfl rfl rfl rfl

end CommandShell.Session
