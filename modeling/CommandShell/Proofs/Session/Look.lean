import CommandShell.Proofs.Session.Scene

/-!
# Looks of the watchdog

A look at a service enables it if it is disabled (`checkService_cases`), and every
other service stays as it is (`isEnabled_recovered`).
-/

namespace CommandShell

/-- The value can be looked up among the services. -/
def Value.isKey : Value → Bool
  | .scalar _ => true
  | _ => false

namespace Session

variable {s : Session}

/-! ## One service -/

theorem lifeOf_changeLife (s : Session) (v : Service) (step : Lifecycle → Lifecycle)
    (w : Service) :
    (s.changeLife v step).lifeOf w = if w = v then step (s.lifeOf v) else s.lifeOf w := by
  show ((s.setLife _ _).recordAll _).lifeOf w = _
  rw [(steady_recordAll _ _).life w]
  cases v <;> cases w <;> rfl

/-- A call concerns the engine alone. -/
theorem lifeOf_make (s : Session) (c : Call) (w : Service) :
    (s.make c).lifeOf w =
      if w = .engine then (s.engine.apply (.call c)).life else s.lifeOf w := by
  show ((s.recordAll (s.engine.actions c)).onEngine (.call c)).lifeOf w = _
  rw [(steady_moved _ _).life w]
  have hrecorded := (steady_recordAll s (s.engine.actions c)).life w
  cases w with
  | engine => rfl
  | _ => exact hrecorded

theorem lifeOf_enable (s : Session) (v w : Service) :
    (s.enable v).lifeOf w = if w = v then (s.lifeOf v).enable else s.lifeOf w := by
  cases v with
  | engine =>
      have hmade := lifeOf_make s .enable w
      rw [Engine.life_apply] at hmade
      exact hmade
  | _ => exact lifeOf_changeLife s _ _ w

theorem lifeOf_disable (s : Session) (v w : Service) :
    (s.disable v).lifeOf w = if w = v then (s.lifeOf v).disable else s.lifeOf w := by
  cases v with
  | engine => exact lifeOf_make s .disable w
  | _ => exact lifeOf_changeLife s _ _ w

theorem steady_recovered (s : Session) (name : String) : Steady s (s.recovered name) := by
  have hreported (t : Session) : Steady t ((t.record .watchdog s!"recover {name}").report .watchdog
      .warning "critical service re-enabled" [("service", .str name)]) :=
    (steady_record t .watchdog s!"recover {name}").trans (steady_report _ _ _ _ _)
  unfold recovered
  dsimp only
  split
  · exact ((steady_clearOutput s).trans (steady_render _ _)).trans (hreported _)
  · exact (steady_clearOutput s).trans (hreported _)

/-- A service that is enabled stays so when the watchdog enables another one. -/
theorem isEnabled_recovered (s : Session) (v : Service) (name : String) :
    ((s.enable v).recovered name).isEnabled v = true ∧
      ∀ w, s.isEnabled w = true → ((s.enable v).recovered name).isEnabled w = true := by
  have hlife (w : Service) : ((s.enable v).recovered name).lifeOf w =
      if w = v then (s.lifeOf v).enable else s.lifeOf w := by
    rw [(steady_recovered _ _).life w, lifeOf_enable]
  unfold isEnabled
  constructor
  · rw [hlife, if_pos rfl]
    rfl
  · intro w hw
    rw [hlife]
    split
    · rfl
    · exact hw

theorem name_inj {v w : Service} (h : Value.str v.name = Value.str w.name) : v = w := by
  injection h with h
  injection h with h
  have heq := congrArg Service.ofName? h
  rw [Service.ofName?_name, Service.ofName?_name] at heq
  exact Option.some.inj heq

/-- Everything that a look at one service can come to. A fault is about a value that is
no key, or about a service that cannot be enabled. -/
theorem checkService_cases (s : Session) (v : Value) :
    (∃ f, s.checkService v = (s, .error f) ∧
      (v.isKey = false ∨ ∃ name ∈ s.broken, v = .str name)) ∨
    (s.checkService v = (s, .ok false) ∧ v.isKey = true ∧
      ∀ w ∈ s.watched, v = .str w.name → s.isEnabled w = true) ∨
    ∃ w ∈ s.watched, s.isEnabled w = false ∧ v = .str w.name ∧
      s.checkService v = ((s.enable w).recovered w.name, .ok true) := by
  unfold checkService
  split
  · rename_i name
    split
    · rename_i w hw
      obtain ⟨hname, hwatched⟩ := Option.filter_eq_some_iff.mp hw
      obtain rfl : w.name = name := by
        simpa using List.find?_some (show Service.all.find? _ = some w from hname)
      split
      · rename_i hon
        refine Or.inr (Or.inl ⟨rfl, rfl, ?_⟩)
        intro w' _ hw'
        obtain rfl := name_inj hw'
        exact hon
      · rename_i hoff
        have hmem : w ∈ s.watched := List.contains_iff_mem.mp hwatched
        exact Or.inr (Or.inr ⟨w, hmem, Bool.eq_false_iff.mpr hoff, rfl, rfl⟩)
    · rename_i hnone
      -- no service that is watched has this name
      have hother : ∀ w ∈ s.watched, Value.str name = .str w.name → s.isEnabled w = true := by
        rintro w hw ⟨⟩
        rw [Service.ofName?_name] at hnone
        simp [hw] at hnone
      split
      · rename_i hbroken
        exact Or.inl ⟨_, rfl, Or.inr ⟨name, List.contains_iff_mem.mp hbroken, rfl⟩⟩
      · exact Or.inr (Or.inl ⟨rfl, rfl, hother⟩)
  · exact Or.inl ⟨_, rfl, Or.inl rfl⟩
  · exact Or.inl ⟨_, rfl, Or.inl rfl⟩
  · rename_i hstr hlist hmap
    refine Or.inr (Or.inl ⟨rfl, ?_, fun w _ hw => absurd hw (hstr w.name)⟩)
    cases v with
    | scalar x => rfl
    | list items => exact absurd rfl (hlist items)
    | map entries => exact absurd rfl (hmap entries)

/-! ## All of them -/

theorem check_of_isEnabled (hon : s.isEnabled .watchdog = true) :
    s.check = match s.checkServices s.watchdog.critical with
      | (s, .ok names) => (if names.isEmpty then s else s.requestPrompt, .ok names)
      | (s, .error f) => (s, .error f) := by
  unfold check
  rw [hon]
  rfl

theorem isEnabled_arm (s : Session) (v : Service) : s.arm.isEnabled v = s.isEnabled v := by
  unfold arm
  split
  · rfl
  · split <;> cases v <;> rfl

end Session

end CommandShell
