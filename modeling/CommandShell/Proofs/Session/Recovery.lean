import CommandShell.Proofs.Session.Alternation

/-!
# What a look of the watchdog recovers

A look goes through a list of names. A name of a service that is disabled when its turn comes
enables this service, clears the buffer if that is enabled by then, and tells the user
(`mends_enable`). What all names come to together is said of the session as it was before the
look (`mends_checkServices`): enabling one service disables no other, so the names that are recovered
are those of services that were disabled, each where it stands first.
-/

namespace CommandShell

namespace Engine

theorem running_of_not_stalled {e : Engine} (hl : e.life.enabled = true) (h : ¬ e.Stalled) :
    e.running = e.ahead.take 1 := by
  cases hr : e.run with
  | none =>
      have hq : e.queue = [] := by
        by_contra hq
        exact h ⟨hl, hr, hq⟩
      simp [ahead, running, hr, hq]
  | some r => simp [ahead, running, hr]

/-- Once an engine is enabled, the first of its chains runs. -/
theorem running_enable {e : Engine} (hi : e.life.initialized = true) :
    (e.apply (.call .enable)).running = (e.apply (.call .enable)).ahead.take 1 := by
  have happly : e.apply (.call .enable) = ({ e with life := e.life.enable } : Engine).advance :=
    if_pos hi
  rw [happly]
  refine running_of_not_stalled ?_ (not_stalled_advance _)
  rw [advance_life]
  rfl

end Engine

namespace Session

variable {s t u : Session} {listed listed' names names' : List String}

/-- A service of this name is there and disabled. -/
def isDown (s : Session) (name : String) : Bool :=
  s.watched.any fun v => v.name == name && !s.isEnabled v

/-- The presenter is told of a recovery. -/
def recoveryCall (name : String) : Presenter.Call := .render (.status (recoveryMessage name))

/-- What going through the listed names comes to. -/
structure Mends (listed : List String) (s t : Session) (names : List String) : Prop where
  order : names = (listed.filter s.isDown).eraseDups
  /-- if nothing is recovered, nothing happens -/
  idle : names = [] → t = s
  enabled : ∀ v, t.isEnabled v =
    (s.isEnabled v || (s.watched.contains v && listed.contains v.name))
  lines : t.output.lines =
    if names ≠ [] ∧ t.isEnabled .output = true then [] else s.output.lines
  calls : t.calls = s.calls ++ names.map recoveryCall
  ahead : t.engine.ahead = s.engine.ahead
  running : Service.engine.name ∈ names → t.engine.running = t.engine.ahead.take 1
  /-- the engine does not move unless it is recovered -/
  engine : Service.engine.name ∉ names → t.engine = s.engine
  initialized : t.engine.life.initialized = s.engine.life.initialized
  watched : t.watched = s.watched
  broken : t.broken = s.broken
  surface : t.surface.isSome = s.surface.isSome
  prompt : t.hasPrompt = s.hasPrompt

theorem mends_nil (s : Session) : Mends [] s s [] where
  order := rfl
  idle := fun _ => rfl
  enabled := fun v => by simp
  lines := by simp
  calls := by simp
  ahead := rfl
  running := by simp
  engine := fun _ => rfl
  initialized := rfl
  watched := rfl
  broken := rfl
  surface := rfl
  prompt := rfl

/-- A name that is none of a disabled service is passed over. -/
theorem mends_passed {name : String} (h : s.isDown name = false) : Mends [name] s s [] where
  order := by simp [h]
  idle := fun _ => rfl
  enabled := by
    intro v
    cases hv : s.isEnabled v with
    | true => rfl
    | false =>
        by_contra hne
        have hmem : v ∈ s.watched ∧ v.name = name := by simpa using hne
        have hdown : s.isDown name = true :=
          List.any_eq_true.mpr ⟨v, hmem.1, by simp [hmem.2, hv]⟩
        rw [h] at hdown
        cases hdown
  lines := by simp
  calls := by simp
  ahead := rfl
  running := by simp
  engine := fun _ => rfl
  initialized := rfl
  watched := rfl
  broken := rfl
  surface := rfl
  prompt := rfl

theorem recovered_eq (hf : s.surface.isSome = true) (name : String) :
    s.recovered name =
      ((s.clearOutput.render (.status (recoveryMessage name))).record .watchdog
        s!"recover {name}").report .watchdog .warning "critical service re-enabled"
        [("service", .str name)] :=
  congrArg (fun t : Session => (t.record .watchdog s!"recover {name}").report .watchdog .warning
    "critical service re-enabled" [("service", .str name)]) (if_pos hf)

theorem lines_recovered (hf : s.surface.isSome = true) (name : String) :
    (s.recovered name).output.lines =
      if s.isEnabled .output = true then [] else s.output.lines := by
  rw [recovered_eq hf]
  show s.output.clear.output.lines = if s.output.life.enabled = true then [] else s.output.lines
  unfold Output.clear
  split <;> rfl

theorem engine_enable (v : Service) : (s.enable v).engine =
    if v = .engine then s.engine.apply (.call .enable) else s.engine := by
  cases v with
  | engine => exact onEngine_engine _ _
  | _ => exact (around_changeLife s (by decide) _).engine

theorem minds_enable (s : Session) (v : Service) : Minds s (s.enable v) := by
  cases v with
  | engine => exact minds_make s .enable
  | _ => exact minds_changeLife s _ _

/-- A disabled service is enabled under its name. -/
theorem mends_enable {v : Service} (hv : v ∈ s.watched) (hoff : s.isEnabled v = false)
    (hf : s.surface.isSome = true) (hi : s.engine.life.initialized = true) :
    Mends [v.name] s ((s.enable v).recovered v.name) [v.name] := by
  have huntold := untold_enable s v
  have hf' : (s.enable v).surface.isSome = true := by
    rw [huntold.surface]
    exact hf
  have hengine : ((s.enable v).recovered v.name).engine =
      if v = .engine then s.engine.apply (.call .enable) else s.engine :=
    (around_recovered _ _).engine.trans (engine_enable v)
  have hlife (w : Service) : ((s.enable v).recovered v.name).isEnabled w =
      (s.enable v).isEnabled w :=
    congrArg Lifecycle.enabled ((steady_recovered _ _).life w)
  have hminds := (minds_enable s v).trans (idles_recovered (s.enable v) v.name).toMinds
  have hname {w : Service} (h : w.name = v.name) : w = v := name_inj (congrArg Value.str h)
  refine ⟨?_, ?_, ?_, ?_, ?_, ?_, ?_, ?_, ?_, hminds.watched, hminds.broken, hminds.surface, ?_⟩
  · have hdown : s.isDown v.name = true := List.any_eq_true.mpr ⟨v, hv, by simp [hoff]⟩
    rw [List.filter_cons_of_pos hdown]
    rfl
  · rintro ⟨⟩
  · intro w
    rw [hlife]
    unfold isEnabled
    rw [lifeOf_enable]
    by_cases hw : w = v
    · subst hw
      rw [if_pos rfl]
      simp [Lifecycle.enable, hv]
    · have hne : w.name ≠ v.name := fun h => hw (hname h)
      rw [if_neg hw]
      simp [hne]
  · rw [lines_recovered hf', huntold.lines, hlife]
    simp
  · rw [recovered_eq hf']
    show (s.enable v).calls ++ [_] = _
    rw [huntold.calls]
    rfl
  · rw [hengine]
    split
    · rw [Engine.ahead_apply]
      exact List.append_nil _
    · rfl
  · intro hmem
    obtain rfl := hname (List.mem_singleton.mp hmem)
    rw [hengine, if_pos rfl]
    exact Engine.running_enable hi
  · intro hmem
    rw [hengine, if_neg]
    rintro rfl
    exact hmem List.mem_cons_self
  · rw [hengine]
    split
    · exact Engine.initialized_apply _ _
    · rfl
  · rw [recovered_eq hf', ← hasPrompt_congr huntold.surface]
    unfold hasPrompt
    show ((s.enable v).surface.map _).any _ = _
    cases (s.enable v).surface <;> rfl

/-- Names that were gone through have been recovered. -/
theorem isDown_of_mends (h : Mends listed s t names) (name : String) :
    t.isDown name = (s.isDown name && !listed.contains name) := by
  unfold isDown
  rw [h.watched, Bool.eq_iff_iff, Bool.and_eq_true, List.any_eq_true, List.any_eq_true]
  constructor
  · rintro ⟨v, hv, hdown⟩
    rw [h.enabled] at hdown
    simp only [Bool.and_eq_true, beq_iff_eq, Bool.not_eq_true', Bool.or_eq_false_iff] at hdown
    obtain ⟨rfl, hoff, hrest⟩ := hdown
    rw [List.contains_iff_mem.mpr hv, Bool.true_and] at hrest
    exact ⟨⟨v, hv, by simp [hoff]⟩, by rw [hrest]; rfl⟩
  · rintro ⟨⟨v, hv, hdown⟩, hrest⟩
    simp only [Bool.and_eq_true, beq_iff_eq, Bool.not_eq_true'] at hdown hrest
    obtain ⟨rfl, hoff⟩ := hdown
    refine ⟨v, hv, ?_⟩
    rw [h.enabled, hoff, hrest]
    simp

/-- What comes of some names and then of others comes of all of them. -/
theorem mends_append (h : Mends listed s t names) (h' : Mends listed' t u names') :
    Mends (listed ++ listed') s u (names ++ names') where
  order := by
    have hrest : (listed'.filter s.isDown).removeAll (listed.filter s.isDown) =
        listed'.filter t.isDown := by
      unfold List.removeAll
      rw [List.filter_filter]
      refine List.filter_congr fun name _ => ?_
      rw [isDown_of_mends h]
      cases hdown : s.isDown name <;> simp [hdown]
    rw [List.filter_append, List.eraseDups_append, ← h.order, hrest, ← h'.order]
  idle := by
    intro hnone
    obtain ⟨hnames, hnames'⟩ := List.append_eq_nil_iff.mp hnone
    exact (h'.idle hnames').trans (h.idle hnames)
  enabled := by
    intro v
    rw [h'.enabled, h.enabled, h.watched]
    cases s.isEnabled v <;> cases s.watched.contains v <;> simp
  lines := by
    cases names' with
    | nil =>
        rw [h'.idle rfl, List.append_nil]
        exact h.lines
    | cons name names' =>
        rw [h'.lines, h.lines]
        by_cases hon : u.isEnabled .output = true
        · simp [hon]
        · -- the buffer was disabled all the time
          have hoff : t.isEnabled .output = false := by
            by_contra hne
            rw [Bool.not_eq_false] at hne
            rw [h'.enabled, hne] at hon
            exact hon rfl
          simp [hon, hoff]
  calls := by rw [h'.calls, h.calls, List.map_append, List.append_assoc]
  ahead := h'.ahead.trans h.ahead
  running := by
    intro hmem
    by_cases hlater : Service.engine.name ∈ names'
    · exact h'.running hlater
    · rw [h'.engine hlater]
      exact h.running ((List.mem_append.mp hmem).resolve_right hlater)
  engine := by
    intro hmem
    rw [List.mem_append, not_or] at hmem
    exact (h'.engine hmem.2).trans (h.engine hmem.1)
  initialized := h'.initialized.trans h.initialized
  watched := h'.watched.trans h.watched
  broken := h'.broken.trans h.broken
  surface := h'.surface.trans h.surface
  prompt := h'.prompt.trans h.prompt

/-- Names are gone through of which none is of a service that cannot be enabled. -/
theorem mends_checkServices (hf : s.surface.isSome = true)
    (hi : s.engine.life.initialized = true) (hb : ∀ name ∈ listed, name ∉ s.broken) :
    ∃ t names, s.checkServices (listed.map .str) = (t, .ok names) ∧ Mends listed s t names := by
  induction listed generalizing s with
  | nil => exact ⟨s, [], rfl, mends_nil s⟩
  | cons name listed ih =>
      obtain ⟨hname, hrest⟩ := List.forall_mem_cons.mp hb
      rw [List.map_cons]
      unfold checkServices
      rcases checkService_cases s (.str name) with ⟨f, -, hkey | ⟨_, hbroken, ⟨⟩⟩⟩ |
        ⟨hone, -, hon⟩ | ⟨v, hv, hoff, ⟨⟩, hone⟩
      · cases hkey
      · exact absurd hbroken hname
      · have hup : s.isDown name = false := by
          refine List.any_eq_false.mpr fun v hv => ?_
          intro hdown
          simp only [Bool.and_eq_true, beq_iff_eq, Bool.not_eq_true'] at hdown
          obtain ⟨rfl, hoff⟩ := hdown
          rw [hon v hv rfl] at hoff
          cases hoff
        obtain ⟨t, names, hall, hmends⟩ := ih hf hi hrest
        rw [hone]
        dsimp only
        rw [hall]
        exact ⟨t, names, rfl, mends_append (mends_passed hup) hmends⟩
      · have hfirst := mends_enable hv hoff hf hi
        obtain ⟨t, names, hall, hmends⟩ := ih (hfirst.surface.trans hf)
          (hfirst.initialized.trans hi) (hfirst.broken ▸ hrest)
        rw [hone]
        dsimp only
        rw [hall]
        exact ⟨t, v.name :: names, rfl, mends_append hfirst hmends⟩

/-- What a look at the listed services comes to, of which it returns the names. -/
structure Recovers (listed : List String) (s t : Session) (names : List String) : Prop where
  /-- in the order of the list and without repetition, the names of services that were disabled -/
  order : names = (listed.filter s.isDown).eraseDups
  enabled : ∀ v, t.isEnabled v =
    (s.isEnabled v || (s.watched.contains v && listed.contains v.name))
  lines : t.output.lines =
    if names ≠ [] ∧ t.isEnabled .output = true then [] else s.output.lines
  calls : t.calls = s.calls ++ names.map recoveryCall ++
    if names ≠ [] ∧ s.hasPrompt = false then [.prompt] else []
  /-- no chain is lost, and all stay in their order -/
  ahead : t.engine.ahead = s.engine.ahead
  running : Service.engine.name ∈ names → t.engine.running = t.engine.ahead.take 1

theorem calls_requestPrompt (hf : s.surface.isSome = true) :
    s.requestPrompt.calls = s.calls ++ if s.hasPrompt = false then [.prompt] else [] := by
  obtain ⟨f, hf⟩ := Option.isSome_iff_exists.mp hf
  unfold requestPrompt hasPrompt
  rw [hf]
  cases hopen : f.promptOpen <;> simp [hopen, present]

/-- **A look recovers the listed services that are disabled**, whichever names are listed. The
surface is there and the engine is initialized, as in every shell, and no name is
of a service that cannot be enabled. -/
theorem check_recovers (hup : s.isEnabled .watchdog = true) (hf : s.surface.isSome = true)
    (hi : s.engine.life.initialized = true) (hlisted : s.watchdog.critical = listed.map .str)
    (hb : ∀ name ∈ listed, name ∉ s.broken) :
    ∃ t names, s.check = (t, .ok names) ∧ Recovers listed s t names := by
  obtain ⟨t, names, hall, hmends⟩ := mends_checkServices hf hi hb
  have hcheck : s.check = (if names.isEmpty then t else t.requestPrompt, .ok names) := by
    rw [check_of_isEnabled hup, hlisted, hall]
  cases names with
  | nil =>
      refine ⟨t, [], hcheck, hmends.order, hmends.enabled, hmends.lines, ?_, hmends.ahead,
        hmends.running⟩
      rw [hmends.calls]
      simp
  | cons name names =>
      have hsteady := steady_requestPrompt t
      have haround := (around_requestPrompt t).engine
      have hlife (v : Service) : t.requestPrompt.isEnabled v = t.isEnabled v :=
        congrArg Lifecycle.enabled (hsteady.life v)
      have houtput : t.requestPrompt.output = t.output := by
        unfold requestPrompt
        split
        · split <;> rfl
        · rfl
      refine ⟨t.requestPrompt, name :: names, hcheck, hmends.order, ?_, ?_, ?_, ?_, ?_⟩
      · intro v
        rw [hlife]
        exact hmends.enabled v
      · rw [houtput, hlife]
        exact hmends.lines
      · rw [calls_requestPrompt (hmends.surface.trans hf), hmends.calls, hmends.prompt]
        simp
      · rw [haround]
        exact hmends.ahead
      · rw [haround]
        exact hmends.running

/-! ## A session that had lost its engine and its buffer -/

namespace Felled

/-- A name that is of no service, and one that stands twice. -/
def critical : List String := ["engine", "commandexec", "output", "commandexec"]

/-- A line has disabled the engine, what follows that line is left in the queue, and so is its
output in the buffer, which is disabled too. -/
def session : Session :=
  { Lost.bricked.disable .output with watchdog.critical := critical.map .str }

end Felled

/-- Both services are recovered, the buffer is empty, and the first chain of the queue runs. -/
theorem recovers_felled : Felled.session.output.lines.length = 1 ∧
    Felled.session.engine.ahead.length = 2 ∧
    Felled.session.check.2.toOption = some ["commandexec", "output"] ∧
    Felled.session.check.1.output.lines = [] ∧
    Felled.session.check.1.engine.running.length = 1 ∧
    ∃ t names, Felled.session.check = (t, .ok names) ∧
      Recovers Felled.critical Felled.session t names :=
  ⟨by decide +kernel, by decide +kernel, by decide +kernel, by decide +kernel, by decide +kernel,
    check_recovers (by decide +kernel) (by decide +kernel) (by decide +kernel) rfl
      (by decide +kernel)⟩

end Session

end CommandShell
