import CommandShell.Proofs.Session.Alternation
import CommandShell.Proofs.Session.Promise
import CommandShell.Proofs.Session.Record

/-!
# Shells

A shell is a session that has been built and in which further commands may have been
defined (`IsShell`). It comes with a buffer and a log (`isEquipped_of_isShell`). What it
has told by then is little: defects of its commands. So its record is kept
(`recorded_of_isShell`), its prompts and lines alternate (`alternates_of_isShell`), and if
its commands cancel nothing it promises a prompt once it has been started
(`promising_start`).
-/

namespace CommandShell.Session

variable {excuse : Prop} {e₀ : Engine} {settings : Settings} {P : Definition Program → Prop}
  {s s₀ t : Session}

/-- A session that has been built, and in which more commands may have been defined. -/
inductive IsShell (settings : Settings) (P : Definition Program → Prop) : Session → Prop
  | built {name : String} {clock : Clock} {reports canClear : Bool} {s : Session}
      (h : build settings name clock reports canClear = .ok s) : IsShell settings P s
  | defined {s : Session} {d : Definition Program} (h : IsShell settings P s) (hd : P d)
      (register : Bool) : IsShell settings P (s.define d register).1

theorem isStart_of_isShell (h : IsShell settings P s) : s.IsStart := by
  induction h with
  | built h => exact isStart_build h
  | defined _ _ register ih => exact isStart_of_around ih (around_define _ _ register)

/-- The watchdog starts, and a prompt is opened. -/
theorem around_start (s : Session) : Around s s.start := by
  have hwatch : Around s s.startWatch := by
    unfold startWatch
    split
    · exact Around.refl s
    · refine ⟨rfl, rfl, ?_, rfl⟩
      simp [turns]
  exact hwatch.trans (around_requestPrompt _)

theorem isStart_start (h : IsShell settings P s) : s.start.IsStart :=
  isStart_of_around (isStart_of_isShell h) (around_start s)

/-! ## What shells come with and have told -/

/-- The buffer takes lines, there is a log, and the delay after a chain and the limit of the
transcript are those of the settings. -/
structure IsEquipped (settings : Settings) (s : Session) : Prop where
  output : s.output.life.enabled = true
  context : s.context.isSome = true
  delay : s.engine.stepDelay = settings.stepDelay
  limit : s.surface.map (fun f => f.limit) = some settings.transcriptLimit

/-- Nothing has been told yet. -/
structure IsBlank (s : Session) : Prop where
  calls : s.calls = []
  handed : s.handed = []
  prompt : s.hasPrompt = false
  surface : ∃ f, s.surface = some f ∧ f.transcript = []
  lines : s.output.lines = []
  events : ∀ c, s.context = some c → c.events = []
  faults : s.faults.getD [] = []
  said : s.said = []

theorem isEquipped_onRegistry {ρ : Type} (h : s.IsEquipped settings)
    (step : Registry.Step Program ρ) : (s.onRegistry step).1.IsEquipped settings :=
  ⟨h.output, h.context, h.delay, h.limit⟩

theorem isEquipped_validate (h : s.IsEquipped settings) (name : String) :
    (s.validate name).IsEquipped settings := by
  have hchecked := isEquipped_onRegistry h (s.registry.validate name)
  unfold validate
  split
  · rename_i t p heq
    rw [heq] at hchecked
    refine ⟨hchecked.output, ?_, hchecked.delay, ?_⟩
    · have hcontext := hchecked.context
      show ((t.context.map (Context.warn · Service.registry.name p.message)).map _).isSome = true
      rw [Option.isSome_map, Option.isSome_map]
      exact hcontext
    · have hlimit := hchecked.limit
      show (t.surface.map _).map _ = _
      rw [Option.map_map]
      exact hlimit
  · rename_i heq
    rw [heq] at hchecked
    exact hchecked

theorem isEquipped_define (h : s.IsEquipped settings) (d : Definition Program) (register : Bool) :
    (s.define d register).1.IsEquipped settings := by
  unfold define
  split
  · exact h
  · dsimp only
    split
    · exact isEquipped_validate
        (isEquipped_onRegistry ⟨h.output, h.context, h.delay, h.limit⟩ _) d.name
    · exact ⟨h.output, h.context, h.delay, h.limit⟩

/-- A session is built by setting up its services, of which nothing is told, and by
registering commands, which are checked one after another. -/
theorem parts_of_build {name : String} {clock : Clock} {reports canClear : Bool}
    (h : build settings name clock reports canClear = .ok s) :
    ∃ (t u : Session) (names : List String), t.IsBlank ∧ Tells False (·.isAside = true) t u ∧
      u.IsEquipped settings ∧ s = names.foldl validate u := by
  have hinit (order : List Service) (t : Session) :
      Tells False (·.isAside = true) t (t.initAll order) := by
    induction order generalizing t with
    | nil => exact tells_refl t
    | cons v order ih => exact (Tells.untold (untold_changeLife t v .init)).trans (ih _)
  have hchoice (b : Bool) (v : Service) (t : Session) :
      Tells False (·.isAside = true) t (if b = true then t else t.disable v) := by
    cases b with
    | true => exact tells_refl t
    | false => exact .untold (untold_disable t v)
  unfold build at h
  extract_lets s₁ s₂ s₃ s₄ s₅ s₆ at h
  have hblank : s₁.IsBlank := by
    refine ⟨rfl, rfl, rfl, ⟨_, rfl, rfl⟩, rfl, ?_, ?_, rfl⟩
    · intro c hc
      obtain rfl := Option.some.inj hc
      rfl
    · show Option.getD (if reports = true then some [] else none)
        ([] : List (Problem × String)) = []
      split <;> rfl
  have hdefined : Untold s₅ s₆ := ⟨rfl, rfl, rfl, rfl, rfl, rfl, rfl⟩
  have htold : Tells False (·.isAside = true) s₁ s₆ :=
    ((((hinit _ s₁).trans (hchoice _ _ s₂)).trans (hinit _ s₃)).trans (hchoice _ _ s₄)).trans
      (.untold hdefined)
  have hequipped : s₆.IsEquipped settings := by
    cases hd : settings.diagnostics <;> cases hw : settings.watchdog <;>
      simp only [s₆, s₅, s₄, s₃, hd, hw, Bool.false_eq_true, if_true, if_false] <;>
      exact ⟨rfl, rfl, rfl, rfl⟩
  clear_value s₆
  cases hnames : commandNames s₆.registry settings.registered with
  | error f =>
      rw [hnames] at h
      cases h
  | ok names =>
      rw [hnames] at h
      exact ⟨s₁, (s₆.onRegistry (s₆.registry.bulkRegister names)).1, names, hblank,
        htold.trans (.untold (untold_onRegistry rfl)), isEquipped_onRegistry hequipped _,
        (Except.ok.inj h).symm⟩

theorem isEquipped_of_isShell (h : IsShell settings P s) : s.IsEquipped settings := by
  induction h with
  | built h =>
      obtain ⟨-, u, names, -, -, hequipped, rfl⟩ := parts_of_build h
      clear h
      induction names generalizing u with
      | nil => exact hequipped
      | cons name names ih => exact ih _ (isEquipped_validate hequipped name)
  | defined _ _ register ih => exact isEquipped_define ih _ register

/-- A shell has told nothing but defects of its commands. -/
theorem tells_of_isShell (h : IsShell settings P s) :
    ∃ t : Session, t.IsBlank ∧ Tells False (·.isAside = true) t s := by
  induction h with
  | built h =>
      obtain ⟨t, u, names, hblank, htold, -, rfl⟩ := parts_of_build h
      clear h
      refine ⟨t, hblank, htold.trans ?_⟩
      clear htold
      induction names generalizing u with
      | nil => exact tells_refl u
      | cons name names ih => exact (tells_validate (fun _ => id) u name).trans (ih _)
  | defined _ _ register ih =>
      obtain ⟨t, hblank, htold⟩ := ih
      exact ⟨t, hblank, htold.trans (tells_define (fun _ => id) _ _ register)⟩

theorem alternates_of_isShell (h : IsShell settings P s) : s.Alternates := by
  obtain ⟨t, hblank, htold⟩ := tells_of_isShell h
  refine alternates_of_tells ⟨?_, ?_, ?_⟩ htold
  · intro n hn
    rw [hblank.handed] at hn
    cases hn
  · intro i j _ hi
    rw [hblank.calls] at hi
    cases hi
  · unfold sinceLine
    rw [hblank.calls, hblank.prompt, List.drop_nil]
    rfl

theorem recorded_of_isShell (h : IsShell settings P s) : s.Recorded := by
  obtain ⟨t, hblank, htold⟩ := tells_of_isShell h
  refine recorded_of_tells ⟨?_, ?_, ?_⟩ htold
  · rw [hblank.lines]
    exact List.nil_suffix
  · intro c hc
    rw [hblank.events c hc, hblank.said]
    exact (lastOf_nil _).symm
  · rw [hblank.faults, hblank.said]
    rfl

theorem tells_start (s : Session) {C : Prop} {Q : Remark → Prop} : Tells C Q s s.start :=
  (Tells.untold (untold_startWatch s)).trans (.prompt _)

/-! ## Shells that promise a prompt -/

/-- A peaceful command may be defined. -/
theorem promising_define (h : Promising excuse e₀ s) {d : Definition Program} (hd : d.IsPeaceful)
    (register : Bool) : Promising excuse e₀ (s.define d register).1 := by
  have hvalidate {t : Session} (ht : Promising excuse e₀ t) (name : String) :
      Promising excuse e₀ (t.validate name) := by
    have hkeeps : t.registry.Keeps (t.registry.validate name).registry := by
      unfold Registry.validate
      split
      · exact ⟨rfl, rfl⟩
      · split
        · exact ⟨rfl, rfl⟩
        · exact Registry.keeps_unregister _ _
    have hchecked := promising_onRegistry ht hkeeps
    unfold validate
    split
    · rename_i u p heq
      rw [heq] at hchecked
      have hrendered : Promising excuse e₀ (u.render (.error p.message)) :=
        promising_of_minds hchecked (minds_render u _) rfl rfl
      exact promising_of_eq hrendered rfl rfl rfl rfl rfl rfl rfl rfl rfl rfl
    · rename_i heq
      rw [heq] at hchecked
      exact hchecked
  unfold define
  split
  · exact h
  · rename_i registry hdefine
    have hdefined : Promising excuse e₀ { s with registry } := by
      refine ⟨?_, Registry.definition_define hdefine h.command, h.surface,
        ⟨h.attended.1, h.attended.2, h.attended.3⟩, h.engine, h.run, h.prompts⟩
      intro name d' hget
      rcases Registry.definition_of_define hdefine hget with hget | rfl | rfl
      · exact h.peaceful name d' hget
      · exact hd
      · exact fun v => hd v
    dsimp only
    split
    · exact hvalidate (promising_onRegistry hdefined (Registry.keeps_register _ _)) d.name
    · exact hdefined

/-- **A shell that has been started promises a prompt**, since it opens one. -/
theorem promising_start (h : IsShell settings Definition.IsPeaceful s)
    (hcommandline : .str "commandline" ∈ settings.registered) :
    Promising False s.engine s.start := by
  have hbuilt : Promising True s.engine s := by
    induction h with
    | built hbuild =>
        rename_i s
        obtain ⟨hfurnished, hattended⟩ := furnished_build hbuild hcommandline
        have hstart := isStart_build hbuild
        refine ⟨?_, hfurnished.command, hfurnished.surface, hattended, ?_, ?_,
          fun _ => Or.inl trivial⟩
        · intro name d hget v
          exact Handler.isPeaceful_of_isTame ((hfurnished.tame name d hget).handler v)
        · rw [hstart.moves]
          rfl
        · intro r hr
          rw [hstart.engine.run] at hr
          cases hr
    | defined _ hd register ih =>
        rename_i s d _
        rw [(around_define s d register).engine]
        exact promising_define ih hd register
  obtain ⟨hminds, hengine, hmoves⟩ := minds_startWatch s
  have hwatch := promising_of_minds hbuilt hminds hengine hmoves
  exact promising_of_hasPrompt (promising_requestPrompt hwatch)
    ((minds_requestPrompt _).2 hwatch.surface)

end CommandShell.Session
