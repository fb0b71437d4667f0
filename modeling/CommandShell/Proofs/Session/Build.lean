import CommandShell.Proofs.Command.Names
import CommandShell.Proofs.Session.Tending
import CommandShell.Session.Build

/-!
# Sessions that have just been built

A session that is built has the built-in commands, and those that its settings name are
registered (`furnished_build`). Once it has been started it is tended
(`tended_start`).
-/

namespace CommandShell

/-! ## Registering commands -/

namespace Registry

variable {η : Type} {r r' : Registry η}

/-- The groups of these names have been registered, and nothing else has changed. -/
structure Registers (r r' : Registry η) (names : List String) : Prop where
  definitions : r'.definitions = r.definitions
  groups : r'.groups = r.groups
  stays : r.registered ⊆ r'.registered
  named : ∀ name ∈ names, ∀ group, r.groups.get? name = some group → group ∈ r'.registered

theorem registers_register {name : String} (h : r.groups.has name = true) :
    (r.register name).result = .ok () ∧ Registers r (r.register name).registry [name] := by
  obtain ⟨group, hgroup⟩ := Option.isSome_iff_exists.mp h
  have hnamed {r' : Registry η} (hg : group ∈ r'.registered) :
      ∀ other ∈ [name], ∀ g, r.groups.get? other = some g → g ∈ r'.registered := by
    intro other hother g hget
    obtain rfl := List.mem_singleton.mp hother
    obtain rfl := Option.some.inj (hgroup.symm.trans hget)
    exact hg
  unfold register
  rw [hgroup]
  dsimp only
  split
  · rename_i hmem
    exact ⟨rfl, rfl, rfl, fun _ => id, hnamed hmem⟩
  · exact ⟨rfl, rfl, rfl, List.subset_append_left _ _,
      hnamed (List.mem_append_right _ List.mem_cons_self)⟩

theorem registers_forEach {names : List String} (h : ∀ name ∈ names, r.groups.has name = true) :
    Registers r (forEach register r names).registry names := by
  induction names generalizing r with
  | nil => exact ⟨rfl, rfl, fun _ => id, by rintro _ ⟨⟩⟩
  | cons name names ih =>
      obtain ⟨hok, hone⟩ := registers_register (h name List.mem_cons_self)
      have hmore : Registers (r.register name).registry
          (forEach register (r.register name).registry names).registry names := by
        refine ih fun other hother => ?_
        rw [hone.groups]
        exact h other (List.mem_cons_of_mem _ hother)
      unfold forEach
      dsimp only
      rw [hok]
      refine ⟨hmore.definitions.trans hone.definitions, hmore.groups.trans hone.groups,
        fun _ hg => hmore.stays (hone.stays hg), ?_⟩
      intro other hother group hgroup
      rcases List.mem_cons.mp hother with rfl | hother
      · exact hmore.stays (hone.named _ List.mem_cons_self group hgroup)
      · refine hmore.named other hother group ?_
        rw [hone.groups]
        exact hgroup

theorem registers_bulkRegister {names : List String}
    (h : ∀ name ∈ names, r.groups.has name = true) :
    Registers r (r.bulkRegister names).registry names := by
  unfold bulkRegister bulk
  dsimp only
  split <;> exact registers_forEach h

/-! ## Defining commands -/

/-- Whatever is defined was defined before, or is the new command under one of its
names. -/
theorem definition_of_define {d d' : Definition η} {name : String} (h : r.define d = .ok r')
    (hget : r'.definitions.get? name = some d') :
    r.definitions.get? name = some d' ∨ d' = d ∨ d' = d.renamed name := by
  rw [get?_of_define h] at hget
  split at hget
  · obtain rfl := Option.some.inj hget
    unfold Definition.under
    split
    · exact Or.inr (Or.inr rfl)
    · exact Or.inr (Or.inl rfl)
  · exact Or.inl hget

/-- A new command takes no name that is defined already. -/
theorem definition_define {d d' : Definition η} {name : String} (h : r.define d = .ok r')
    (hget : r.definitions.get? name = some d') : r'.definitions.get? name = some d' := by
  rw [get?_of_define h, if_neg]
  · exact hget
  · intro hmem
    have hfree := (defines_define h).fresh name hmem
    rw [Table.has, hget] at hfree
    cases hfree

end Registry

/-! ## Built-in commands -/

namespace Builtin

theorem isTame_define {r r' : Registry Program} {d : Definition Program} (hr : r.IsTame)
    (hd : d.IsTame) (h : r.define d = .ok r') : r'.IsTame := by
  intro name d' hget
  rcases Registry.definition_of_define h hget with hget | rfl | rfl
  · exact hr name d' hget
  · exact hd
  · exact Definition.isTame_renamed hd name

theorem isTame_defineAll {r : Registry Program} (h : r.IsTame) : (defineAll r).IsTame := by
  have hfold (ds : List (Definition Program)) (hds : ∀ d ∈ ds, d.IsTame) {r : Registry Program}
      (hr : r.IsTame) : (ds.foldl (fun r d => (r.define d).toOption.getD r) r).IsTame := by
    induction ds generalizing r with
    | nil => exact hr
    | cons d ds ih =>
        refine ih (fun d' hd' => hds d' (List.mem_cons_of_mem _ hd')) ?_
        show ((r.define d).toOption.getD r).IsTame
        cases hdefine : r.define d with
        | error f => exact hr
        | ok r' => exact isTame_define hr (hds d List.mem_cons_self) hdefine
  exact hfold all (fun d hd => isTame hd) h

end Builtin

namespace Session

variable {critical : List Value} {s s' s₀ t u : Session}

/-! ## Sessions that have just been built -/

/-- Every name that is asked for is that of a command. -/
theorem has_of_commandNames {r : Registry Program} {vs : List Value} {names : List String}
    (h : commandNames r vs = .ok names) :
    (∀ name ∈ names, r.groups.has name = true) ∧ ∀ name, .str name ∈ vs → name ∈ names := by
  induction vs generalizing names with
  | nil =>
      obtain rfl := Except.ok.inj h
      exact ⟨by rintro _ ⟨⟩, by rintro _ ⟨⟩⟩
  | cons v vs ih =>
      cases v with
      | list items => cases h
      | map entries => cases h
      | scalar x =>
          unfold commandNames at h
          split at h
          · rename_i hx
            cases hmore : commandNames r vs with
            | error f => simp [hmore, Except.map] at h
            | ok more =>
                obtain ⟨hhas, hmem⟩ := ih hmore
                rw [hmore] at h
                obtain rfl := Except.ok.inj h
                refine ⟨List.forall_mem_cons.mpr ⟨hx, hhas⟩, ?_⟩
                intro name hname
                rcases List.mem_cons.mp hname with heq | hname
                · injection heq with heq
                  subst heq
                  exact List.mem_cons_self
                · exact List.mem_cons_of_mem _ (hmem name hname)
          · cases h

/-- Sound commands pass their check. -/
theorem validate_eq (h : s.registry.IsTame) (name : String) : s.validate name = s := by
  have hpasses : ∃ result, s.registry.validate name = s.registry.unchanged result ∧
      ∀ p, result ≠ .error (.defect p) := by
    unfold Registry.validate Registry.definition?
    split
    · exact ⟨_, rfl, by rintro p ⟨⟩⟩
    · rename_i d hd
      split
      · exact ⟨_, rfl, by rintro p ⟨⟩⟩
      · -- a flag without a datatype would not be sound
        rename_i p hp
        have hsound := (h name d hd).flags p (List.mem_of_find?_eq_some hp)
        have hnone := List.find?_some hp
        simp only [Parameter.isSound, Option.isNone_iff_eq_none.mp hnone] at hsound
        cases hsound
  obtain ⟨result, hresult, hno⟩ := hpasses
  have hsame : s.onRegistry (s.registry.unchanged result) = (s, result) := rfl
  unfold validate
  rw [hresult, hsame]
  split
  · rename_i p heq
    obtain ⟨-, rfl⟩ := Prod.mk.inj heq
    exact absurd rfl (hno p)
  · rename_i heq
    exact (Prod.mk.inj heq).1.symm

/-- Their checks change nothing. -/
theorem foldl_validate_eq (h : s.registry.IsTame) (names : List String) :
    names.foldl validate s = s := by
  induction names with
  | nil => rfl
  | cons name names ih =>
      rw [List.foldl_cons, validate_eq h]
      exact ih

/-- The services are initialised and the built-in commands are defined, but none of them
is registered yet. -/
structure IsSetUp (settings : Settings) (s : Session) : Prop where
  registry : s.registry = Builtin.defineAll { life := ⟨true, true⟩ }
  critical : s.watchdog.critical = settings.critical
  watched : ∀ v, v ∈ s.watched
  surface : s.surface.isSome = true
  broken : s.broken = []
  attended : s.Attended

theorem isTame_of_isSetUp {settings : Settings} (h : IsSetUp settings s) : s.registry.IsTame := by
  rw [h.registry]
  refine Builtin.isTame_defineAll ?_
  rintro name d ⟨⟩

/-- Building a session comes down to registering some of the built-in commands. -/
theorem build_cases {settings : Settings} {name : String} {clock : Clock}
    {reports canClear : Bool} (h : build settings name clock reports canClear = .ok s) :
    ∃ t names, IsSetUp settings t ∧ commandNames t.registry settings.registered = .ok names ∧
      s = (t.onRegistry (t.registry.bulkRegister names)).1 := by
  have hinit (order : List Service) (t : Session) : Minds t (t.initAll order) := by
    induction order generalizing t with
    | nil => exact minds_refl t
    | cons v order ih => exact (minds_changeLife t v .init).trans (ih _)
  have hchoice (b : Bool) (v : Service) (t : Session) :
      Minds t (if b = true then t else t.disable v) := by
    cases b with
    | true => exact minds_refl t
    | false => exact (serves_disable t v).toMinds
  unfold build at h
  extract_lets s₁ s₂ s₃ s₄ s₅ s₆ at h
  have hminds : Minds s₁ s₅ :=
    (((hinit _ s₁).trans (hchoice _ _ s₂)).trans (hinit _ s₃)).trans (hchoice _ _ s₄)
  have hattended : s₅.Attended := by
    refine hminds.attended ⟨List.nodup_nil, .nil, ?_⟩
    rintro _ ⟨⟩
  have hregistry : s₅.registry = { life := ⟨true, true⟩ } := by
    have hthird : s₃.registry = {} := by
      show (if settings.diagnostics = true then s₂ else s₂.disable .diagnostics).registry = {}
      split <;> rfl
    have hfourth : s₄.registry = { life := ⟨true, true⟩ } := by
      show { s₃.registry with life := s₃.registry.life.init } = _
      rw [hthird]
      rfl
    show (if settings.watchdog = true then s₄ else s₄.disable .watchdog).registry = _
    split <;> exact hfourth
  have hsixth : s₆ = { s₅ with registry := Builtin.defineAll s₅.registry } := rfl
  -- from here on the built-in commands need not be looked into
  clear_value s₆
  have hsetup : IsSetUp settings s₆ := by
    rw [hsixth]
    refine ⟨by rw [hregistry], hminds.critical, fun v => ?_, hminds.surface, hminds.broken,
      ⟨hattended.1, hattended.2, hattended.3⟩⟩
    have hall : s₅.watched = Service.all := hminds.watched
    show v ∈ s₅.watched
    rw [hall]
    cases v <;> decide
  cases hnames : commandNames s₆.registry settings.registered with
  | error f =>
      rw [hnames] at h
      cases h
  | ok names =>
      rw [hnames] at h
      have hs : names.foldl validate (s₆.onRegistry (s₆.registry.bulkRegister names)).1 = s :=
        Except.ok.inj h
      have htame : (s₆.onRegistry (s₆.registry.bulkRegister names)).1.registry.IsTame := by
        unfold Registry.IsTame
        have hkept := (Registry.registers_bulkRegister (has_of_commandNames hnames).1).definitions
        show ∀ name d, (s₆.registry.bulkRegister names).registry.definitions.get? name = some d → _
        rw [hkept]
        exact isTame_of_isSetUp hsetup
      rw [foldl_validate_eq htame] at hs
      exact ⟨s₆, names, hsetup, hnames, hs.symm⟩

/-- The definitions are those of the built-in commands. -/
theorem definitions_build {settings : Settings} {name : String} {clock : Clock}
    {reports canClear : Bool} (h : build settings name clock reports canClear = .ok s) :
    s.registry.definitions = (Builtin.defineAll { life := ⟨true, true⟩ }).definitions := by
  obtain ⟨t, names, hsetup, hnames, rfl⟩ := build_cases h
  show (t.registry.bulkRegister names).registry.definitions = _
  rw [(Registry.registers_bulkRegister (has_of_commandNames hnames).1).definitions, hsetup.registry]

theorem furnished_build {settings : Settings} {name : String} {clock : Clock}
    {reports canClear : Bool} (h : build settings name clock reports canClear = .ok s)
    (hcommandline : .str "commandline" ∈ settings.registered) :
    Furnished settings.critical s ∧ s.Attended := by
  have hdefinitions := definitions_build h
  obtain ⟨t, names, hsetup, hnames, rfl⟩ := build_cases h
  obtain ⟨hhas, hmem⟩ := has_of_commandNames hnames
  have hregisters := Registry.registers_bulkRegister hhas
  have hgroup : t.registry.groups.get? "commandline" = some "commandline" := by
    rw [hsetup.registry]
    rfl
  have htame : (t.onRegistry (t.registry.bulkRegister names)).1.registry.IsTame := by
    unfold Registry.IsTame
    rw [hdefinitions, ← hsetup.registry]
    exact isTame_of_isSetUp hsetup
  refine ⟨⟨htame, ?_, ?_, ?_, hsetup.surface, hsetup.critical, hsetup.watched, hsetup.broken⟩,
    ⟨hsetup.attended.1, hsetup.attended.2, hsetup.attended.3⟩⟩
  · rw [hdefinitions]
    rfl
  · show (t.registry.bulkRegister names).registry.groups.get? "commandline" = _
    rw [hregisters.groups]
    exact hgroup
  · exact hregisters.named "commandline" (hmem _ hcommandline) "commandline" hgroup

/-- Whether a session is built may be evaluated where the session had better not be. -/
theorem build_of_isOk {settings : Settings} {name : String} {clock : Clock}
    {reports canClear : Bool} (h : (build settings name clock reports canClear).isOk = true) :
    build settings name clock reports canClear =
      .ok ((build settings name clock reports canClear).toOption.getD {}) := by
  cases hbuild : build settings name clock reports canClear with
  | error f =>
      rw [hbuild] at h
      cases h
  | ok s => rfl

theorem minds_startWatch (s : Session) :
    Minds s s.startWatch ∧ s.startWatch.engine = s.engine ∧ s.startWatch.moves = s.moves := by
  unfold startWatch
  split
  · exact ⟨minds_refl s, rfl, rfl⟩
  · refine ⟨⟨rfl, rfl, rfl, rfl, rfl, rfl, rfl, rfl, id, fun ha => ?_, id, id⟩, rfl, rfl⟩
    refine attended_of_eq ha rfl ?_ rfl
    rw [List.filterMap_append]
    exact List.append_nil _

/-- **A session that has been started is tended.** -/
theorem tended_start {settings : Settings} {name : String} {clock : Clock}
    {reports canClear : Bool} (h : build settings name clock reports canClear = .ok s)
    (hcommandline : .str "commandline" ∈ settings.registered) :
    Tended settings.critical s.start := by
  obtain ⟨hfurnished, hattended⟩ := furnished_build h hcommandline
  have hstart := (isStart_build h).engine
  have hkept : Kept settings.critical s := by
    refine ⟨⟨hfurnished, hattended, hstart.initialized⟩, ?_, ?_⟩
    · intro r hr
      rw [hstart.run] at hr
      cases hr
    · rintro ⟨-, -, hqueue⟩
      exact absurd hstart.queue hqueue
  obtain ⟨hwatch, hengine, -⟩ := minds_startWatch s
  have hstarted := kept_of_minds hkept hwatch hengine
  obtain ⟨hminds, hprompt⟩ := minds_requestPrompt s.startWatch
  refine ⟨kept_of_minds hstarted hminds (around_requestPrompt _).engine, ?_⟩
  intro _ _ _
  exact Or.inl (hprompt hstarted.furnished.surface)

end Session

end CommandShell
