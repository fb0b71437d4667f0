import CommandShell.Proofs.Session.Callers
import CommandShell.Proofs.Session.Invocation

/-!
# What built-in commands leave as it is

The handlers of the built-in commands are tame: they hand nothing in, never wait, and
leave alone what can be run. What a session needs in order to open a prompt again is
kept by everything that they ask for (`serves_reply`), and so by the stages of a chain
(`serves_runStages`).
-/

namespace CommandShell

/-! ## Tame handlers -/

/-- A request that hands nothing in, cancels nothing and leaves alone what can be run. -/
def Request.IsTame : Request → Prop
  | .submit _ | .call _ | .register _ | .unregister _ | .addHook _ => False
  | _ => True

/-- A handler that comes to its end at once by tame requests. -/
def Handler.IsTame : Handler → Prop
  | .done _ => True
  | .fail failure => failure ≠ .cancelled
  | .pause _ _ => False
  | .ask r rest => r.IsTame ∧ ∀ answer, (rest answer).IsTame

/-- A flag that can be verified: it has a datatype, and so has its default. -/
def Parameter.isSound (p : Parameter) : Bool := p.datatype.any fun t => !p.hasWrongDefault t

structure Definition.IsTame (d : Definition Program) : Prop where
  handler : ∀ v, (d.handler v).IsTame
  flags : ∀ p ∈ d.flags, p.isSound = true

theorem Definition.isTame_renamed {d : Definition Program} (h : d.IsTame) (other : String) :
    (d.renamed other).IsTame :=
  ⟨h.handler, h.flags⟩

namespace Builtin

theorem isTame_unlessFault {reply : Except Fault Unit} {rest : Handler} (h : rest.IsTame) :
    (Handler.unlessFault reply rest).IsTame := by
  unfold Handler.unlessFault
  split
  · exact h
  · rintro ⟨⟩

theorem isTame_serviceHandler (v : Invocation) : (serviceHandler v).IsTame := by
  have hlogs : (logs v).IsTame := by
    unfold logs
    dsimp only
    split
    · refine ⟨trivial, fun _ => ⟨trivial, fun answer => ?_⟩⟩
      cases answer with
      | ok lines => trivial
      | error f => rintro ⟨⟩
    · refine ⟨trivial, fun answer => ?_⟩
      cases answer with
      | ok lines => trivial
      | error f => rintro ⟨⟩
  have hdisable (requested key : String) : (disable v requested key).IsTame := by
    unfold disable
    split
    · trivial
    · exact ⟨trivial, fun _ => isTame_unlessFault trivial⟩
  have htoggle (enable : Bool) : (toggle v enable).IsTame := by
    unfold toggle
    split
    · trivial
    · refine ⟨trivial, fun states => ?_⟩
      dsimp only
      split
      · trivial
      · split
        · exact ⟨trivial, fun _ => isTame_unlessFault trivial⟩
        · exact hdisable _ _
  unfold serviceHandler
  split
  · exact hlogs
  · exact ⟨trivial, fun _ => trivial⟩
  · exact htoggle _

theorem isTame_findHandler (v : Invocation) : (findHandler v).IsTame := by
  have hfind (pattern : Pattern.Tree) (lines : List Line) : (findIn pattern lines).IsTame := by
    unfold findIn
    split
    · trivial
    · rintro ⟨⟩
  unfold findHandler
  split
  · unfold patternFailure
    split
    · trivial
    · rintro ⟨⟩
    · rintro ⟨⟩
  · split
    · exact hfind _ _
    · exact ⟨trivial, hfind _⟩

/-- **The built-in commands are tame.** -/
theorem isTame {d : Definition Program} (hd : d ∈ all) : d.IsTame := by
  simp only [all, List.mem_cons, List.not_mem_nil, or_false] at hd
  rcases hd with rfl | rfl | rfl | rfl | rfl | rfl | rfl | rfl
  · exact ⟨fun _ => trivial, by decide⟩
  · exact ⟨fun _ => ⟨trivial, fun _ => trivial⟩, by decide⟩
  · exact ⟨fun _ => ⟨trivial, fun _ => trivial⟩, by decide⟩
  · refine ⟨fun v => ?_, by decide⟩
    show (countLines v).IsTame
    unfold countLines
    split
    · trivial
    · exact ⟨trivial, fun _ => trivial⟩
  · refine ⟨fun v => ?_, by decide⟩
    show (helpHandler v).IsTame
    unfold helpHandler
    split
    · exact ⟨trivial, fun _ => trivial⟩
    · exact ⟨trivial, fun _ => trivial⟩
  · exact ⟨fun _ => ⟨trivial, fun _ => ⟨trivial, fun _ => trivial⟩⟩, by decide⟩
  · exact ⟨isTame_serviceHandler, by decide⟩
  · exact ⟨isTame_findHandler, by decide⟩

end Builtin

/-- All commands that are defined are tame. -/
def Registry.IsTame (r : Registry Program) : Prop :=
  ∀ name d, r.definitions.get? name = some d → d.IsTame

/-! ## Verifying tame commands -/

theorem checkFlag_of_isSound {η : Type} {d : Definition η} (h : ∀ p ∈ d.flags, p.isSound = true)
    (command key : String) (value : Value) (problem : Problem) :
    checkFlag command d key value ≠ .error (.definition problem) := by
  unfold checkFlag
  split
  · rintro ⟨⟩
  · rename_i p hp
    have hsound := h p (List.mem_of_find?_eq_some hp)
    unfold Parameter.isSound at hsound
    split
    · rename_i hnone
      rw [hnone] at hsound
      cases hsound
    · rename_i datatype hsome
      rw [hsome] at hsound
      split
      · rintro ⟨⟩
      · split
        · rintro ⟨⟩
        · split
          · rename_i hwrong
            simp [hwrong] at hsound
          · rintro ⟨⟩

theorem checkFlags_of_isSound {η : Type} {d : Definition η} (h : ∀ p ∈ d.flags, p.isSound = true)
    (command : String) (flags : Flags) (problem : Problem) :
    checkFlags command d flags ≠ .error (.definition problem) := by
  induction flags with
  | nil => rintro ⟨⟩
  | cons flag rest ih =>
      obtain ⟨key, value⟩ := flag
      have hone := checkFlag_of_isSound h command key value problem
      unfold checkFlags
      simp only [bind, Except.bind, pure, Except.pure]
      cases hfirst : checkFlag command d key value with
      | error f =>
          intro heq
          have hf : f = .definition problem := Except.error.inj heq
          exact hone (hf ▸ hfirst)
      | ok v =>
          cases hmore : checkFlags command d rest with
          | error f =>
              intro heq
              have hf : f = .definition problem := Except.error.inj heq
              exact ih (hf ▸ hmore)
          | ok vs => rintro ⟨⟩

/-- Verifying an invocation of a sound command changes nothing. -/
theorem Registry.verify_registry {η : Type} {r : Registry η} {name : String}
    (h : ∀ d, r.definitions.get? name = some d → ∀ p ∈ d.flags, p.isSound = true)
    (args : List String) (flags : Flags) : (r.verify name args flags).registry = r := by
  unfold verify definition?
  dsimp only
  split
  · rfl
  · rename_i d hd
    split
    · rfl
    · split
      · rfl
      · split
        · rfl
        · split
          · rfl
          · rfl
          · rfl
          · rename_i p hp
            exact absurd hp (checkFlags_of_isSound (h d hd) _ _ _)

namespace Session

variable {s s' t : Session}

/-! ## What is kept -/

/-- A prompt is open. -/
def hasPrompt (s : Session) : Bool := s.surface.any fun f => f.promptOpen

/-- What can be run and what the watchdog looks after is as it was, a prompt that was
open is open, and callers were woken at most, but none that waits for the end of a
chain. -/
structure Minds (s t : Session) : Prop where
  definitions : t.registry.definitions = s.registry.definitions
  groups : t.registry.groups = s.registry.groups
  registered : t.registry.registered = s.registry.registered
  critical : t.watchdog.critical = s.watchdog.critical
  watched : t.watched = s.watched
  broken : t.broken = s.broken
  surface : t.surface.isSome = s.surface.isSome
  labels : (t.callers.map fun c => c.label) = s.callers.map fun c => c.label
  prompt : s.hasPrompt = true → t.hasPrompt = true
  attended : s.Attended → t.Attended
  pending : s.IsPending → t.IsPending
  awaited : s.IsAwaited → t.IsAwaited

/-- Nothing has happened to the registry, the watchdog's settings, the surface and the
callers. -/
theorem minds_of_eq (hr : t.registry = s.registry) (hw : t.watchdog = s.watchdog)
    (hwatched : t.watched = s.watched) (hb : t.broken = s.broken) (hs : t.surface = s.surface)
    (hc : t.callers = s.callers) (hready : t.ready = s.ready) (ht : t.timers = s.timers) :
    Minds s t := by
  refine ⟨by rw [hr], by rw [hr], by rw [hr], by rw [hw], hwatched, hb, by rw [hs], by rw [hc],
    ?_, ?_, ?_, ?_⟩
  · unfold hasPrompt
    rw [hs]
    exact id
  · exact fun h => attended_of_eq h hc (by rw [hready]) ht
  · unfold IsPending
    rw [hc]
    exact id
  · unfold IsAwaited
    rw [hc]
    exact id

theorem minds_refl (s : Session) : Minds s s := minds_of_eq rfl rfl rfl rfl rfl rfl rfl rfl

theorem Minds.trans {u : Session} (h : Minds s t) (h' : Minds t u) : Minds s u where
  definitions := h'.definitions.trans h.definitions
  groups := h'.groups.trans h.groups
  registered := h'.registered.trans h.registered
  critical := h'.critical.trans h.critical
  watched := h'.watched.trans h.watched
  broken := h'.broken.trans h.broken
  surface := h'.surface.trans h.surface
  labels := h'.labels.trans h.labels
  prompt := h'.prompt ∘ h.prompt
  attended := h'.attended ∘ h.attended
  pending := h'.pending ∘ h.pending
  awaited := h'.awaited ∘ h.awaited

theorem minds_render (s : Session) (line : Line) : Minds s (s.render line) := by
  refine ⟨rfl, rfl, rfl, rfl, rfl, rfl, ?_, rfl, ?_, fun h => ⟨h.1, h.2, h.3⟩, id, id⟩
  · unfold render
    cases s.surface <;> rfl
  · unfold hasPrompt render
    cases s.surface with
    | none => exact id
    | some f => exact id

theorem minds_flush (s : Session) : Minds s s.flush := by
  have hlines (lines : List Line) (t : Session) : Minds t (lines.foldl render t) := by
    induction lines generalizing t with
    | nil => exact minds_refl t
    | cons line lines ih => exact (minds_render t line).trans (ih _)
  have hbuffer : Minds s { s with output := s.output.flush.output } :=
    minds_of_eq rfl rfl rfl rfl rfl rfl rfl rfl
  rw [flush_eq]
  exact (hbuffer.trans (hlines _ _)).trans (minds_of_eq rfl rfl rfl rfl rfl rfl rfl rfl)

/-- A prompt is requested where there is a surface, and then one is open. -/
theorem minds_requestPrompt (s : Session) :
    Minds s s.requestPrompt ∧ (s.surface.isSome = true → s.requestPrompt.hasPrompt = true) := by
  unfold requestPrompt
  split
  · rename_i f hf
    split
    · rename_i hopen
      exact ⟨minds_refl s, fun _ => by simp [hasPrompt, hf, hopen]⟩
    · refine ⟨⟨rfl, rfl, rfl, rfl, rfl, rfl, ?_, rfl, fun _ => rfl, fun h => ⟨h.1, h.2, h.3⟩, id,
        id⟩, fun _ => rfl⟩
      rw [hf]
      rfl
  · rename_i hf
    exact ⟨minds_refl s, fun h => by simp [hf] at h⟩

theorem minds_clearSurface (s : Session) : Minds s s.clearSurface := by
  have hcleared {f : Surface} (hf : s.surface = some f) :
      Minds s { s with surface := some { f with transcript := [] } } := by
    refine ⟨rfl, rfl, rfl, rfl, rfl, rfl, ?_, rfl, ?_, fun h => ⟨h.1, h.2, h.3⟩, id, id⟩
    · rw [hf]
      rfl
    · unfold hasPrompt
      rw [hf]
      exact id
  unfold clearSurface
  split
  · rename_i f hf
    dsimp only
    split
    · exact (hcleared hf).trans (minds_of_eq rfl rfl rfl rfl rfl rfl rfl rfl)
    · exact hcleared hf
  · exact minds_refl s

theorem minds_onEngine (s : Session) (m : Move) : Minds s (s.onEngine m) := by
  have hsame : (s.onEngine m).registry = s.registry ∧ (s.onEngine m).watchdog = s.watchdog ∧
      (s.onEngine m).watched = s.watched ∧ (s.onEngine m).broken = s.broken ∧
      (s.onEngine m).surface = s.surface := by
    unfold onEngine
    dsimp only
    split <;> exact ⟨rfl, rfl, rfl, rfl, rfl⟩
  obtain ⟨hr, hw, hwatched, hb, hs⟩ := hsame
  refine ⟨by rw [hr], by rw [hr], by rw [hr], by rw [hw], hwatched, hb, by rw [hs],
    labels_onEngine s m, ?_, fun h => attended_onEngine h m, fun h => isPending_onEngine h m,
    fun h => isAwaited_onEngine h m⟩
  unfold hasPrompt
  rw [hs]
  exact id

theorem minds_make (s : Session) (c : Call) : Minds s (s.make c) := by
  have hrecorded : Minds s (s.recordAll (s.engine.actions c)) :=
    minds_of_eq rfl rfl rfl rfl rfl rfl rfl rfl
  exact hrecorded.trans (minds_onEngine _ _)

theorem minds_changeLife (s : Session) (v : Service) (step : Lifecycle → Lifecycle) :
    Minds s (s.changeLife v step) := by
  cases v <;> exact ⟨rfl, rfl, rfl, rfl, rfl, rfl, rfl, rfl, id, fun h => ⟨h.1, h.2, h.3⟩, id, id⟩

/-! ## What a chain keeps while it is carried out -/

end Session

/-- A move that hands nothing in and leaves the token of the running chain alone. -/
def Move.IsMild : Move → Prop
  | .call .enable | .call .disable | .invoke _ _ | .handOn _ => True
  | .phase p => p ≠ .fresh
  | _ => False

namespace Session

/-- Moreover the running chain is the same, cancelled or not as it was, and the others
wait for it. -/
structure Serves (s t : Session) : Prop extends Minds s t where
  initialized : t.engine.life.initialized = s.engine.life.initialized
  chain : ∀ r, s.engine.run = some r → ∃ r', t.engine.run = some r' ∧ r'.entry = r.entry ∧
    r'.token = r.token ∧ (r'.phase = .fresh → r.phase = .fresh) ∧
    t.engine.queue = s.engine.queue

theorem serves_of_minds (h : Minds s t) (he : t.engine = s.engine) : Serves s t := by
  refine ⟨h, by rw [he], ?_⟩
  rw [he]
  exact fun r hr => ⟨r, hr, rfl, rfl, id, rfl⟩

theorem serves_refl (s : Session) : Serves s s := serves_of_minds (minds_refl s) rfl

theorem Serves.trans {u : Session} (h : Serves s t) (h' : Serves t u) : Serves s u := by
  refine ⟨h.toMinds.trans h'.toMinds, h'.initialized.trans h.initialized, ?_⟩
  intro r hr
  obtain ⟨r', hr', hentry, htoken, hfresh, hqueue⟩ := h.chain r hr
  obtain ⟨r'', hr'', hentry', htoken', hfresh', hqueue'⟩ := h'.chain r' hr'
  exact ⟨r'', hr'', hentry'.trans hentry, htoken'.trans htoken, hfresh ∘ hfresh',
    hqueue'.trans hqueue⟩

theorem serves_onEngine (s : Session) {m : Move} (hm : m.IsMild) : Serves s (s.onEngine m) := by
  refine ⟨minds_onEngine s m, ?_, fun r hr => ?_⟩
  · rw [onEngine_engine, Engine.initialized_apply]
  · have hrun : (s.engine.apply m).run = some (r.apply m) :=
      Engine.run_apply hr (by rintro _ _ rfl; exact hm)
    have htoken : (r.apply m).token = r.token := by
      cases m with
      | call c => cases c <;> first | rfl | exact hm.elim
      | _ => first | rfl | exact hm.elim
    have hfresh : (r.apply m).phase = .fresh → r.phase = .fresh := by
      cases m with
      | call c => cases c <;> exact id
      | phase phase => exact fun hp => absurd hp hm
      | _ => first | exact id | exact hm.elim
    -- the chains that are not over stay, and the first of them runs on
    have hahead : (s.engine.apply m).ahead = s.engine.ahead := by
      rw [Engine.ahead_apply]
      cases m with
      | call c => cases c <;> first | exact List.append_nil _ | exact hm.elim
      | _ => first | exact List.append_nil _ | exact hm.elim
    rw [onEngine_engine]
    refine ⟨r.apply m, hrun, Run.apply_entry r m, htoken, hfresh, ?_⟩
    simpa [Engine.ahead, Engine.running, hrun, hr, Run.apply_entry] using hahead

theorem serves_enable (s : Session) (v : Service) : Serves s (s.enable v) := by
  cases v with
  | engine =>
      have hrecorded : Serves s (s.recordAll (s.engine.actions .enable)) :=
        serves_of_minds (minds_of_eq rfl rfl rfl rfl rfl rfl rfl rfl) rfl
      exact hrecorded.trans (serves_onEngine _ trivial)
  | _ => exact serves_of_minds (minds_changeLife s _ _) rfl

theorem serves_disable (s : Session) (v : Service) : Serves s (s.disable v) := by
  cases v with
  | engine =>
      have hrecorded : Serves s (s.recordAll (s.engine.actions .disable)) :=
        serves_of_minds (minds_of_eq rfl rfl rfl rfl rfl rfl rfl rfl) rfl
      exact hrecorded.trans (serves_onEngine _ trivial)
  | _ => exact serves_of_minds (minds_changeLife s _ _) rfl

theorem serves_onRegistry {ρ : Type} {step : Registry.Step Program ρ}
    (h : step.registry = s.registry) : Serves s (s.onRegistry step).1 :=
  serves_of_minds (minds_of_eq h rfl rfl rfl rfl rfl rfl rfl) rfl

/-- **Tame requests** keep what a session needs in order to open a prompt. -/
theorem serves_reply {r : Request} (hr : r.IsTame) : Serves s (s.reply r).1 := by
  cases r with
  | enable name =>
      show Serves s (s.enableNamed name).1
      unfold enableNamed
      split
      · exact serves_enable s _
      · exact serves_refl s
  | disable name =>
      show Serves s (s.disableNamed name).1
      unfold disableNamed
      split
      · exact serves_disable s _
      · exact serves_refl s
  | definition name => exact serves_onRegistry (Registry.lookup_registry s.registry name)
  | render line => exact serves_of_minds (minds_render s line) rfl
  | flush => exact serves_of_minds (minds_flush s) (around_flush s).engine
  | clearSurface => exact serves_of_minds (minds_clearSurface s) (around_clearSurface s).engine
  | prompt => exact serves_of_minds (minds_requestPrompt s).1 (around_requestPrompt s).engine
  | submit text => exact hr.elim
  | call c => exact hr.elim
  | register name => exact hr.elim
  | unregister name => exact hr.elim
  | addHook hook => exact hr.elim
  | _ => exact serves_of_minds (minds_of_eq rfl rfl rfl rfl rfl rfl rfl rfl) rfl

end Session

/-! ## The stages of a chain -/

/-- A handler has come to its end. -/
def Stop.IsTame : Stop → Prop
  | .done _ => True
  | .failed failure => failure ≠ .cancelled
  | .paused _ _ => False

/-- A chain has come to its end, and its task was not cancelled. -/
def Stand.IsOver : Stand → Prop
  | .complete _ => True
  | .broken _ failure => failure ≠ .cancelled
  | .paused _ _ => False

namespace Session

theorem serves_runHandler {h : Handler} (hh : h.IsTame) (s : Session) :
    Serves s (runHandler h s).1 ∧ (runHandler h s).2.IsTame := by
  induction h generalizing s with
  | done outcome => exact ⟨serves_refl s, trivial⟩
  | fail failure => exact ⟨serves_refl s, hh⟩
  | pause p rest ih => exact hh.elim
  | ask r rest ih =>
      unfold runHandler
      obtain ⟨hserves, hstop⟩ := ih _ (hh.2 (s.reply r).2) (s.reply r).1
      exact ⟨(serves_reply hh.1).trans hserves, hstop⟩

theorem isTame_of_minds (h : s.registry.IsTame) (hm : Minds s t) : t.registry.IsTame := by
  unfold Registry.IsTame
  rw [hm.definitions]
  exact h

/-- Beginning a stage leaves the registry as it is. -/
theorem serves_beginStage (h : s.registry.IsTame) (f : Fragment) (pipe : Pipe) :
    Serves s (s.beginStage f pipe).1 ∧ (s.beginStage f pipe).1.registry = s.registry ∧
      (∀ failure, (s.beginStage f pipe).2 = .error failure → failure ≠ .cancelled) ∧
      ∀ handler, (s.beginStage f pipe).2 = .ok handler → handler.IsTame := by
  unfold beginStage
  split
  · rename_i s₁ hlookup
    obtain ⟨rfl, -⟩ := Prod.mk.inj hlookup
    have hr := Registry.lookup_registry s.registry f.name
    exact ⟨serves_onRegistry hr, hr, by rintro _ ⟨⟩ ⟨⟩, by rintro _ ⟨⟩⟩
  · rename_i s₁ d hlookup
    obtain ⟨hr₁, hresult⟩ := onRegistry_eq hlookup
    rw [Registry.lookup_registry] at hr₁
    have hs₁ : Serves s s₁ := by
      obtain ⟨rfl, -⟩ := Prod.mk.inj hlookup
      exact serves_onRegistry (Registry.lookup_registry s.registry f.name)
    have htame := h _ _ (Registry.definition_of_lookup hresult)
    have hsound : ∀ d, s₁.registry.definitions.get? f.name = some d →
        ∀ p ∈ d.flags, p.isSound = true :=
      fun d hd => (isTame_of_minds h hs₁.toMinds _ _ hd).flags
    have hverified := Registry.verify_registry hsound f.args f.flags
    have hs₂ {s₂ : Session} {x : Except Numeral.Fault Verification}
        (hverify : s₁.onRegistry (s₁.registry.verify f.name f.args f.flags) = (s₂, x)) :
        Serves s s₂ ∧ s₂.registry = s.registry := by
      obtain ⟨rfl, -⟩ := Prod.mk.inj hverify
      exact ⟨hs₁.trans (serves_onRegistry hverified), hverified.trans hr₁⟩
    split
    · rename_i s₂ fault hverify
      obtain ⟨hs, hr⟩ := hs₂ hverify
      exact ⟨hs, hr, by rintro _ ⟨⟩ ⟨⟩, by rintro _ ⟨⟩⟩
    · rename_i s₂ p hverify
      obtain ⟨hs, hr⟩ := hs₂ hverify
      exact ⟨hs, hr, by rintro _ ⟨⟩ ⟨⟩, by rintro _ ⟨⟩⟩
    · rename_i s₂ flags hverify
      obtain ⟨hs, hr⟩ := hs₂ hverify
      have hrecorded (what : String) : Serves s₂ (s₂.record .engine what) :=
        serves_of_minds (minds_of_eq rfl rfl rfl rfl rfl rfl rfl rfl) rfl
      dsimp only
      split
      · exact ⟨hs.trans (hrecorded _), hr, by rintro _ ⟨⟩ ⟨⟩, by rintro _ ⟨⟩⟩
      · refine ⟨(hs.trans (hrecorded _)).trans (serves_onEngine _ trivial), ?_, by rintro _ ⟨⟩, ?_⟩
        · rw [registry_onEngine]
          exact hr
        · rintro _ ⟨⟩
          exact htame.handler _

theorem serves_carryOn {rest : List Fragment} {next : Pipe → Session → Session × Stand}
    (name : String) (pipe : Pipe) {handler : Handler} (h : s.registry.IsTame) (hh : handler.IsTame)
    (hnext : ∀ pipe t, t.registry.IsTame → Serves t (next pipe t).1 ∧ (next pipe t).2.IsOver) :
    Serves s (carryOn rest next name pipe (runHandler handler s)).1 ∧
      (carryOn rest next name pipe (runHandler handler s)).2.IsOver := by
  obtain ⟨hserves, hstop⟩ := serves_runHandler hh s
  generalize runHandler handler s = there at hserves hstop
  obtain ⟨s₁, stop⟩ := there
  cases stop with
  | failed failure => exact ⟨hserves, hstop⟩
  | paused p handler => exact hstop.elim
  | done outcome =>
      simp only [carryOn]
      cases hpipe : outcome.toPipe name with
      | error failure =>
          refine ⟨hserves, ?_⟩
          rintro rfl
          cases outcome <;> cases hpipe
      | ok result =>
          have hmoved := hserves.trans (serves_onEngine s₁ (m := .handOn result) trivial)
          obtain ⟨hon, hover⟩ := hnext result _ (isTame_of_minds h hmoved.toMinds)
          exact ⟨hmoved.trans hon, hover⟩

/-- **The stages of a chain** come to their end. -/
theorem serves_runStages (fs : List Fragment) (pipe : Pipe) (h : s.registry.IsTame) :
    Serves s (runStages fs pipe s).1 ∧ (runStages fs pipe s).2.IsOver := by
  induction fs generalizing pipe s with
  | nil =>
      unfold runStages
      split
      · exact ⟨serves_refl s, by rintro ⟨⟩⟩
      · exact ⟨serves_refl s, trivial⟩
  | cons f rest ih =>
      unfold runStages
      split
      · exact ⟨serves_of_minds (minds_of_eq rfl rfl rfl rfl rfl rfl rfl rfl) rfl, by rintro ⟨⟩⟩
      · obtain ⟨hbegun, -, hfails, hhandler⟩ := serves_beginStage h f pipe
        generalize s.beginStage f pipe = there at hbegun hfails hhandler
        obtain ⟨s₁, begun⟩ := there
        cases begun with
        | error failure => exact ⟨hbegun, hfails failure rfl⟩
        | ok handler =>
            obtain ⟨hon, hover⟩ := serves_carryOn f.name pipe (isTame_of_minds h hbegun.toMinds)
              (hhandler handler rfl) fun pipe t ht => ih pipe ht
            exact ⟨hbegun.trans hon, hover⟩

/-- While the registry is disabled no stage begins, so it stays disabled. -/
theorem disabled_runStages (fs : List Fragment) (pipe : Pipe)
    (hd : s.registry.life.enabled = false) :
    (runStages fs pipe s).1.registry.life.enabled = false := by
  cases fs with
  | nil =>
      unfold runStages
      split <;> exact hd
  | cons f rest =>
      unfold runStages
      split
      · exact hd
      · have hnone : s.registry.lookup f.name = s.registry.unchanged none := by
          unfold Registry.lookup
          split
          · simp [Registry.isRegistered, hd]
          · rfl
        unfold beginStage onRegistry
        rw [hnone]
        exact hd

end Session

end CommandShell
