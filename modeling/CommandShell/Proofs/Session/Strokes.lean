import CommandShell.Proofs.Session.Healing

/-!
# One stroke after the other

Whatever happens to a session with the built-in commands is made of strokes (`Stroke`):
somebody hands in a line or interrupts, the watchdog looks around, and the running chain
begins, executes its fragments one by one, and comes to its end (`strokes_of_run`). What
is enabled stays so behind every stroke but the execution of a fragment
(`upholds_of_stroke`).
-/

namespace CommandShell

/-! ## The built-in commands by name -/

namespace Builtin

/-- What the built-in commands are, each under its own name and its other one. -/
def definitions : Table (Definition Program) := [
  ("print", print), ("obuffer", obuffer), ("commandline", commandline),
  ("linecount", linecount), ("lc", linecount.renamed "lc"), ("help", help),
  ("clear", clear), ("cls", clear.renamed "cls"), ("service", service),
  ("findtext", findtext), ("find", findtext.renamed "find")]

theorem definitions_defineAll :
    (defineAll { life := ⟨true, true⟩ }).definitions = definitions := rfl

end Builtin

/-- A move after which the running chain does not wait for anything, and nothing more is
called when it is cancelled. -/
def Move.IsPlain : Move → Prop
  | .hook _ | .phase (.suspended _) => False
  | _ => True

/-- The running chain does not wait for anything, and nothing is called when it is
cancelled. -/
structure Run.IsPlain (r : Run) : Prop where
  hooks : r.token.hooks = []
  phase : ∀ p, r.phase ≠ .suspended p

namespace Run

theorem isPlain_start (x : Entry) : (Run.start x).IsPlain := ⟨rfl, by rintro p ⟨⟩⟩

theorem isPlain_apply {r : Run} (h : r.IsPlain) {m : Move} (hm : m.IsPlain) :
    (r.apply m).IsPlain := by
  have hcancel (reason : Option String) : (r.token.cancel reason).1.hooks = [] := by
    unfold Token.cancel
    split
    · exact h.hooks
    · rfl
  cases m with
  | call c =>
      cases c with
      | interrupt reason => exact ⟨hcancel reason, h.phase⟩
      | cancel reason => exact ⟨hcancel reason, h.phase⟩
      | _ => exact h
  | hook hook => exact hm.elim
  | release =>
      have hphase : r.release = { r with released := true } := by
        unfold release
        split
        · rename_i p hp
          exact absurd hp (h.phase p)
        · rfl
      show r.release.IsPlain
      rw [hphase]
      exact ⟨h.hooks, h.phase⟩
  | phase phase =>
      refine ⟨h.hooks, ?_⟩
      rintro p hp
      obtain rfl : phase = .suspended p := hp
      exact hm
  | _ => exact ⟨h.hooks, h.phase⟩

end Run

namespace Session

variable {s s' t u : Session}

/-! ## Strokes -/

/-- The fragment is accepted, and its handler is carried out. -/
inductive Executes (s : Session) (f : Fragment) : Session → Prop
  | of {pipe : Pipe} {handler : Handler} {t : Session}
      (h : s.beginStage f pipe = (t, .ok handler)) : Executes s f (runHandler handler t).1

/-- One piece of what a session does. -/
inductive Stroke (s : Session) : Session → Prop
  | start : Stroke s s.start
  | stopWatch : Stroke s s.stopWatch
  | line (text : String) : Stroke s (s.enqueueLine text).2
  | interrupt (reason : Option String) : Stroke s (s.interrupt reason)
  /-- A caller takes what there is or waits, begins to wait, or goes on. -/
  | attend (label : Nat) (errand : Errand) : Stroke s (s.attend label errand)
  | await (label : Nat) (awaits : Until) (errand : Errand) :
      Stroke s (s.await label awaits errand)
  | resume (label : Nat) : Stroke s (s.resumeCaller label)
  /-- The watchdog looks around, with or without the next look to wait for, or waits for
  the next one. -/
  | look : Stroke s s.check.1
  | watch : Stroke s s.watch
  | arm : Stroke s s.arm
  | clock (now : Rat) : Stroke s { s with now }
  | release : Stroke s s.release
  | take {job : Job} {t : Session} (h : Takes s job t) : Stroke s t
  /-- The running chain begins. -/
  | begin {r : Run} (h : s.engine.run = some r) :
      Stroke s ((s.setPhase .active).report .engine .info "chain started"
        [("chain", .str r.entry.label)])
  /-- One of its fragments is refused, or is executed and hands on what it has brought. -/
  | refuse {f : Fragment} {pipe : Pipe} {failure : Failure} {t : Session}
      (h : s.beginStage f pipe = (t, .error failure)) : Stroke s t
  | execute {f : Fragment} {t : Session} (h : Executes s f t) : Stroke s t
  | handOn (result : Pipe) : Stroke s (s.onEngine (.handOn result))
  /-- It heeds an interruption, comes to its end, or is over. -/
  | heed : Stroke s (s.record .engine s!"chainAborted {s.label}")
  | conclude {stand : Stand} (h : stand.IsOver) : Stroke s (s.conclude stand)
  | finish (status : Status) (result : Pipe) : Stroke s (s.finish status result)

/-- Strokes in any order. -/
abbrev Strokes : Session → Session → Prop := Relation.ReflTransGen Stroke

/-! ## What strokes leave as it is -/

/-- Only the built-in commands are defined, and the running chain is plain. -/
structure IsPlain (s : Session) : Prop where
  definitions : s.registry.definitions = Builtin.definitions
  run : ∀ r, s.engine.run = some r → r.IsPlain

/-- What is enabled stays so, and so does a session that is plain. -/
structure Upholds (s t : Session) : Prop where
  enabled : ∀ v, s.isEnabled v = true → t.isEnabled v = true
  plain : s.IsPlain → t.IsPlain

theorem upholds_refl (s : Session) : Upholds s s := ⟨fun _ => id, id⟩

theorem Upholds.trans (h : Upholds s t) (h' : Upholds t u) : Upholds s u :=
  ⟨fun v => h'.enabled v ∘ h.enabled v, h'.plain ∘ h.plain⟩

theorem upholds_of_eq (hlife : ∀ v, t.lifeOf v = s.lifeOf v)
    (hd : t.registry.definitions = s.registry.definitions)
    (hr : t.engine.run = s.engine.run) : Upholds s t where
  enabled v hv := by
    unfold isEnabled
    rw [hlife v]
    exact hv
  plain h := by
    refine ⟨hd.trans h.definitions, ?_⟩
    rw [hr]
    exact h.run

theorem upholds_of_steady (h : Steady s t) (he : t.engine = s.engine) : Upholds s t :=
  upholds_of_eq h.life h.definitions (by rw [he])

/-! ### The engine -/

theorem isPlain_onEngine (h : s.IsPlain) {m : Move} (hm : m.IsPlain) : (s.onEngine m).IsPlain := by
  constructor
  · rw [registry_onEngine]
    exact h.definitions
  · intro r hr
    rw [onEngine_engine] at hr
    rcases Engine.run_apply_cases hr with ⟨r₀, hr₀, rfl⟩ | ⟨x, rfl⟩
    · exact Run.isPlain_apply (h.run r₀ hr₀) hm
    · exact Run.isPlain_start x

theorem upholds_onEngine (s : Session) {m : Move} (hm : m.IsPlain) (hoff : m ≠ .call .disable) :
    Upholds s (s.onEngine m) := by
  refine ⟨fun v hv => ?_, fun h => isPlain_onEngine h hm⟩
  unfold isEnabled
  rw [(steady_moved s m).life v]
  cases v with
  | engine =>
      show (s.engine.apply m).life.enabled = true
      rw [Engine.life_apply]
      split
      · rfl
      · exact absurd rfl hoff
      · exact hv
  | _ => exact hv

theorem upholds_make (s : Session) {c : Call} (hc : c ≠ .disable) : Upholds s (s.make c) := by
  have hmoved := upholds_onEngine (s.recordAll (s.engine.actions c)) (m := .call c) trivial
    (by rintro ⟨⟩; exact hc rfl)
  exact (upholds_of_steady (steady_recordAll s _) rfl).trans hmoved

theorem upholds_enable (s : Session) (v : Service) : Upholds s (s.enable v) := by
  cases v with
  | engine => exact upholds_make s (by rintro ⟨⟩)
  | _ =>
      refine ⟨fun w hw => ?_, fun h => ⟨h.definitions, h.run⟩⟩
      unfold isEnabled
      rw [lifeOf_enable]
      split
      · rfl
      · exact hw

theorem upholds_finish (s : Session) (status : Status) (result : Pipe) :
    Upholds s (s.finish status result) := by
  have hended := upholds_onEngine s (m := .finish status result) trivial (by rintro ⟨⟩)
  exact hended.trans (upholds_of_steady (steady_wake _ _) rfl)

/-! ### Lines and interruptions -/

theorem upholds_enqueueLine (s : Session) (text : String) :
    Upholds s (s.enqueueLine text).2 := by
  have hchains (chains : List Chain) (t : Session) :
      Upholds t (chains.foldl (fun s c => s.make (.enqueue c)) t) := by
    induction chains generalizing t with
    | nil => exact upholds_refl t
    | cons c chains ih => exact (upholds_make t (by rintro ⟨⟩)).trans (ih _)
  have hclosed : Upholds s s.closePrompt :=
    upholds_of_eq (fun v => by cases v <;> rfl) rfl rfl
  rw [enqueueLine_eq]
  exact hclosed.trans (hchains _ _)

theorem upholds_interrupt (h : s.IsPlain) (reason : Option String) :
    Upholds s (s.interrupt reason) := by
  rw [interrupt_eq_make fun r hr => (h.run r hr).hooks]
  exact upholds_make s (by rintro ⟨⟩)

/-! ### Callers -/

theorem upholds_requestPrompt (s : Session) : Upholds s s.requestPrompt :=
  upholds_of_steady (steady_requestPrompt s) (around_requestPrompt s).engine

theorem upholds_recover (s : Session) : Upholds s s.recover := by
  have hflushed : Upholds s s.flush := upholds_of_steady (steady_flush s) (around_flush s).engine
  have hadvanced : Upholds s.flush s.flush.advance := upholds_make _ (by rintro ⟨⟩)
  exact (hflushed.trans hadvanced).trans (upholds_requestPrompt _)

theorem upholds_await (s : Session) (label : Nat) (awaits : Until) (errand : Errand) :
    Upholds s (s.await label awaits errand) :=
  upholds_of_eq (fun v => by cases v <;> rfl) rfl rfl

theorem upholds_answerCaller (s : Session) (label : Nat) (result : Pipe) :
    Upholds s (s.answerCaller label result) :=
  upholds_of_eq (fun v => by cases v <;> rfl) rfl rfl

theorem upholds_attend (s : Session) (label : Nat) (errand : Errand) :
    Upholds s (s.attend label errand) := by
  have hjoin (result : Pipe) : Upholds s (s.join label result) := by
    unfold join
    split
    · exact upholds_await s _ _ _
    · exact upholds_answerCaller s _ _
  cases errand with
  | collect id =>
      unfold attend
      dsimp only
      split
      · exact upholds_answerCaller s _ _
      · exact upholds_await s _ _ _
  | execute id =>
      unfold attend
      dsimp only
      split
      · exact hjoin _
      · exact upholds_await s _ _ _
  | join result => exact hjoin result
  | recover => exact (upholds_recover s).trans (upholds_answerCaller _ label none)

theorem upholds_resumeCaller (s : Session) (label : Nat) : Upholds s (s.resumeCaller label) := by
  unfold resumeCaller
  split
  · have hgone : Upholds s { s with callers := s.callers.filter fun c => c.label ≠ label } :=
      upholds_of_eq (fun v => by cases v <;> rfl) rfl rfl
    exact hgone.trans (upholds_attend _ _ _)
  · exact upholds_refl s

/-! ### The watchdog -/

theorem upholds_checkService (s : Session) (v : Value) : Upholds s (s.checkService v).1 := by
  rcases checkService_cases s v with ⟨f, hone, -⟩ | ⟨hone, -, -⟩ | ⟨w, -, -, -, hone⟩
  · rw [hone]
    exact upholds_refl s
  · rw [hone]
    exact upholds_refl s
  · rw [hone]
    have hafter := upholds_of_steady (steady_recovered (s.enable w) w.name)
      (around_recovered (s.enable w) w.name).engine
    exact (upholds_enable s w).trans hafter

theorem upholds_checkServices (s : Session) (vs : List Value) :
    Upholds s (s.checkServices vs).1 := by
  induction vs generalizing s with
  | nil => exact upholds_refl s
  | cons v vs ih =>
      have hone := upholds_checkService s v
      unfold checkServices
      split
      · rename_i heq
        rw [heq] at hone
        exact hone
      · rename_i heq
        rw [heq] at hone
        dsimp only
        split <;> exact hone.trans (ih _)

theorem upholds_check (s : Session) : Upholds s s.check.1 := by
  have hall := upholds_checkServices s s.watchdog.critical
  unfold check
  split
  · exact upholds_refl s
  · split
    · rename_i heq
      rw [heq] at hall
      dsimp only
      split
      · exact hall
      · exact hall.trans (upholds_requestPrompt _)
    · rename_i heq
      rw [heq] at hall
      exact hall

theorem upholds_arm (s : Session) : Upholds s s.arm := by
  refine ⟨fun v hv => ?_, fun h => ?_⟩
  · rw [isEnabled_arm]
    exact hv
  · unfold arm
    split
    · exact h
    · split <;> exact ⟨h.definitions, h.run⟩

theorem upholds_report (s : Session) (service : Service) (level : Level) (message : String)
    (more : Table Value) : Upholds s (s.report service level message more) :=
  upholds_of_eq (fun v => by cases v <;> rfl) rfl rfl

theorem upholds_watch (s : Session) : Upholds s s.watch := by
  have hlooked := upholds_check s
  unfold watch
  split
  · rename_i heq
    rw [heq] at hlooked
    exact hlooked.trans (upholds_arm _)
  · rename_i heq
    rw [heq] at hlooked
    exact (hlooked.trans (upholds_report _ _ _ _ _)).trans (upholds_arm _)

theorem upholds_start (s : Session) : Upholds s s.start := by
  have hwatch : Upholds s s.startWatch := by
    unfold startWatch
    split
    · exact upholds_refl s
    · exact upholds_of_eq (fun v => by cases v <;> rfl) rfl rfl
  exact hwatch.trans (upholds_requestPrompt _)

/-! ### The running chain -/

theorem upholds_onRegistry {ρ : Type} {step : Registry.Step Program ρ} {result : ρ}
    (hk : s.registry.Keeps step.registry) (h : s.onRegistry step = (t, result)) :
    Upholds s t := by
  obtain ⟨rfl, -⟩ := Prod.mk.inj h
  exact upholds_of_steady (steady_onRegistry hk) rfl

/-- Beginning a stage calls its handler at most, which is not carried out yet. -/
theorem upholds_of_beginStage {f : Fragment} {pipe : Pipe} {result : Except Failure Handler}
    (h : s.beginStage f pipe = (t, result)) : Upholds s t := by
  have hlook : s.registry.Keeps (s.registry.lookup f.name).registry := by
    rw [Registry.lookup_registry]
    exact ⟨rfl, rfl⟩
  have hverified {s₁ s₂ : Session} {x : Except Numeral.Fault Verification}
      (hv : s₁.onRegistry (s₁.registry.verify f.name f.args f.flags) = (s₂, x)) :
      Upholds s₁ s₂ := upholds_onRegistry (Registry.keeps_verify _ _ _ _) hv
  have hrecorded (u : Session) (what : String) : Upholds u (u.record .engine what) :=
    upholds_of_steady (steady_record u _ _) rfl
  unfold beginStage at h
  split at h
  · rename_i hlookup
    obtain ⟨rfl, -⟩ := Prod.mk.inj h
    exact upholds_onRegistry hlook hlookup
  · rename_i hlookup
    have hlooked := upholds_onRegistry hlook hlookup
    split at h
    · rename_i hverify
      obtain ⟨rfl, -⟩ := Prod.mk.inj h
      exact hlooked.trans (hverified hverify)
    · rename_i hverify
      obtain ⟨rfl, -⟩ := Prod.mk.inj h
      exact hlooked.trans (hverified hverify)
    · rename_i hverify
      have hadmitted := hlooked.trans (hverified hverify)
      dsimp only at h
      split at h
      · obtain ⟨rfl, -⟩ := Prod.mk.inj h
        exact hadmitted.trans (hrecorded _ _)
      · obtain ⟨rfl, -⟩ := Prod.mk.inj h
        exact (hadmitted.trans (hrecorded _ _)).trans (upholds_onEngine _ trivial (by rintro ⟨⟩))

theorem upholds_setPhase (s : Session) {phase : Phase} (h : ∀ p, phase ≠ .suspended p) :
    Upholds s (s.setPhase phase) := by
  refine upholds_onEngine s ?_ (by rintro ⟨⟩)
  cases phase with
  | suspended p => exact absurd rfl (h p)
  | _ => trivial

theorem upholds_begin (s : Session) (label : String) :
    Upholds s ((s.setPhase .active).report .engine .info "chain started"
      [("chain", .str label)]) :=
  (upholds_setPhase s (by rintro p ⟨⟩)).trans (upholds_report _ _ _ _ _)

theorem upholds_fail (s : Session) (pipe : Pipe) {failure : Failure} (hf : failure ≠ .cancelled) :
    Upholds s (s.fail pipe failure) := by
  obtain ⟨t, hwrites, heq⟩ := fail_eq_finish hf s pipe
  rw [heq]
  exact (upholds_of_steady (steady_of_writes hwrites) (around_of_writes hwrites).engine).trans
    (upholds_finish _ _ _)

theorem upholds_conclude (s : Session) {stand : Stand} (h : stand.IsOver) :
    Upholds s (s.conclude stand) := by
  cases stand with
  | paused p rest => exact h.elim
  | broken pipe failure => exact upholds_fail s pipe h
  | complete pipe =>
      have htold : Upholds s ((s.addOutput (pipe.getD [])).report .engine .info "chain completed"
          [("chain", .str s.label)]) :=
        (upholds_of_steady (steady_addOutput s _) rfl).trans (upholds_report _ _ _ _ _)
      have hpacing (u : Session) : Upholds u (u.setPhase (.pacing pipe)) :=
        upholds_setPhase u (by rintro p ⟨⟩)
      show Upholds s (s.complete pipe)
      unfold complete
      dsimp only
      split
      · exact htold.trans (upholds_fail _ _ (by rintro ⟨⟩))
      · exact htold.trans (upholds_finish _ _ _)
      · exact htold.trans (hpacing _)
      · exact (htold.trans (hpacing _)).trans
          (upholds_of_eq (fun v => by cases v <;> rfl) rfl rfl)

/-- **Nothing but the execution of a fragment disables a service.** -/
theorem upholds_of_stroke (hp : s.IsPlain) (h : Stroke s t) :
    Upholds s t ∨ ∃ f, Executes s f t := by
  cases h with
  | execute h => exact Or.inr ⟨_, h⟩
  | start => exact Or.inl (upholds_start s)
  | stopWatch => exact Or.inl (upholds_of_eq (fun v => by cases v <;> rfl) rfl rfl)
  | line text => exact Or.inl (upholds_enqueueLine s text)
  | interrupt reason => exact Or.inl (upholds_interrupt hp reason)
  | attend label errand => exact Or.inl (upholds_attend s label errand)
  | await label awaits errand => exact Or.inl (upholds_await s label awaits errand)
  | resume label => exact Or.inl (upholds_resumeCaller s label)
  | look => exact Or.inl (upholds_check s)
  | watch => exact Or.inl (upholds_watch s)
  | arm => exact Or.inl (upholds_arm s)
  | clock now => exact Or.inl (upholds_of_eq (fun v => by cases v <;> rfl) rfl rfl)
  | release => exact Or.inl (upholds_onEngine s trivial (by rintro ⟨⟩))
  | take h =>
      left
      cases h <;> exact upholds_of_eq (fun v => by cases v <;> rfl) rfl rfl
  | begin h => exact Or.inl (upholds_begin s _)
  | refuse h => exact Or.inl (upholds_of_beginStage h)
  | handOn result => exact Or.inl (upholds_onEngine s trivial (by rintro ⟨⟩))
  | heed => exact Or.inl (upholds_of_steady (steady_record s _ _) rfl)
  | conclude h => exact Or.inl (upholds_conclude s h)
  | finish status result => exact Or.inl (upholds_finish s status result)

/-! ### Executions -/

/-- Tame requests leave a session plain, and only one of them disables anything. -/
theorem isPlain_disableNamed (h : s.IsPlain) (name : String) : (s.disableNamed name).1.IsPlain := by
  unfold disableNamed
  split
  · rename_i v hv
    cases v with
    | engine =>
        have hrecorded := steady_recordAll s (s.engine.actions .disable)
        exact isPlain_onEngine ((upholds_of_steady hrecorded rfl).plain h) trivial
    | _ => exact ⟨h.definitions, h.run⟩
  · exact h

theorem upholds_reply {r : Request} (hr : r.IsTame) (hoff : ∀ name, r ≠ .disable name) :
    Upholds s (s.reply r).1 := by
  cases r with
  | enable name =>
      show Upholds s (s.enableNamed name).1
      unfold enableNamed
      split
      · exact upholds_enable s _
      · exact upholds_refl s
  | disable name => exact absurd rfl (hoff name)
  | definition name =>
      refine upholds_onRegistry ?_ rfl
      rw [Registry.lookup_registry]
      exact ⟨rfl, rfl⟩
  | flush => exact upholds_of_steady (steady_flush s) (around_flush s).engine
  | clearOutput => exact upholds_of_steady (steady_clearOutput s) rfl
  | clearSurface => exact upholds_of_steady (steady_clearSurface s) (around_clearSurface s).engine
  | prompt => exact upholds_requestPrompt s
  | submit text => exact hr.elim
  | call c => exact hr.elim
  | register name => exact hr.elim
  | unregister name => exact hr.elim
  | addHook hook => exact hr.elim
  | _ => exact upholds_of_eq (fun v => by cases v <;> rfl) rfl rfl

theorem isPlain_runHandler {handler : Handler} (hh : handler.IsTame) (h : s.IsPlain) :
    (runHandler handler s).1.IsPlain := by
  induction handler generalizing s with
  | done outcome => exact h
  | fail failure => exact h
  | pause p rest ih => exact hh.elim
  | ask r rest ih =>
      refine ih _ (hh.2 _) ?_
      by_cases hoff : ∃ name, r = .disable name
      · obtain ⟨name, rfl⟩ := hoff
        exact isPlain_disableNamed h name
      · exact (upholds_reply hh.1 fun name hname => hoff ⟨name, hname⟩).plain h

/-- Only tame commands are defined. -/
theorem isTame_of_isPlain (h : s.IsPlain) : s.registry.IsTame := by
  unfold Registry.IsTame
  rw [h.definitions, ← Builtin.definitions_defineAll]
  refine Builtin.isTame_defineAll ?_
  rintro name d ⟨⟩

theorem isPlain_of_executes (h : s.IsPlain) {f : Fragment} (he : Executes s f t) : t.IsPlain := by
  obtain ⟨hbegins⟩ := he
  have hhandler := (serves_beginStage (isTame_of_isPlain h) f _).2.2.2 _ (congrArg Prod.snd hbegins)
  exact isPlain_runHandler hhandler ((upholds_of_beginStage hbegins).plain h)

/-- **Every stroke leaves a session plain.** -/
theorem isPlain_of_stroke (h : s.IsPlain) (hs : Stroke s t) : t.IsPlain := by
  rcases upholds_of_stroke h hs with hupholds | ⟨f, he⟩
  · exact hupholds.plain h
  · exact isPlain_of_executes h he

theorem isPlain_of_strokes (h : s.IsPlain) (hs : Strokes s t) : t.IsPlain := by
  induction hs with
  | refl => exact h
  | tail _ hstep ih => exact isPlain_of_stroke ih hstep

/-! ## What happens is made of strokes -/

/-- The stages of a chain are executed one by one. -/
theorem strokes_runStages (fs : List Fragment) (pipe : Pipe) (s : Session) :
    Strokes s (runStages fs pipe s).1 := by
  induction fs generalizing pipe s with
  | nil =>
      unfold runStages
      split <;> exact .refl
  | cons f rest ih =>
      unfold runStages
      split
      · exact .single .heed
      · generalize hbegins : s.beginStage f pipe = there
        obtain ⟨t, result⟩ := there
        cases result with
        | error failure => exact .single (.refuse hbegins)
        | ok handler =>
            have hexecuted : Stroke s (runHandler handler t).1 := .execute (.of hbegins)
            dsimp only
            generalize runHandler handler t = stopped at hexecuted
            obtain ⟨u, stop⟩ := stopped
            cases stop with
            | failed failure => exact .single hexecuted
            | paused p waiting => exact .single hexecuted
            | done outcome =>
                simp only [carryOn]
                split
                · exact (Relation.ReflTransGen.single hexecuted).tail (.handOn _) |>.trans (ih _ _)
                · exact .single hexecuted

theorem strokes_runChain (h : s.IsPlain) : Strokes s s.runChain := by
  cases hr : s.engine.run with
  | none =>
      unfold runChain
      rw [hr]
  | some r =>
      by_cases hactive : r.phase = .active
      · have hnothing : s.runChain = s := by
          unfold runChain
          rw [hr]
          dsimp only
          rw [hactive]
        rw [hnothing]
      · rcases runChain_cases hr hactive with ⟨result, -, heq⟩ | ⟨hpacing, heq⟩
        · rw [heq]
          exact .single (.finish .completed result)
        · rcases proceed_cases s hactive hpacing with ⟨p, hp, -⟩ | ⟨-, hproceed⟩
          · exact absurd hp ((h.run r hr).phase p)
          · have hbegun := (upholds_begin s r.entry.label).plain h
            obtain ⟨-, hover⟩ :=
              serves_runStages r.entry.chain.fragments none (isTame_of_isPlain hbegun)
            have hbegin : Strokes s _ := .single (.begin hr)
            rw [heq, hproceed]
            exact (hbegin.trans (strokes_runStages _ _ _)).tail (.conclude hover)

/-- Somebody hands in a line or interrupts, work is done, or the watchdog is started or
stopped, or is made to look around. -/
inductive Occurs (s : Session) : Session → Prop
  | happens {s' : Session} (h : Happens s s') : Occurs s s'
  | interrupt (reason : Option String) : Occurs s (s.interrupt reason)
  | start : Occurs s s.start
  | stopWatch : Occurs s s.stopWatch
  | look : Occurs s s.check.1

theorem strokes_handsIn {text : String} (h : HandsIn s text t) : Strokes s t := by
  cases h with
  | submit => exact .single (.line text)
  | execute hnew =>
      have hline : Strokes s (s.enqueueLine text).2 := .single (.line text)
      unfold execute
      split
      · rename_i heq
        rw [heq] at hline
        exact hline.tail (.attend _ _)
      · rename_i heq
        rw [heq] at hline
        exact hline.tail (.attend _ _)

theorem strokes_works (h : s.IsPlain) (hw : Works s t) : Strokes s t := by
  cases hw with
  | clock now => exact .single (.clock now)
  | release => exact .single .release
  | job htakes =>
      rename_i job u
      have htaken : Strokes s u := .single (.take htakes)
      cases job with
      | chain => exact htaken.trans (strokes_runChain (isPlain_of_strokes h htaken))
      | caller label => exact htaken.tail (.resume label)
      | watch => exact htaken.tail .watch
      | arm => exact htaken.tail .arm

theorem strokes_of_occurs (h : s.IsPlain) (ho : Occurs s t) : Strokes s t := by
  cases ho with
  | interrupt reason => exact .single (.interrupt reason)
  | start => exact .single .start
  | stopWatch => exact .single .stopWatch
  | look => exact .single .look
  | happens hh =>
      cases hh with
      | line hline => exact strokes_handsIn hline
      | work hworks => exact strokes_works h hworks
      | interruption hinterrupts =>
          obtain ⟨-, reason⟩ := hinterrupts
          have hinterrupted : Strokes s (s.interrupt reason) := .single (.interrupt reason)
          unfold interruptAndRecover
          dsimp only
          split
          · exact hinterrupted.tail (.await _ _ _)
          · exact hinterrupted.tail (.attend _ _)

/-- **Whatever happens is made of strokes**, one after the other. -/
theorem strokes_of_run (h : s.IsPlain) (hrun : Relation.ReflTransGen Occurs s t) :
    Strokes s t := by
  induction hrun with
  | refl => exact .refl
  | tail _ hstep ih => exact ih.trans (strokes_of_occurs (isPlain_of_strokes h ih) hstep)

theorem isPlain_build {settings : Settings} {name : String} {clock : Clock}
    {reports canClear : Bool} (h : build settings name clock reports canClear = .ok s) :
    s.IsPlain := by
  refine ⟨(definitions_build h).trans Builtin.definitions_defineAll, fun r hr => ?_⟩
  rw [(isStart_build h).engine.run] at hr
  cases hr

end Session

end CommandShell
