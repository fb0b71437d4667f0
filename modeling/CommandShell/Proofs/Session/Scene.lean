import CommandShell.Proofs.Command.Registration
import CommandShell.Proofs.Session.Invocation

/-!
# What commands see and change

A handler that asks for nothing but the registry, the output and the surface is local,
and what these are is the scene of a session. On scenes a chain runs at once
(`Scene.chain`): no pause takes time, and there is no engine. A session that carries
out a local chain does the same to its scene, whenever its handlers pause
(`follows_runHandler`, `follows_runStages`).
-/

namespace CommandShell

/-! ## Local handlers -/

/-- `P` tells of all effects of a hook. -/
def Hook.Brings {ε : Type} (P : ε → Prop) : Hook ε → Prop
  | .stop | .fail _ => True
  | .effect e rest => P e ∧ rest.Brings P
  | .add hook rest => hook.Brings P ∧ rest.Brings P
  | .cancel _ rest => rest.Brings P

/-- A reaction that hands nothing in and calls nobody. -/
def Reaction.IsQuiet : Reaction → Prop
  | .note _ | .release _ => True
  | .submit _ | .call _ => False

/-- The reply depends on the scene, and nothing but the scene is changed that another
reply depends on. -/
def Request.IsLocal : Request → Prop
  | .submit _ | .call _ | .enable _ | .disable _ | .services | .logLines => False
  | .addHook hook => hook.Brings Reaction.IsQuiet
  | _ => True

/-- All that a handler asks for is local, whatever the replies are. -/
def Handler.IsLocal : Handler → Prop
  | .done _ | .fail _ => True
  | .pause _ rest => rest.IsLocal
  | .ask r rest => r.IsLocal ∧ ∀ answer, (rest answer).IsLocal

/-- The handlers of the command that a fragment names are local. -/
def Fragment.IsLocal (f : Fragment) (definitions : Table (Definition Program)) : Prop :=
  ∀ d, definitions.get? f.name = some d → ∀ v, (d.handler v).IsLocal

section Hooks

variable {ε : Type} {P : ε → Prop}

/-- `P` tells of what an effect is, and a report is none. -/
def Deed.IsOf (P : ε → Prop) : Deed ε → Prop
  | .effect e => P e
  | .report _ => True

theorem isOf_of_reported {c : Calls ε} (h : ∀ deed ∈ c.deeds, deed.IsOf P) (reports : Bool) :
    ∀ deed ∈ (c.reported reports).deeds, deed.IsOf P := by
  unfold Calls.reported
  split
  · split
    · intro deed hdeed
      rcases List.mem_append.mp hdeed with hdeed | hdeed
      · exact h deed hdeed
      · obtain rfl := List.mem_singleton.mp hdeed
        trivial
    · exact h
  · exact h

theorem isOf_of_call {hook : Hook ε} (h : hook.Brings P) (reports : Bool) :
    ∀ deed ∈ (hook.call reports).deeds, deed.IsOf P := by
  induction hook with
  | stop => simp [Hook.call]
  | fail fault => simp [Hook.call]
  | effect e rest ih =>
      intro deed hdeed
      rcases List.mem_cons.mp hdeed with rfl | hdeed
      · exact h.1
      · exact ih h.2 deed hdeed
  | add hook rest ihook ih =>
      have hone := isOf_of_reported (ihook h.1) reports
      unfold Hook.call
      dsimp only
      split
      · exact hone
      · intro deed hdeed
        rcases List.mem_append.mp hdeed with hdeed | hdeed
        · exact hone deed hdeed
        · exact ih h.2 deed hdeed
  | cancel reason rest ih => exact ih h

/-- Hooks bring about what they all may bring about. -/
theorem isOf_of_callAll {hooks : List (Hook ε)} (h : ∀ hook ∈ hooks, hook.Brings P)
    (reports : Bool) : ∀ deed ∈ (Hook.callAll reports hooks).deeds, deed.IsOf P := by
  induction hooks with
  | nil => simp [Hook.callAll]
  | cons hook hooks ih =>
      have hone := isOf_of_reported (isOf_of_call (h hook List.mem_cons_self) reports) reports
      intro deed hdeed
      rcases List.mem_append.mp hdeed with hdeed | hdeed
      · exact hone deed hdeed
      · exact ih (fun hook hmem => h hook (List.mem_cons_of_mem _ hmem)) deed hdeed

end Hooks

/-! ## Registries -/

namespace Registry

variable {η : Type}

/-- The definitions stay, and the registry is enabled or disabled as it was. -/
structure Keeps (r r' : Registry η) : Prop where
  definitions : r'.definitions = r.definitions
  life : r'.life = r.life

theorem keeps_register (r : Registry η) (name : String) : r.Keeps (r.register name).registry := by
  unfold register
  split
  · exact ⟨rfl, rfl⟩
  · split <;> exact ⟨rfl, rfl⟩

theorem keeps_unregister (r : Registry η) (name : String) :
    r.Keeps (r.unregister name).registry := by
  unfold unregister
  split
  · exact ⟨rfl, rfl⟩
  · split <;> exact ⟨rfl, rfl⟩

/-- Verifying an invocation takes at most a command out of the registered ones. -/
theorem keeps_verify (r : Registry η) (name : String) (args : List String) (flags : Flags) :
    r.Keeps (r.verify name args flags).registry := by
  rcases r.verify_cases name args flags with ⟨hsame, -⟩ | ⟨_, -, -, -, hreg⟩
  · rw [hsame]
    exact ⟨rfl, rfl⟩
  · rw [hreg]
    exact r.keeps_unregister name

end Registry

/-! ## Scenes -/

/-- What commands see and change: what can be run, what waits to be shown, and what has
been shown. Prompts are left out. -/
structure Scene where
  registry : Registry Program
  output : Output
  surface : Option Surface
  calls : List Presenter.Call
  /-- the delay after each chain -/
  delay : Value

namespace Session

/-- The calls to the presenter but for the prompts. -/
def shown (s : Session) : List Presenter.Call := s.calls.filter (· ≠ .prompt)

def scene (s : Session) : Scene where
  registry := s.registry
  output := s.output
  surface := s.surface.map fun f => { f with promptOpen := true }
  calls := s.shown
  delay := s.engine.stepDelay

end Session

namespace Scene

/-- A session with this scene and an engine that has nothing to do. -/
def session (x : Scene) : Session where
  registry := x.registry
  output := x.output
  surface := x.surface
  calls := x.calls
  engine := { stepDelay := x.delay }

/-- What a request makes of a scene, and the reply. -/
def reply (x : Scene) (r : Request) : Scene × r.Reply :=
  ((x.session.reply r).1.scene, (x.session.reply r).2)

/-- Carries out a handler to its end. -/
def act : Handler → Scene → Scene × Except Failure Outcome
  | .done outcome, x => (x, .ok outcome)
  | .fail failure, x => (x, .error failure)
  | .pause _ rest, x => act rest x
  | .ask r rest, x => act (rest (x.reply r).2) (x.reply r).1

/-- Verifies an invocation, the one after `n` others of its chain. -/
def begin (x : Scene) (f : Fragment) (pipe : Pipe) (n : Nat) : Scene × Except Failure Handler :=
  match (x.registry.lookup f.name).result with
  | none => (x, .error (.refusal (.ofProblem .command (.unknownCommand f.name))))
  | some d =>
    let step := x.registry.verify f.name f.args f.flags
    let x := { x with registry := step.registry }
    match step.result with
    | .error fault => (x, .error (.fault (.value fault.message)))
    | .ok (.refused p) => (x, .error (Session.refusal f.name p))
    | .ok (.accepted flags) =>
      (x, .ok (d.handler ⟨f.name, f.args, x.registry.normalize f.name flags, pipe, n + 1⟩))

/-- What the stages of a chain end with: what the last one hands on, or a failure
together with what the last completed stage has handed on. -/
abbrev Ending := Except (Pipe × Failure) Pipe

/-- Goes on from the end of a handler. -/
def goOn (next : Pipe → Scene → Scene × Ending) (name : String) (pipe : Pipe) :
    Scene × Except Failure Outcome → Scene × Ending
  | (x, .ok outcome) =>
    match outcome.toPipe name with
    | .ok result => next result x
    | .error failure => (x, .error (pipe, failure))
  | (x, .error failure) => (x, .error (pipe, failure))

/-- Carries out stages to the end, `n` others of the chain having been begun before. -/
def stages : List Fragment → Nat → Pipe → Scene → Scene × Ending
  | [], _, pipe, x => (x, .ok pipe)
  | f :: rest, n, pipe, x =>
    match x.begin f pipe n with
    | (x, .error failure) => (x, .error (pipe, failure))
    | (x, .ok handler) => goOn (stages rest (n + 1)) f.name pipe (act handler x)

/-- Adds lines to the output. -/
def add (x : Scene) (lines : List Line) : Scene :=
  { x with output := (x.output.addAll lines).output }

/-- The lines that tell the user of a failure. -/
def told (pipe : Pipe) : Failure → List Line
  | .refusal r flaws =>
    if r.kind = .interrupted then pipe.getD [] ++ [.status Problem.interruptedMessage]
    else if flaws.text then []
    else [.error r.message]
  | .cancelled => []
  | _ => [.error Problem.unexpectedMessage]

/-- Adds the output of a chain, or tells of its failure. The delay after a chain may be
a failure too. -/
def close : Scene × Ending → Scene
  | (x, .error (pipe, failure)) => x.add (told pipe failure)
  | (x, .ok pipe) =>
    match Delay.afterChain x.delay with
    | .error fault => (x.add (pipe.getD [])).add (told pipe (.fault fault))
    | .ok _ => x.add (pipe.getD [])

/-- What a chain makes of a scene. -/
def chain (x : Scene) (c : Chain) : Scene := close (stages c.fragments 0 none x)

end Scene

/-- The handler that waits and those after it are local. -/
structure Suspended.IsLocal (p : Suspended) (definitions : Table (Definition Program)) : Prop where
  handler : p.handler.IsLocal
  rest : ∀ f ∈ p.rest, f.IsLocal definitions

/-- The end of a chain that waits, `n` of its stages having been begun. -/
def Suspended.ending (p : Suspended) (n : Nat) (x : Scene) : Scene × Scene.Ending :=
  Scene.goOn (Scene.stages p.rest n) p.name p.pipe (Scene.act p.handler x)

/-- From where a handler has stopped on the scene `x` it comes to the end `y`. -/
def Stop.Meets (x : Scene) (y : Scene × Except Failure Outcome) : Stop → Prop
  | .done outcome => y = (x, .ok outcome)
  | .failed failure => y = (x, .error failure)
  | .paused _ rest => rest.IsLocal ∧ y = Scene.act rest x

/-- From where a chain stands on the scene `x`, `n` of its stages having been begun, it
comes to the end `y`. -/
def Stand.Meets (definitions : Table (Definition Program)) (n : Nat) (x : Scene)
    (y : Scene × Scene.Ending) : Stand → Prop
  | .complete result => y = (x, .ok result)
  | .broken pipe failure => y = (x, .error (pipe, failure))
  | .paused _ p => p.IsLocal definitions ∧ y = p.ending n x

/-- A caller with this errand takes what comes and waits. -/
def Errand.IsPatient : Errand → Prop
  | .recover => False
  | _ => True

namespace Session

variable {s s' s'' t : Session}

/-! ## What the scene does not show -/

/-- Every caller just waits for an answer or an end, and does nothing about the queue. -/
def IsPatient (s : Session) : Prop := ∀ c ∈ s.callers, c.errand.IsPatient

/-- Nothing has changed of what is left out of the scene and matters for it later on. -/
structure Steady (s s' : Session) : Prop where
  life : ∀ v, s'.lifeOf v = s.lifeOf v
  definitions : s'.registry.definitions = s.registry.definitions
  critical : s'.watchdog.critical = s.watchdog.critical
  watched : s'.watched = s.watched
  patient : s.IsPatient → s'.IsPatient
  queue : s'.engine.queue = s.engine.queue

theorem steady_refl (s : Session) : Steady s s := ⟨fun _ => rfl, rfl, rfl, rfl, id, rfl⟩

theorem Steady.trans (h : Steady s s') (h' : Steady s' s'') : Steady s s'' where
  life v := (h'.life v).trans (h.life v)
  definitions := h'.definitions.trans h.definitions
  critical := h'.critical.trans h.critical
  watched := h'.watched.trans h.watched
  patient := h'.patient ∘ h.patient
  queue := h'.queue.trans h.queue

theorem life_recordAll (log : Diagnostics.Log) (actions : List String) :
    (log.recordAll actions).life = log.life := by
  unfold Diagnostics.Log.recordAll
  induction actions generalizing log with
  | nil => rfl
  | cons action actions ih =>
      rw [List.foldl_cons, ih]
      unfold Diagnostics.Log.record
      split <;> rfl

theorem steady_recordAll (s : Session) (actions : List String) :
    Steady s (s.recordAll actions) := by
  refine ⟨fun v => ?_, rfl, rfl, rfl, id, rfl⟩
  cases v with
  | diagnostics => exact life_recordAll s.log actions
  | _ => rfl

theorem steady_record (s : Session) (service : Service) (what : String) :
    Steady s (s.record service what) :=
  steady_recordAll s [service.action what]

theorem steady_report (s : Session) (service : Service) (level : Level) (message : String)
    (more : Table Value) : Steady s (s.report service level message more) :=
  ⟨fun v => by cases v <;> rfl, rfl, rfl, rfl, id, rfl⟩

theorem steady_wake (s : Session) (isOver : Until → Bool) : Steady s (s.wake isOver) := by
  refine ⟨fun _ => rfl, rfl, rfl, rfl, ?_, rfl⟩
  intro h c hc
  obtain ⟨c', hc', rfl⟩ := List.mem_map.mp hc
  have hpatient := h c' hc'
  split <;> exact hpatient

theorem scene_onEngine (s : Session) (m : Move) : (s.onEngine m).scene = s.scene := by
  have hdelay : (s.onEngine m).engine.stepDelay = s.engine.stepDelay := by
    rw [onEngine_engine, Engine.stepDelay_apply]
  unfold scene
  rw [hdelay]
  unfold shown onEngine
  dsimp only
  split <;> rfl

/-- Moving the engine changes nothing besides. -/
theorem steady_moved (s : Session) (m : Move) :
    Steady { s with engine := s.engine.apply m } (s.onEngine m) := by
  have hmoved : Steady { s with engine := s.engine.apply m }
      { s with engine := s.engine.apply m, moves := s.moves ++ [m] } :=
    ⟨fun _ => rfl, rfl, rfl, rfl, id, rfl⟩
  have hturn (t : Session) : Steady t { t with ready := t.ready ++ [.chain] } :=
    ⟨fun _ => rfl, rfl, rfl, rfl, id, rfl⟩
  unfold onEngine
  dsimp only
  split
  · exact hmoved.trans ((steady_wake _ _).trans (hturn _))
  · exact hmoved.trans (steady_wake _ _)

/-- A move that keeps the queue and does not enable or disable the engine. -/
theorem steady_onEngine {m : Move} (hlife : (s.engine.apply m).life = s.engine.life)
    (hqueue : (s.engine.apply m).queue = s.engine.queue) : Steady s (s.onEngine m) := by
  have hengine : Steady s { s with engine := s.engine.apply m } := by
    refine ⟨fun v => ?_, rfl, rfl, rfl, id, hqueue⟩
    cases v with
    | engine => exact hlife
    | _ => rfl
  exact hengine.trans (steady_moved s m)

/-! ## Replies -/

theorem scene_recordAll (s : Session) (actions : List String) :
    (s.recordAll actions).scene = s.scene := rfl

theorem session_scene (s : Session) : s.scene.session.scene = s.scene := by
  unfold scene Scene.session shown
  simp only [Option.map_map, List.filter_filter, Bool.and_self]
  rfl

theorem scene_render (h : s.scene = t.scene) (line : Line) :
    (s.render line).scene = (t.render line).scene := by
  have hsurface (f : Option Surface) :
      (f.map fun f => f.shown line).map (fun f => { f with promptOpen := true }) =
        (f.map fun f => { f with promptOpen := true }).map fun f => f.shown line := by
    cases f <;> rfl
  unfold scene shown at h ⊢
  simp only [Scene.mk.injEq] at h
  obtain ⟨hregistry, houtput, hsurfaces, hcalls, hdelay⟩ := h
  unfold render present
  simp only [List.filter_append, hsurface, hregistry, houtput, hsurfaces, hcalls, hdelay]

theorem scene_flush (h : s.scene = t.scene) : s.flush.scene = t.flush.scene := by
  have hlines (lines : List Line) (u v : Session) (huv : u.scene = v.scene) :
      (lines.foldl render u).scene = (lines.foldl render v).scene := by
    induction lines generalizing u v with
    | nil => exact huv
    | cons line lines ih => exact ih _ _ (scene_render huv line)
  have houtput : s.output = t.output := congrArg Scene.output h
  rw [flush_eq, flush_eq, scene_recordAll, scene_recordAll, houtput]
  refine hlines _ _ _ ?_
  unfold scene shown at h ⊢
  simp only [Scene.mk.injEq] at h ⊢
  exact ⟨h.1, trivial, h.2.2⟩

theorem scene_requestPrompt (s : Session) : s.requestPrompt.scene = s.scene := by
  unfold requestPrompt
  split
  · rename_i f hf
    split
    · rfl
    · unfold scene shown present
      simp only [hf, Option.map_some, List.filter_append]
      simp
  · rfl

theorem scene_clearSurface (h : s.scene = t.scene) :
    s.clearSurface.scene = t.clearSurface.scene := by
  have hclear (u : Session) : u.clearSurface.scene =
      { u.scene with
        surface := u.scene.surface.map fun f => { f with transcript := [] }
        calls := u.scene.calls ++
          if u.surface.any (fun f => f.canClear) then [Presenter.Call.clear] else [] } := by
    unfold clearSurface
    split
    · rename_i f hf
      dsimp only
      split
      · rename_i hcan
        simp [scene, shown, present, hf, hcan]
      · rename_i hcan
        simp [scene, shown, hf, hcan]
    · rename_i hf
      simp [scene, shown, hf]
  have hcan (u : Session) : u.surface.any (fun f => f.canClear) =
      u.scene.surface.any (fun f => f.canClear) := by
    cases hf : u.surface <;> simp [scene, hf]
  rw [hclear, hclear, hcan, hcan, h]

theorem transcript_of_scene (h : s.scene = t.scene) : s.transcript = t.transcript := by
  have htranscript (u : Session) : u.transcript = u.scene.surface.elim [] (·.transcript) := by
    unfold transcript scene
    cases u.surface <;> rfl
  rw [htranscript, htranscript, h]

/-- A chain is running, and nobody has cancelled it. -/
structure Carries (s : Session) (r : Run) : Prop where
  run : s.engine.run = some r
  reason : r.token.reason = none
  hooks : ∀ hook ∈ r.token.hooks, hook.Brings Reaction.IsQuiet

/-- No interruption is to be heeded. -/
theorem interruption?_of_carries {r : Run} (h : s.Carries r) : s.interruption? = none := by
  simp [interruption?, h.run, Token.interruption?, h.reason]

/-- A hook of a chain that is not cancelled waits. -/
theorem addHook_eq (h : s.interruption? = none) (hook : Hook Reaction) :
    s.addHook hook = s.onEngine (.hook hook) := by
  have hdeeds : s.engine.deeds (.hook hook) = [] := by
    unfold Engine.deeds
    cases hr : s.engine.run with
    | none => rfl
    | some r =>
        have hreason : r.token.reason = none := by
          simpa [interruption?, hr, Token.interruption?] using h
        simp [Token.addHook, Token.isCancelled, hreason]
  unfold addHook
  rw [hdeeds, reactAll_nil]

theorem scene_onRegistry {ρ : Type} (s : Session) (step : Registry.Step Program ρ) :
    (s.onRegistry step).1.scene = { s.scene with registry := step.registry } := rfl

/-- A local request makes of a scene what it makes of another session with that scene,
and the replies are the same. -/
theorem reply_congr {r : Request} (hr : r.IsLocal) (h : s.scene = t.scene)
    (hs : s.interruption? = none) (ht : t.interruption? = none) :
    (s.reply r).1.scene = (t.reply r).1.scene ∧ (s.reply r).2 = (t.reply r).2 := by
  have hregistry : s.registry = t.registry := congrArg Scene.registry h
  cases r with
  | interruption => exact ⟨h, hs.trans ht.symm⟩
  | register name =>
      simp only [reply, register, scene_onRegistry, h, hregistry]
      exact ⟨trivial, rfl⟩
  | unregister name =>
      simp only [reply, unregister, scene_onRegistry, h, hregistry]
      exact ⟨trivial, rfl⟩
  | definition name =>
      simp only [reply, scene_onRegistry, h, hregistry]
      exact ⟨trivial, rfl⟩
  | render line => exact ⟨scene_render h line, rfl⟩
  | flush => exact ⟨scene_flush h, rfl⟩
  | clearSurface => exact ⟨scene_clearSurface h, rfl⟩
  | prompt =>
      show s.requestPrompt.scene = t.requestPrompt.scene ∧ _
      rw [scene_requestPrompt, scene_requestPrompt]
      exact ⟨h, rfl⟩
  | clearOutput =>
      have houtput : s.output = t.output := congrArg Scene.output h
      have hclear (u : Session) : u.clearOutput.scene =
          { u.scene with output := u.output.clear.output } := rfl
      show s.clearOutput.scene = t.clearOutput.scene ∧ _
      rw [hclear, hclear, h, houtput]
      exact ⟨rfl, rfl⟩
  | addHook hook =>
      show (s.addHook hook).scene = (t.addHook hook).scene ∧ _
      rw [addHook_eq hs, addHook_eq ht, scene_onEngine, scene_onEngine]
      exact ⟨h, rfl⟩
  | transcript => exact ⟨h, transcript_of_scene h⟩
  | commandList withAliases => exact ⟨h, congrArg (Registry.listCommands · withAliases) hregistry⟩
  | note v => exact ⟨h, rfl⟩
  | clearLog => exact ⟨h, rfl⟩
  | _ => exact hr.elim

/-- What a local request makes of a session it makes of the scene. -/
theorem scene_reply {r : Request} (hr : r.IsLocal) (h : s.interruption? = none) :
    s.scene.reply r = ((s.reply r).1.scene, (s.reply r).2) := by
  obtain ⟨hscene, hreply⟩ := reply_congr hr (session_scene s) rfl h
  unfold Scene.reply
  rw [hscene, hreply]

/-- Taking over what an operation on the registry leaves behind changes what can be run
at most. -/
theorem steady_onRegistry {ρ : Type} {step : Registry.Step Program ρ}
    (h : s.registry.Keeps step.registry) : Steady s (s.onRegistry step).1 := by
  have hstep : Steady s { s with registry := step.registry } := by
    refine ⟨fun v => ?_, h.definitions, rfl, rfl, id, rfl⟩
    cases v with
    | registry => exact h.life
    | _ => rfl
  exact hstep.trans (steady_recordAll _ _)

theorem steady_render (s : Session) (line : Line) : Steady s (s.render line) :=
  ⟨fun _ => rfl, rfl, rfl, rfl, id, rfl⟩

/-- What waits to be shown is part of the scene. -/
theorem steady_output {o : Output} (h : o.life = s.output.life) :
    Steady s { s with output := o } := by
  refine ⟨fun v => ?_, rfl, rfl, rfl, id, rfl⟩
  cases v with
  | output => exact h
  | _ => rfl

theorem steady_flush (s : Session) : Steady s s.flush := by
  have hlines (lines : List Line) (t : Session) : Steady t (lines.foldl render t) := by
    induction lines generalizing t with
    | nil => exact steady_refl t
    | cons line lines ih => exact (steady_render t line).trans (ih _)
  have hlife : s.output.flush.output.life = s.output.life := by
    unfold Output.flush
    split <;> rfl
  rw [flush_eq]
  exact (steady_output hlife).trans ((hlines _ _).trans (steady_recordAll _ _))

theorem steady_addOutput (s : Session) (lines : List Line) : Steady s (s.addOutput lines) := by
  have hlife : (s.output.addAll lines).output.life = s.output.life := by
    unfold Output.addAll
    split <;> rfl
  have hsaid (t : Session) (said : List (Option Nat × Remark)) : Steady t { t with said } :=
    ⟨fun v => by cases v <;> rfl, rfl, rfl, rfl, id, rfl⟩
  exact ((steady_output hlife).trans (hsaid _ _)).trans (steady_recordAll _ _)

/-- What is said of an end leaves the services, the definitions and the queue alone. -/
theorem steady_of_writes {rs : List Remark} (h : Writes rs s t) : Steady s t := by
  induction h with
  | record s what => exact steady_record s .engine what
  | output s lines => exact steady_addOutput s lines
  | event s level message more => exact steady_report s .engine level message more
  | fault s phase problem kind => exact ⟨fun v => by cases v <;> rfl, rfl, rfl, rfl, id, rfl⟩
  | trans _ _ ih ih' => exact ih.trans ih'

theorem steady_clearOutput (s : Session) : Steady s s.clearOutput := by
  have hlife : s.output.clear.output.life = s.output.life := by
    unfold Output.clear
    split <;> rfl
  exact (steady_output hlife).trans (steady_recordAll _ _)

theorem steady_clearSurface (s : Session) : Steady s s.clearSurface := by
  unfold clearSurface
  split
  · dsimp only
    split <;> exact ⟨fun _ => rfl, rfl, rfl, rfl, id, rfl⟩
  · exact steady_refl s

theorem steady_requestPrompt (s : Session) : Steady s s.requestPrompt := by
  unfold requestPrompt
  split
  · split
    · exact steady_refl s
    · exact ⟨fun _ => rfl, rfl, rfl, rfl, id, rfl⟩
  · exact steady_refl s

/-- A local request leaves alone what the scene does not show. -/
theorem steady_reply {r : Request} (hr : r.IsLocal) (h : s.interruption? = none) :
    Steady s (s.reply r).1 := by
  cases r with
  | register name => exact steady_onRegistry (s.registry.keeps_register name)
  | unregister name => exact steady_onRegistry (s.registry.keeps_unregister name)
  | definition name =>
      refine steady_onRegistry ?_
      rw [Registry.lookup_registry]
      exact ⟨rfl, rfl⟩
  | render line => exact steady_render s line
  | flush => exact steady_flush s
  | clearOutput => exact steady_clearOutput s
  | clearSurface => exact steady_clearSurface s
  | prompt => exact steady_requestPrompt s
  | addHook hook =>
      show Steady s (s.addHook hook)
      rw [addHook_eq h]
      exact steady_onEngine rfl rfl
  | interruption => exact steady_refl s
  | transcript => exact steady_refl s
  | commandList withAliases => exact steady_refl s
  | note v => exact ⟨fun _ => rfl, rfl, rfl, rfl, id, rfl⟩
  | clearLog => exact ⟨fun _ => rfl, rfl, rfl, rfl, id, rfl⟩
  | _ => exact hr.elim

/-- A chain that nobody has cancelled is carried on behind a local request, and its
invocations are the same. -/
theorem carries_reply {r : Request} (hr : r.IsLocal) {run : Run} (h : s.Carries run) :
    ∃ run', (s.reply r).1.Carries run' ∧ run'.invoked = run.invoked := by
  have hsame (t : Session) (ht : t.engine = s.engine) : t.Carries run :=
    ⟨by rw [ht, h.run], h.reason, h.hooks⟩
  cases r with
  | addHook hook =>
      refine ⟨run.apply (.hook hook), ⟨?_, ?_, ?_⟩, rfl⟩
      · show (s.addHook hook).engine.run = _
        rw [addHook_eq (interruption?_of_carries h), onEngine_engine]
        exact Engine.run_apply h.run (by rintro _ _ ⟨⟩)
      · simp [Run.apply, Token.addHook, Token.isCancelled, h.reason]
      · intro k hk
        simp only [Run.apply, Token.addHook, Token.isCancelled, h.reason, Option.isSome_none,
          Bool.false_eq_true, if_false, List.mem_append, List.mem_singleton] at hk
        rcases hk with hk | rfl
        · exact h.hooks k hk
        · exact hr
  | flush => exact ⟨run, hsame _ (around_flush s).engine, rfl⟩
  | clearSurface => exact ⟨run, hsame _ (around_clearSurface s).engine, rfl⟩
  | prompt => exact ⟨run, hsame _ (around_requestPrompt s).engine, rfl⟩
  | submit text => exact hr.elim
  | call c => exact hr.elim
  | enable name => exact hr.elim
  | disable name => exact hr.elim
  | _ => exact ⟨run, hsame _ rfl, rfl⟩

/-! ## Handlers and stages -/

/-- A handler follows what happens on the scene, up to where it stops. -/
theorem follows_runHandler {h : Handler} (hl : h.IsLocal) {r : Run} (hc : s.Carries r) :
    Steady s (runHandler h s).1 ∧
      (runHandler h s).2.Meets (runHandler h s).1.scene (s.scene.act h) ∧
      ∃ r', (runHandler h s).1.Carries r' ∧ r'.invoked = r.invoked := by
  induction h generalizing s r with
  | done outcome => exact ⟨steady_refl s, rfl, r, hc, rfl⟩
  | fail failure => exact ⟨steady_refl s, rfl, r, hc, rfl⟩
  | pause p rest ih =>
      cases p with
      | release =>
          unfold runHandler
          split
          · exact ih hl hc
          · exact ⟨steady_refl s, ⟨hl, rfl⟩, r, hc, rfl⟩
      | _ => exact ⟨steady_refl s, ⟨hl, rfl⟩, r, hc, rfl⟩
  | ask request rest ih =>
      have hi := interruption?_of_carries hc
      obtain ⟨r₁, hc₁, hinvoked₁⟩ := carries_reply hl.1 hc
      obtain ⟨hsteady, hmeets, r₂, hc₂, hinvoked₂⟩ := ih _ (hl.2 _) hc₁
      unfold runHandler Scene.act
      rw [scene_reply hl.1 hi]
      exact ⟨(steady_reply hl.1 hi).trans hsteady, hmeets, r₂, hc₂, hinvoked₂.trans hinvoked₁⟩

/-- A stage begins as it does on the scene. -/
theorem follows_beginStage {f : Fragment} (hl : f.IsLocal s.registry.definitions) (pipe : Pipe)
    {r : Run} (hc : s.Carries r) :
    Steady s (s.beginStage f pipe).1 ∧
      s.scene.begin f pipe r.invoked.length =
        ((s.beginStage f pipe).1.scene, (s.beginStage f pipe).2) ∧
      ∃ r', (s.beginStage f pipe).1.Carries r' ∧
        ∀ handler, (s.beginStage f pipe).2 = .ok handler →
          handler.IsLocal ∧ r'.invoked.length = r.invoked.length + 1 := by
  have hlook : s.onRegistry (s.registry.lookup f.name) =
      (s.recordAll (s.registry.lookup f.name).actions, (s.registry.lookup f.name).result) := by
    unfold onRegistry
    rw [Registry.lookup_registry]
  have hregistry : s.scene.registry = s.registry := rfl
  have hkept (t : Session) (ht : t.engine = s.engine) : ∃ r', t.Carries r' ∧
      ∀ (failure : Failure) (handler : Handler), Except.error failure = Except.ok handler →
        handler.IsLocal ∧ r'.invoked.length = r.invoked.length + 1 :=
    ⟨r, ⟨by rw [ht, hc.run], hc.reason, hc.hooks⟩, by rintro _ _ ⟨⟩⟩
  unfold beginStage Scene.begin
  rw [hlook, hregistry]
  have hlooked := steady_recordAll s (s.registry.lookup f.name).actions
  cases hd : (s.registry.lookup f.name).result with
  | none =>
      obtain ⟨r', hc', hnone⟩ := hkept (s.recordAll (s.registry.lookup f.name).actions) rfl
      exact ⟨hlooked, rfl, r', hc', hnone _⟩
  | some d =>
      obtain ⟨t, ht⟩ : ∃ t, t = ((s.recordAll (s.registry.lookup f.name).actions).onRegistry
        (s.registry.verify f.name f.args f.flags)).1 := ⟨_, rfl⟩
      have hverify : (s.recordAll (s.registry.lookup f.name).actions).onRegistry
          ((s.recordAll (s.registry.lookup f.name).actions).registry.verify f.name f.args
            f.flags) = (t, (s.registry.verify f.name f.args f.flags).result) := by
        rw [ht]
        rfl
      have hsteady : Steady s t := by
        rw [ht]
        exact hlooked.trans (steady_onRegistry (s.registry.keeps_verify _ _ _))
      have hscene : t.scene =
          { s.scene with registry := (s.registry.verify f.name f.args f.flags).registry } := by
        rw [ht]
        rfl
      have hengine : t.engine = s.engine := by
        rw [ht]
        rfl
      have hct : t.Carries r := ⟨by rw [hengine, hc.run], hc.reason, hc.hooks⟩
      dsimp only
      rw [hverify, ← hscene]
      cases (s.registry.verify f.name f.args f.flags).result with
      | error fault =>
          obtain ⟨r', hc', hnone⟩ := hkept t hengine
          exact ⟨hsteady, rfl, r', hc', hnone _⟩
      | ok verification =>
          cases verification with
          | refused p =>
              obtain ⟨r', hc', hnone⟩ := hkept t hengine
              exact ⟨hsteady, rfl, r', hc', hnone _⟩
          | accepted flags =>
              have hstage : (t.record .engine s!"run {f.name}").engine.run.elim 0
                  (fun r => r.invoked.length) = r.invoked.length := by
                show t.engine.run.elim 0 _ = _
                rw [hct.run]
                rfl
              dsimp only
              rw [interruption?_of_carries hct]
              dsimp only
              rw [hstage]
              let v : Invocation :=
                ⟨f.name, f.args, t.registry.normalize f.name flags, pipe, r.invoked.length + 1⟩
              refine ⟨hsteady.trans ((steady_record t .engine _).trans
                (steady_onEngine rfl rfl)), ?_, r.apply (.invoke d.handler v),
                ⟨?_, hc.reason, hc.hooks⟩, ?_⟩
              · rw [scene_onEngine, ht]
                rfl
              · rw [onEngine_engine]
                exact Engine.run_apply hct.run (by rintro _ _ ⟨⟩)
              · rintro handler ⟨rfl⟩
                refine ⟨hl d (Registry.definition_of_lookup hd) _, ?_⟩
                show (r.invoked ++ [_]).length = _
                rw [List.length_append, List.length_singleton]

/-- The session `s` comes to where the chain stands, and from there the scene comes to
the end `y`. -/
structure Follows (s : Session) (there : Session × Stand) (y : Scene × Scene.Ending) : Prop where
  steady : Steady s there.1
  meets : ∃ r, there.1.Carries r ∧
    there.2.Meets s.registry.definitions r.invoked.length there.1.scene y

theorem follows_of_steady {there : Session × Stand} {y : Scene × Scene.Ending}
    (h : Steady s t) (ht : t.Follows there y) : s.Follows there y := by
  obtain ⟨hsteady, hmeets⟩ := ht
  rw [h.definitions] at hmeets
  exact ⟨h.trans hsteady, hmeets⟩

/-- What follows behind a handler follows what happens on the scene. -/
theorem follows_carryOn {rest : List Fragment} {next : Pipe → Session → Session × Stand}
    {name : String} {pipe : Pipe} {handler : Handler} {r : Run} (hc : s.Carries r)
    (hl : handler.IsLocal) (hrest : ∀ f ∈ rest, f.IsLocal s.registry.definitions)
    (hnext : ∀ {t : Session} {r' : Run} (result : Pipe), t.Carries r' →
      t.registry.definitions = s.registry.definitions →
      t.Follows (next result t) (Scene.stages rest r'.invoked.length result t.scene)) :
    s.Follows (carryOn rest next name pipe (runHandler handler s))
      (Scene.goOn (Scene.stages rest r.invoked.length) name pipe (Scene.act handler s.scene)) := by
  obtain ⟨hsteady, hmeets, r₁, hc₁, hinvoked⟩ := follows_runHandler hl hc
  generalize runHandler handler s = there at hsteady hmeets hc₁ ⊢
  generalize Scene.act handler s.scene = y at hmeets ⊢
  obtain ⟨s₁, stop⟩ := there
  cases stop with
  | failed failure =>
      obtain rfl : y = _ := hmeets
      exact ⟨hsteady, r₁, hc₁, rfl⟩
  | paused p rest' =>
      obtain ⟨hl', rfl⟩ : _ ∧ y = _ := hmeets
      refine ⟨hsteady, r₁, hc₁, ⟨hl', hrest⟩, ?_⟩
      rw [hinvoked]
      rfl
  | done outcome =>
      obtain rfl : y = _ := hmeets
      simp only [carryOn, Scene.goOn]
      cases outcome.toPipe name with
      | error failure => exact ⟨hsteady, r₁, hc₁, rfl⟩
      | ok result =>
          have hmove : Steady s₁ (s₁.onEngine (.handOn result)) := steady_onEngine rfl rfl
          have hc₂ : (s₁.onEngine (.handOn result)).Carries (r₁.apply (.handOn result)) := by
            refine ⟨?_, hc₁.reason, hc₁.hooks⟩
            rw [onEngine_engine]
            exact Engine.run_apply hc₁.run (by rintro _ _ ⟨⟩)
          have hthere := hnext result hc₂ (hsteady.trans hmove).definitions
          rw [scene_onEngine] at hthere
          have hcount : (r₁.apply (.handOn result)).invoked.length = r.invoked.length := by
            show r₁.invoked.length = _
            rw [hinvoked]
          rw [hcount] at hthere
          exact follows_of_steady (hsteady.trans hmove) hthere

/-- **The stages of a local chain** do to the scene what they do to it at once. -/
theorem follows_runStages {fs : List Fragment}
    (hl : ∀ f ∈ fs, f.IsLocal s.registry.definitions) (pipe : Pipe) {r : Run} (hc : s.Carries r) :
    s.Follows (runStages fs pipe s) (Scene.stages fs r.invoked.length pipe s.scene) := by
  induction fs generalizing s r pipe with
  | nil =>
      unfold runStages
      rw [interruption?_of_carries hc]
      exact ⟨steady_refl s, r, hc, rfl⟩
  | cons f rest ih =>
      obtain ⟨hsteady, hbegin, r₁, hc₁, hhandler⟩ :=
        follows_beginStage (hl f List.mem_cons_self) pipe hc
      unfold runStages Scene.stages
      rw [interruption?_of_carries hc, hbegin]
      generalize s.beginStage f pipe = there at hsteady hc₁ hhandler ⊢
      obtain ⟨s₁, result⟩ := there
      cases result with
      | error failure => exact ⟨hsteady, r₁, hc₁, rfl⟩
      | ok handler =>
          obtain ⟨hlocal, hcount⟩ := hhandler handler rfl
          have hrest : ∀ g ∈ rest, g.IsLocal s₁.registry.definitions := by
            intro g hg
            rw [show s₁.registry.definitions = _ from hsteady.definitions]
            exact hl g (List.mem_cons_of_mem _ hg)
          dsimp only
          rw [← hcount]
          refine follows_of_steady hsteady (follows_carryOn hc₁ hlocal hrest ?_)
          intro t r' result' hct hdefinitions
          refine ih ?_ result' hct
          rw [hdefinitions]
          exact hrest

end Session

end CommandShell
