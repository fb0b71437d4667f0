import CommandShell.Proofs.Session.Look
import CommandShell.Proofs.Session.Scene
import CommandShell.Proofs.Session.Work

/-!
# What will have become of the scene

The running chain and the queue say what the scene will be once all of it is over: the
prospect of a session. Work does not change the prospect (`keepsTo_works`), and
a line that is handed in adds its chains to the end of it (`gains_handsIn`).
This is for calm sessions, whose chains are local, whose engine is enabled, and
whose watchdog finds nothing to do.
-/

namespace CommandShell

/-- All commands of a chain are local. -/
def Chain.IsLocal (c : Chain) (definitions : Table (Definition Program)) : Prop :=
  ∀ f ∈ c.fragments, f.IsLocal definitions

/-- What a line makes of a scene. -/
def Scene.line (x : Scene) (text : String) : Scene := (Session.chainsOf text).foldl Scene.chain x

/-- What a running chain will have made of the scene when it is over. -/
def Run.prospect (r : Run) (x : Scene) : Scene :=
  match r.phase with
  | .fresh => x.chain r.entry.chain
  | .suspended p => Scene.close (p.ending r.invoked.length x)
  | .active | .pacing _ => x

/-- Nobody has cancelled the chain, and what it has before it is local. -/
structure Run.IsCalm (r : Run) (definitions : Table (Definition Program)) : Prop where
  reason : r.token.reason = none
  hooks : ∀ hook ∈ r.token.hooks, hook.Brings Reaction.IsQuiet
  fresh : r.phase = .fresh → r.invoked = [] ∧ r.entry.chain.IsLocal definitions
  suspended : ∀ p, r.phase = .suspended p → p.IsLocal definitions

namespace Engine

/-- What the chains of a queue make of a scene, one after the other. -/
def queued (queue : List Entry) (x : Scene) : Scene :=
  queue.foldl (fun x entry => x.chain entry.chain) x

/-- What the scene will be when the running chain and the queue are over. -/
def prospect (e : Engine) (x : Scene) : Scene :=
  queued e.queue (e.run.elim x fun r => r.prospect x)

/-- All chains that are not over are calm. -/
structure IsCalm (e : Engine) (definitions : Table (Definition Program)) : Prop where
  queue : ∀ entry ∈ e.queue, entry.chain.IsLocal definitions
  run : ∀ r, e.run = some r → r.IsCalm definitions

variable {e : Engine} {definitions : Table (Definition Program)}

/-- A chain that is about to begin has the prospect that it had in the queue. -/
theorem prospect_advance (e : Engine) (x : Scene) : e.advance.prospect x = e.prospect x := by
  rcases advance_cases e with ⟨-, he⟩ | ⟨entry, queue, -, hr, hq, he⟩
  · rw [he]
  · rw [he]
    unfold prospect
    rw [hr, hq]
    rfl

theorem isCalm_start {entry : Entry} (h : entry.chain.IsLocal definitions) :
    (Run.start entry).IsCalm definitions where
  reason := rfl
  hooks := by rintro _ ⟨⟩
  fresh _ := ⟨rfl, h⟩
  suspended := by rintro _ ⟨⟩

theorem isCalm_advance (h : e.IsCalm definitions) : e.advance.IsCalm definitions := by
  rcases advance_cases e with ⟨-, he⟩ | ⟨entry, queue, -, hr, hq, he⟩
  · rwa [he]
  · have hqueue := h.queue
    rw [hq] at hqueue
    rw [he]
    refine ⟨fun x hx => hqueue x (List.mem_cons_of_mem _ hx), ?_⟩
    rintro r ⟨⟩
    exact isCalm_start (hqueue entry List.mem_cons_self)

/-- The prospect after a move is as `land` says. -/
theorem prospect_apply (e : Engine) (m : Move) (x : Scene) :
    (e.apply m).prospect x = (e.land m).prospect x :=
  apply_eq_land (fun e => e.prospect x) (fun e => prospect_advance e x) (fun _ _ => rfl) e m

theorem isCalm_apply {m : Move} (h : (e.land m).IsCalm definitions) :
    (e.apply m).IsCalm definitions := by
  obtain ⟨answers, heq | heq⟩ := apply_cases e m
  · rw [heq]
    exact ⟨h.queue, h.run⟩
  · rw [heq]
    exact isCalm_advance ⟨h.queue, h.run⟩

end Engine

namespace Session

variable {s s' t : Session}

/-! ## Calm sessions -/

/-- What the scene will be when all chains are over. -/
def prospect (s : Session) : Scene := s.engine.prospect s.scene

/-- The watchdog has nothing to recover: the critical services that it knows of are
enabled, or it is disabled itself. -/
def HasNothingToRecover (s : Session) : Prop :=
  s.isEnabled .watchdog = true → ∀ v ∈ s.watched, Value.str v.name ∈ s.watchdog.critical →
    s.isEnabled v = true

/-- Apart from the running chain nothing is there that would change the scene but the
queue, whose chains are local. -/
structure IsFair (s : Session) : Prop where
  enabled : s.engine.life.enabled = true
  queue : ∀ entry ∈ s.engine.queue, entry.chain.IsLocal s.registry.definitions
  unneeded : s.HasNothingToRecover
  patient : s.IsPatient

/-- The running chain is calm as well. -/
structure IsCalm (s : Session) : Prop extends IsFair s where
  run : ∀ r, s.engine.run = some r → r.IsCalm s.registry.definitions

theorem isFair_of_steady (h : s.IsFair) (hs : Steady s s') : s'.IsFair where
  enabled := by
    rw [show s'.engine.life = s.engine.life from hs.life .engine]
    exact h.enabled
  queue := by
    rw [hs.queue, hs.definitions]
    exact h.queue
  unneeded := by
    unfold HasNothingToRecover isEnabled
    rw [hs.watched, hs.critical]
    simp only [hs.life]
    exact h.unneeded
  patient := hs.patient h.patient

/-- The session stays calm, with the same prospect. -/
structure KeepsTo (s s' : Session) : Prop where
  calm : s'.IsCalm
  prospect : s'.prospect = s.prospect
  definitions : s'.registry.definitions = s.registry.definitions

theorem keepsTo_refl (h : s.IsCalm) : KeepsTo s s := ⟨h, rfl, rfl⟩

theorem keepsTo_of_steady (h : s.IsCalm) (hs : Steady s s') (he : s'.engine = s.engine)
    (hx : s'.scene = s.scene) : KeepsTo s s' where
  calm := by
    refine ⟨isFair_of_steady h.toIsFair hs, ?_⟩
    rw [he, hs.definitions]
    exact h.run
  prospect := by
    unfold Session.prospect
    rw [he, hx]
  definitions := hs.definitions

/-! ## The end of a chain -/

/-- The session is calm, with the prospect of what the queue makes of the scene `x`. -/
structure Leaves (s : Session) (x : Scene) (s' : Session) : Prop where
  calm : s'.IsCalm
  prospect : s'.prospect = Engine.queued s.engine.queue x
  definitions : s'.registry.definitions = s.registry.definitions

theorem leaves_of_steady {x : Scene} (hs : Steady s t) (h : t.Leaves x s') : s.Leaves x s' where
  calm := h.calm
  prospect := by rw [h.prospect, hs.queue]
  definitions := h.definitions.trans hs.definitions

theorem leaves_wake {x : Scene} (h : s.Leaves x s') (isOver : Until → Bool) :
    s.Leaves x (s'.wake isOver) := by
  have hk : KeepsTo s' (s'.wake isOver) :=
    keepsTo_of_steady h.calm (steady_wake s' isOver) rfl rfl
  exact ⟨hk.calm, hk.prospect.trans h.prospect, hk.definitions.trans h.definitions⟩

/-- A move of the engine, given what `land` says of it. -/
theorem isCalm_onEngine {m : Move} (h : s.IsFair)
    (hlife : (s.engine.apply m).life = s.engine.life)
    (hcalm : (s.engine.land m).IsCalm s.registry.definitions) :
    (s.onEngine m).IsCalm ∧ (s.onEngine m).prospect = (s.engine.land m).prospect s.scene ∧
      (s.onEngine m).registry.definitions = s.registry.definitions := by
  have happly := Engine.isCalm_apply hcalm
  have hmoved := steady_moved s m
  have hfair : IsFair { s with engine := s.engine.apply m } := by
    refine ⟨hlife ▸ h.enabled, happly.queue, fun hw v hv hc => ?_, h.patient⟩
    have henabled := h.unneeded hw v hv hc
    cases v with
    | engine =>
        show (s.engine.apply m).life.enabled = true
        rw [hlife]
        exact henabled
    | _ => exact henabled
  refine ⟨⟨isFair_of_steady hfair hmoved, ?_⟩, ?_, hmoved.definitions⟩
  · rw [onEngine_engine, hmoved.definitions]
    exact happly.run
  · unfold Session.prospect
    rw [scene_onEngine, onEngine_engine, Engine.prospect_apply]

/-- A timer is set for the running chain. -/
theorem leaves_timer {x : Scene} (h : s.Leaves x s') (due : Rat) :
    s.Leaves x { s' with timers := s'.timers ++ [⟨due, .chain⟩] } :=
  ⟨⟨⟨h.calm.enabled, h.calm.queue, h.calm.unneeded, h.calm.patient⟩, h.calm.run⟩, h.prospect,
    h.definitions⟩

/-- The running chain ends. -/
theorem leaves_finish (h : s.IsFair) (status : Status) (result : Pipe) :
    s.Leaves s.scene (s.finish status result) := by
  obtain ⟨hcalm, hprospect, hdefinitions⟩ := isCalm_onEngine (m := .finish status result) h
    (Engine.life_apply _ _) ⟨h.queue, by rintro _ ⟨⟩⟩
  exact leaves_wake ⟨hcalm, hprospect, hdefinitions⟩ _

/-- The running chain comes to another phase. -/
theorem leaves_setPhase {r : Run} (h : s.IsFair) (hc : s.Carries r) {phase : Phase}
    (hfresh : phase ≠ .fresh)
    (hsuspended : ∀ p, phase = .suspended p → p.IsLocal s.registry.definitions) :
    s.Leaves (Run.prospect { r with phase } s.scene) (s.setPhase phase) := by
  have hrun : (s.engine.land (.phase phase)).run = some { r with phase } := by
    rw [Engine.land_run, hc.run]
    rfl
  obtain ⟨hcalm, hprospect, hdefinitions⟩ := isCalm_onEngine (m := .phase phase) h rfl
    ⟨h.queue, by
      rw [hrun]
      rintro _ ⟨⟩
      exact ⟨hc.reason, hc.hooks, fun hf => absurd hf hfresh, hsuspended⟩⟩
  refine ⟨hcalm, ?_, hdefinitions⟩
  unfold setPhase
  rw [hprospect]
  unfold Engine.prospect
  rw [hrun]
  rfl

theorem add_nil (x : Scene) : x.add [] = x := by
  unfold Scene.add Output.addAll
  split <;> simp

theorem add_append (x : Scene) (lines more : List Line) :
    x.add (lines ++ more) = (x.add lines).add more := by
  unfold Scene.add Output.addAll
  cases h : x.output.life.enabled <;> simp [h]

/-- Hooks that hand nothing in and call nobody leave the scene and the queue alone. -/
theorem steady_reactAll {deeds : List (Deed Reaction)}
    (h : ∀ deed ∈ deeds, deed.IsOf Reaction.IsQuiet) :
    Steady s (s.reactAll deeds) ∧ (s.reactAll deeds).scene = s.scene := by
  have hone (interruption : Refusal) (chain : String) (deed : Deed Reaction)
      (hdeed : deed.IsOf Reaction.IsQuiet) (t : Session) :
      Steady t (t.react interruption chain deed) ∧
        (t.react interruption chain deed).scene = t.scene := by
    cases deed with
    | report fault => exact ⟨⟨fun _ => rfl, rfl, rfl, rfl, id, rfl⟩, rfl⟩
    | effect reaction =>
        cases reaction with
        | note id' => exact ⟨⟨fun _ => rfl, rfl, rfl, rfl, id, rfl⟩, rfl⟩
        | release stage =>
            show Steady t (if _ then t.release else t) ∧ (if _ then t.release else t).scene = _
            split
            · exact ⟨steady_onEngine rfl rfl, scene_onEngine t .release⟩
            · exact ⟨steady_refl t, rfl⟩
        | submit text => exact hdeed.elim
        | call c => exact hdeed.elim
  have hall (interruption : Refusal) (chain : String) (t : Session) :
      Steady t (deeds.foldl (fun s deed => s.react interruption chain deed) t) ∧
        (deeds.foldl (fun s deed => s.react interruption chain deed) t).scene = t.scene := by
    induction deeds generalizing t with
    | nil => exact ⟨steady_refl t, rfl⟩
    | cons deed deeds ih =>
        obtain ⟨hsteady, hscene⟩ := hone interruption chain deed (h deed List.mem_cons_self) t
        obtain ⟨hsteady', hscene'⟩ := ih (fun d hd => h d (List.mem_cons_of_mem _ hd))
          (t.react interruption chain deed)
        exact ⟨hsteady.trans hsteady', hscene'.trans hscene⟩
  unfold reactAll
  split
  · exact ⟨steady_refl s, rfl⟩
  · split
    · exact ⟨steady_refl s, rfl⟩
    · exact hall _ _ s

/-- A chain that is cancelled from within leaves the scene and the queue alone. -/
theorem steady_cancelRun {r : Run} (hc : s.Carries r) (reason : Option String) :
    Steady s (s.cancelRun reason) ∧ (s.cancelRun reason).scene = s.scene := by
  have hmove : Steady s (s.make (.cancel reason)) :=
    (steady_recordAll s _).trans (steady_onEngine rfl rfl)
  have hdeeds : ∀ deed ∈ s.engine.deeds (.call (.cancel reason)),
      deed.IsOf Reaction.IsQuiet := by
    unfold Engine.deeds Token.cancel Token.isCancelled
    rw [hc.run]
    simp only [Option.elim_some, hc.reason, Option.isSome_none, Bool.false_eq_true, if_false]
    exact isOf_of_callAll hc.hooks _
  obtain ⟨hsteady, hscene⟩ := steady_reactAll (s := s.make (.cancel reason)) hdeeds
  exact ⟨hmove.trans hsteady, hscene.trans (scene_onEngine _ _)⟩

theorem scene_addOutput (s : Session) (lines : List Line) :
    (s.addOutput lines).scene = s.scene.add lines := rfl

/-- The scene sees the lines among what is said. -/
theorem scene_of_writes {rs : List Remark} (h : Writes rs s t) :
    t.scene = s.scene.add (rs.filterMap Remark.line?) := by
  induction h with
  | output s lines =>
      rw [Remark.filterMap_line?]
      exact scene_addOutput s lines
  | trans _ _ ih ih' => rw [ih', ih, List.filterMap_append, add_append]
  | _ => exact (add_nil _).symm

theorem told_eq (label : String) (pipe : Pipe) (failure : Failure) :
    (failure.remarks label pipe).filterMap Remark.line? = Scene.told pipe failure := by
  have hunexpected (failure : Failure) : (Remark.unexpected label failure).filterMap Remark.line? =
      [.error Problem.unexpectedMessage] := by
    unfold Remark.unexpected
    split
    · rfl
    · split <;> rfl
  cases failure with
  | refusal r flaws =>
      unfold Failure.remarks Scene.told
      dsimp only
      split
      · unfold Remark.aborted
        rw [List.filterMap_append, Remark.filterMap_line?]
        split <;> rfl
      · unfold Remark.refused
        split
        · rfl
        · split <;> rfl
  | cancelled => rfl
  | fault fault flaws => exact hunexpected (.fault fault flaws)
  | noResult command received => exact hunexpected (.noResult command received)

/-- A failure ends the chain, and the user is told. -/
theorem leaves_fail {r : Run} (h : s.IsFair) (hc : s.Carries r) (pipe : Pipe)
    (failure : Failure) :
    s.Leaves (s.scene.add (Scene.told pipe failure)) (s.fail pipe failure) := by
  have hend {u : Session} (hs : Steady s u) (status : Status) (result : Pipe) :
      s.Leaves u.scene (u.finish status result) :=
    leaves_of_steady hs (leaves_finish (isFair_of_steady h hs) status result)
  by_cases hf : failure = .cancelled
  · subst hf
    obtain ⟨hsteady, hscene⟩ := steady_cancelRun hc (some "task cancelled")
    have hthere := hend hsteady .aborted none
    rw [hscene] at hthere
    rw [Scene.told, add_nil]
    exact hthere
  · obtain ⟨t, hwrites, heq⟩ := fail_eq_finish hf s pipe
    have hthere := hend (steady_of_writes hwrites) failure.status none
    rw [scene_of_writes hwrites, told_eq] at hthere
    rw [heq]
    exact hthere

/-- All stages are done. -/
theorem leaves_complete {r : Run} (h : s.IsFair) (hc : s.Carries r) (pipe : Pipe) :
    s.Leaves (Scene.close (s.scene, .ok pipe)) (s.complete pipe) := by
  have hsteady : Steady s ((s.addOutput (pipe.getD [])).report .engine .info "chain completed"
      [("chain", .str s.label)]) :=
    (steady_addOutput s _).trans ⟨fun _ => rfl, rfl, rfl, rfl, id, rfl⟩
  unfold complete Scene.close
  dsimp only
  rw [show s.scene.delay = s.engine.stepDelay from rfl, ← scene_addOutput]
  obtain ⟨u, hu⟩ : ∃ u, u = (s.addOutput (pipe.getD [])).report .engine .info "chain completed"
    [("chain", .str s.label)] := ⟨_, rfl⟩
  have hscene : (s.addOutput (pipe.getD [])).scene = u.scene := by
    rw [hu]
    rfl
  have hdelay : s.engine.stepDelay = u.engine.stepDelay := by
    rw [hu]
    rfl
  have hcu : u.Carries r := by
    rw [hu]
    exact ⟨hc.run, hc.reason, hc.hooks⟩
  rw [← hu] at hsteady ⊢
  rw [hscene, hdelay]
  have hfair := isFair_of_steady h hsteady
  have hpacing : u.Leaves (Run.prospect { r with phase := .pacing pipe } u.scene)
      (u.setPhase (.pacing pipe)) := by
    refine leaves_setPhase hfair hcu ?_ ?_
    · rintro ⟨⟩
    · rintro _ ⟨⟩
  refine leaves_of_steady hsteady ?_
  cases Delay.afterChain u.engine.stepDelay with
  | error fault => exact leaves_fail hfair hcu pipe (.fault fault)
  | ok delay =>
      cases delay with
      | none => exact leaves_finish hfair _ _
      | forever => exact hpacing
      | millis q => exact leaves_timer hpacing _

/-- A handler waits. -/
theorem leaves_suspend {r : Run} (h : s.IsFair) (hc : s.Carries r) (pause : Pause)
    {p : Suspended} (hl : p.IsLocal s.registry.definitions) :
    s.Leaves (Scene.close (p.ending r.invoked.length s.scene)) (s.suspend pause p) := by
  have hwait (wait : Wait) :
      s.Leaves (Run.prospect { r with phase := .suspended { p with wait } } s.scene)
        (s.setPhase (.suspended { p with wait })) := by
    refine leaves_setPhase h hc ?_ ?_
    · rintro ⟨⟩
    · rintro _ ⟨⟩
      exact ⟨hl.handler, hl.rest⟩
  cases pause with
  | release => exact hwait .release
  | turn => exact hwait .turn
  | sleep millis =>
      unfold suspend
      dsimp only
      split
      · exact hwait .turn
      · exact leaves_timer (hwait .sleep) _

/-- From where a chain stands it goes on to the end that it is to come to. -/
theorem leaves_conclude {there : Session × Stand} {y : Scene × Scene.Ending} (h : s.IsFair)
    (hf : s.Follows there y) : s.Leaves (Scene.close y) (there.1.conclude there.2) := by
  obtain ⟨hsteady, r, hc, hmeets⟩ := hf
  have hfair := isFair_of_steady h hsteady
  rw [← hsteady.definitions] at hmeets
  refine leaves_of_steady hsteady ?_
  obtain ⟨t, stand⟩ := there
  cases stand with
  | complete pipe =>
      obtain rfl : y = _ := hmeets
      exact leaves_complete hfair hc pipe
  | broken pipe failure =>
      obtain rfl : y = _ := hmeets
      exact leaves_fail hfair hc pipe failure
  | paused pause p =>
      obtain ⟨hl, rfl⟩ : _ ∧ y = _ := hmeets
      exact leaves_suspend hfair hc pause hl

/-! ## The running chain gets on -/

/-- The chain is begun, or taken up where its handler waits. -/
theorem follows_proceed (h : s.IsCalm) {r : Run} (hr : s.engine.run = some r)
    (hactive : r.phase ≠ .active) (hpacing : ∀ result, r.phase ≠ .pacing result) :
    ∃ y, s.Follows (s.proceed r) y ∧ r.prospect s.scene = Scene.close y := by
  have hcalm := h.run r hr
  have hmove : Steady s (s.setPhase .active) := steady_onEngine rfl rfl
  obtain ⟨r₁, hc, hinvoked₁⟩ : ∃ r₁, (s.setPhase .active).Carries r₁ ∧ r₁.invoked = r.invoked := by
    refine ⟨{ r with phase := .active }, ⟨?_, hcalm.reason, hcalm.hooks⟩, rfl⟩
    rw [setPhase, onEngine_engine]
    exact Engine.run_apply hr (by rintro _ _ ⟨⟩)
  have hscene : (s.setPhase .active).scene = s.scene := scene_onEngine s _
  unfold proceed Run.prospect
  cases hp : r.phase with
  | active => exact absurd hp hactive
  | pacing result => exact absurd hp (hpacing result)
  | suspended p =>
      have hl := hcalm.suspended p hp
      refine ⟨_, follows_of_steady hmove ?_, rfl⟩
      have hrest : ∀ f ∈ p.rest, f.IsLocal (s.setPhase .active).registry.definitions := by
        rw [hmove.definitions]
        exact hl.rest
      unfold Suspended.ending
      rw [← hscene, ← hinvoked₁]
      refine follows_carryOn hc hl.handler hrest ?_
      intro t r' result hct hdefinitions
      refine follows_runStages ?_ result hct
      rw [hdefinitions]
      exact hrest
  | fresh =>
      obtain ⟨hinvoked, hl⟩ := hcalm.fresh hp
      obtain ⟨t, ht⟩ : ∃ t, t = (s.setPhase .active).report .engine .info "chain started"
        [("chain", .str r.entry.label)] := ⟨_, rfl⟩
      have hreport : Steady s t := by
        rw [ht]
        exact hmove.trans ⟨fun _ => rfl, rfl, rfl, rfl, id, rfl⟩
      have hct : t.Carries r₁ := by
        rw [ht]
        exact ⟨hc.run, hc.reason, hc.hooks⟩
      have hscenet : t.scene = s.scene := by
        rw [← hscene, ht]
        rfl
      have hnone : r₁.invoked.length = 0 := by rw [hinvoked₁, hinvoked, List.length_nil]
      dsimp only
      refine ⟨_, follows_of_steady hreport ?_, rfl⟩
      rw [← ht, ← hscenet, ← hnone]
      refine follows_runStages ?_ none hct
      rw [hreport.definitions]
      exact hl

/-- **The running chain gets on** as it is to. -/
theorem keepsTo_runChain (h : s.IsCalm) : KeepsTo s s.runChain := by
  have hleaves {r : Run} {s' : Session} (hr : s.engine.run = some r)
      (hl : s.Leaves (r.prospect s.scene) s') : KeepsTo s s' := by
    refine ⟨hl.calm, ?_, hl.definitions⟩
    rw [hl.prospect]
    unfold Session.prospect Engine.prospect
    rw [hr]
    rfl
  unfold runChain
  cases hr : s.engine.run with
  | none => exact keepsTo_refl h
  | some r =>
      dsimp only
      split
      · rename_i result hp
        refine hleaves hr ?_
        rw [show r.prospect s.scene = s.scene by simp [Run.prospect, hp]]
        exact leaves_finish h.toIsFair .completed result
      · exact keepsTo_refl h
      · rename_i hpacing hactive
        obtain ⟨y, hf, hy⟩ := follows_proceed h hr hactive hpacing
        refine hleaves hr ?_
        rw [hy]
        exact leaves_conclude h.toIsFair hf

/-! ## Other work -/

/-- A release gives a handler its turn, and the prospect is the same. -/
theorem keepsTo_release (h : s.IsCalm) : KeepsTo s s.release := by
  have hprospect (r : Run) (x : Scene) : r.release.prospect x = r.prospect x := by
    unfold Run.release Run.prospect
    cases hp : r.phase with
    | suspended p =>
        dsimp only
        split <;> rfl
    | _ => rfl
  have hrelease {r : Run} (hr : r.IsCalm s.registry.definitions) :
      r.release.IsCalm s.registry.definitions := by
    unfold Run.release
    split
    · rename_i p hp
      have hl := hr.suspended p hp
      refine ⟨hr.reason, hr.hooks, by rintro ⟨⟩, ?_⟩
      rintro _ ⟨⟩
      split
      · exact ⟨hl.handler, hl.rest⟩
      · exact hl
    · exact ⟨hr.reason, hr.hooks, hr.fresh, hr.suspended⟩
  have hrun : (s.engine.land .release).run = s.engine.run.map Run.release := rfl
  have hcalm : (s.engine.land .release).IsCalm s.registry.definitions := by
    refine ⟨h.queue, fun r hr => ?_⟩
    rw [hrun] at hr
    obtain ⟨r', hr', rfl⟩ := Option.map_eq_some_iff.mp hr
    exact hrelease (h.run r' hr')
  obtain ⟨hthere, hp, hdefinitions⟩ := isCalm_onEngine (m := .release) h.toIsFair rfl hcalm
  refine ⟨hthere, hp.trans ?_, hdefinitions⟩
  unfold Session.prospect Engine.prospect
  rw [hrun]
  cases s.engine.run with
  | none => rfl
  | some r => exact congrArg (Engine.queued s.engine.queue) (hprospect r s.scene)

/-- Callers that only wait change nothing but who waits for what. -/
theorem keepsTo_attend (h : s.IsCalm) (label : Nat) {errand : Errand}
    (herrand : errand.IsPatient) : KeepsTo s (s.attend label errand) := by
  have hawait (awaits : Until) (errand : Errand) (herrand : errand.IsPatient) :
      KeepsTo s (s.await label awaits errand) := by
    refine keepsTo_of_steady h ⟨fun _ => rfl, rfl, rfl, rfl, ?_, rfl⟩ rfl rfl
    intro hs c hc
    rcases List.mem_append.mp hc with hc | hc
    · exact hs c hc
    · obtain rfl := List.mem_singleton.mp hc
      exact herrand
  have hanswer (result : Pipe) : KeepsTo s (s.answerCaller label result) :=
    keepsTo_of_steady h ⟨fun _ => rfl, rfl, rfl, rfl, id, rfl⟩ rfl rfl
  have hjoin (result : Pipe) : KeepsTo s (s.join label result) := by
    unfold join
    split
    · exact hawait _ _ trivial
    · exact hanswer result
  cases errand with
  | collect id =>
      unfold attend
      dsimp only
      split
      · exact hanswer _
      · exact hawait _ _ trivial
  | execute id =>
      unfold attend
      dsimp only
      split
      · exact hjoin _
      · exact hawait _ _ trivial
  | join result => exact hjoin result
  | recover => exact herrand.elim

theorem keepsTo_trans (h : KeepsTo s t) (h' : KeepsTo t s') : KeepsTo s s' :=
  ⟨h'.calm, h'.prospect.trans h.prospect, h'.definitions.trans h.definitions⟩

theorem keepsTo_resumeCaller (h : s.IsCalm) (label : Nat) : KeepsTo s (s.resumeCaller label) := by
  unfold resumeCaller
  split
  · rename_i c hc
    have hleft : KeepsTo s
        { s with callers := s.callers.filter fun c => c.label ≠ label } := by
      refine keepsTo_of_steady h ⟨fun _ => rfl, rfl, rfl, rfl, ?_, rfl⟩ rfl rfl
      exact fun hs c hc => hs c (List.mem_filter.mp hc).1
    exact keepsTo_trans hleft
      (keepsTo_attend hleft.calm label (h.patient c (List.mem_of_find?_eq_some hc)))
  · exact keepsTo_refl h

theorem checkService_eq (h : s.HasNothingToRecover) (hw : s.isEnabled .watchdog = true)
    {critical : Value} (hc : critical ∈ s.watchdog.critical) :
    s.checkService critical = (s, .ok false) ∨ ∃ f, s.checkService critical = (s, .error f) := by
  rcases checkService_cases s critical with ⟨f, hone, -⟩ | ⟨hone, -⟩ | ⟨v, hv, hoff, rfl, -⟩
  · exact Or.inr ⟨f, hone⟩
  · exact Or.inl hone
  · rw [h hw v hv hc] at hoff
    cases hoff

theorem checkServices_eq (h : s.HasNothingToRecover) (hw : s.isEnabled .watchdog = true)
    {critical : List Value} (hc : ∀ v ∈ critical, v ∈ s.watchdog.critical) :
    s.checkServices critical = (s, .ok []) ∨ ∃ f, s.checkServices critical = (s, .error f) := by
  induction critical with
  | nil => exact Or.inl rfl
  | cons v vs ih =>
      unfold checkServices
      rcases checkService_eq h hw (hc v List.mem_cons_self) with hone | ⟨f, hone⟩
      · rw [hone]
        dsimp only
        rcases ih (fun u hu => hc u (List.mem_cons_of_mem _ hu)) with hmore | ⟨f, hmore⟩
        · rw [hmore]
          exact Or.inl rfl
        · rw [hmore]
          exact Or.inr ⟨f, rfl⟩
      · rw [hone]
        exact Or.inr ⟨f, rfl⟩

/-- A look at services that are all enabled changes nothing. -/
theorem check_eq (h : s.HasNothingToRecover) :
    s.check = (s, .ok []) ∨ ∃ f, s.check = (s, .error f) := by
  unfold check
  cases hw : s.isEnabled .watchdog with
  | false => exact Or.inl rfl
  | true =>
      have hcritical : ∀ v ∈ s.watchdog.critical, v ∈ s.watchdog.critical := fun _ hv => hv
      rcases checkServices_eq h hw hcritical with hall | ⟨f, hall⟩
      · rw [hall]
        exact Or.inl rfl
      · rw [hall]
        exact Or.inr ⟨f, rfl⟩

theorem keepsTo_arm (h : s.IsCalm) : KeepsTo s s.arm := by
  unfold arm
  split
  · exact keepsTo_refl h
  · split
    · exact keepsTo_of_steady h ⟨fun _ => rfl, rfl, rfl, rfl, id, rfl⟩ rfl rfl
    · exact keepsTo_of_steady h ⟨fun _ => rfl, rfl, rfl, rfl, id, rfl⟩ rfl rfl
    · exact keepsTo_refl h
    · exact keepsTo_of_steady h ⟨fun _ => rfl, rfl, rfl, rfl, id, rfl⟩ rfl rfl
    · exact keepsTo_of_steady h ⟨fun _ => rfl, rfl, rfl, rfl, id, rfl⟩ rfl rfl

theorem keepsTo_watch (h : s.IsCalm) : KeepsTo s s.watch := by
  unfold watch
  rcases check_eq h.unneeded with hcheck | ⟨f, hcheck⟩
  · rw [hcheck]
    exact keepsTo_arm h
  · rw [hcheck]
    have hreport : KeepsTo s (s.report .watchdog .error "watchdog check failed"
        [("error", (f.toProblem none).toValue)]) :=
      keepsTo_of_steady h ⟨fun _ => rfl, rfl, rfl, rfl, id, rfl⟩ rfl rfl
    exact keepsTo_trans hreport (keepsTo_arm hreport.calm)

theorem keepsTo_doJob (h : s.IsCalm) (job : Job) : KeepsTo s (s.doJob job) := by
  cases job with
  | chain => exact keepsTo_runChain h
  | caller label => exact keepsTo_resumeCaller h label
  | watch => exact keepsTo_watch h
  | arm => exact keepsTo_arm h

theorem keepsTo_takes (h : s.IsCalm) {job : Job} (ht : Takes s job t) : KeepsTo s t := by
  cases ht with
  | ready hready =>
      exact keepsTo_of_steady h ⟨fun _ => rfl, rfl, rfl, rfl, id, rfl⟩ rfl rfl
  | timer htimer now =>
      exact keepsTo_of_steady h ⟨fun _ => rfl, rfl, rfl, rfl, id, rfl⟩ rfl rfl

/-- **Work does not change the prospect.** -/
theorem keepsTo_works (h : s.IsCalm) (hw : Works s s') : KeepsTo s s' := by
  cases hw with
  | clock now =>
      exact keepsTo_of_steady h ⟨fun _ => rfl, rfl, rfl, rfl, id, rfl⟩ rfl rfl
  | release => exact keepsTo_release h
  | job htakes =>
      have ht := keepsTo_takes h htakes
      exact keepsTo_trans ht (keepsTo_doJob ht.calm _)

/-! ## Lines -/

/-- All commands that a line runs are local. -/
def IsLocalLine (text : String) (definitions : Table (Definition Program)) : Prop :=
  ∀ c ∈ chainsOf text, c.IsLocal definitions

/-- The session stays calm, and chains come to the end of the prospect. -/
structure Gains (s : Session) (chains : List Chain) (s' : Session) : Prop where
  calm : s'.IsCalm
  prospect : s'.prospect = chains.foldl Scene.chain s.prospect
  definitions : s'.registry.definitions = s.registry.definitions

theorem gains_enqueue (h : s.IsCalm) {c : Chain} (hl : c.IsLocal s.registry.definitions) :
    s.Gains [c] (s.make (.enqueue c)) := by
  have hrecorded := keepsTo_of_steady h (steady_recordAll s (s.engine.actions (.enqueue c))) rfl rfl
  have hland : (s.engine.land (.call (.enqueue c))).queue =
      s.engine.queue ++ [⟨s.engine.next, c⟩] := by
    simp [Engine.land, Engine.accepts, h.enabled]
  have hcalm : (s.engine.land (.call (.enqueue c))).IsCalm s.registry.definitions := by
    refine ⟨fun x hx => ?_, h.run⟩
    rw [hland] at hx
    rcases List.mem_append.mp hx with hx | hx
    · exact h.queue x hx
    · obtain rfl := List.mem_singleton.mp hx
      exact hl
  obtain ⟨hthere, hprospect, hdefinitions⟩ := isCalm_onEngine (m := .call (.enqueue c))
    hrecorded.calm.toIsFair (Engine.life_apply _ _) hcalm
  refine ⟨hthere, hprospect.trans ?_, hdefinitions⟩
  show Engine.queued (s.engine.land (.call (.enqueue c))).queue _ = _
  rw [hland]
  exact List.foldl_append

theorem gains_enqueueAll (h : s.IsCalm) {chains : List Chain}
    (hl : ∀ c ∈ chains, c.IsLocal s.registry.definitions) :
    s.Gains chains (chains.foldl (fun s c => s.make (.enqueue c)) s) := by
  induction chains generalizing s with
  | nil => exact ⟨h, rfl, rfl⟩
  | cons c chains ih =>
      have hone := gains_enqueue h (hl c List.mem_cons_self)
      have hmore := ih hone.calm fun d hd => by
        rw [hone.definitions]
        exact hl d (List.mem_cons_of_mem _ hd)
      refine ⟨hmore.calm, ?_, hmore.definitions.trans hone.definitions⟩
      rw [List.foldl_cons, hmore.prospect, hone.prospect]
      rfl

/-- A line adds its chains, and closes the prompt. -/
theorem gains_enqueueLine (h : s.IsCalm) {text : String}
    (hl : IsLocalLine text s.registry.definitions) :
    s.Gains (chainsOf text) (s.enqueueLine text).2 := by
  have hclosed : KeepsTo s s.closePrompt := by
    refine keepsTo_of_steady h ⟨fun _ => rfl, rfl, rfl, rfl, id, rfl⟩ rfl ?_
    unfold scene closePrompt
    rw [Option.map_map]
    rfl
  have hline := gains_enqueueAll hclosed.calm hl
  rw [enqueueLine_eq]
  refine ⟨hline.calm, ?_, hline.definitions.trans hclosed.definitions⟩
  rw [hline.prospect, hclosed.prospect]

/-- **A line comes to the end of the prospect**, whenever it is handed in. -/
theorem gains_handsIn (h : s.IsCalm) {text : String}
    (hl : IsLocalLine text s.registry.definitions) (hs : HandsIn s text s') :
    s.Gains (chainsOf text) s' := by
  have hline := gains_enqueueLine h hl
  cases hs with
  | submit => exact hline
  | execute hnew =>
      have hthen {t : Session} (hk : KeepsTo (s.enqueueLine text).2 t) :
          s.Gains (chainsOf text) t :=
        ⟨hk.calm, hk.prospect.trans hline.prospect, hk.definitions.trans hline.definitions⟩
      unfold execute
      split
      · rename_i heq
        rw [heq] at hthen hline
        exact hthen (keepsTo_attend hline.calm _ trivial)
      · rename_i heq
        rw [heq] at hthen hline
        exact hthen (keepsTo_attend hline.calm _ trivial)

end Session

end CommandShell
