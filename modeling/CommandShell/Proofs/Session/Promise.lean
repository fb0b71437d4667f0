import CommandShell.Proofs.Session.Healing

/-!
# Handlers that cancel nothing

A handler is peaceful if it neither interrupts nor cancels, and neither do the hooks
that it adds. It may do anything else: hand in lines, wait, fail, enable and disable
services. A session whose handlers are peaceful promises a prompt (`Promising`): as long
as none is open, somebody who interrupted has not recovered yet, or the chain that opens
one is still to be run. The stages of a chain keep this promise
(`promising_runStages`), and a line renews it (`promising_enqueueLine`).
-/

namespace CommandShell

/-! ## Peaceful handlers -/

/-- A call that cancels nothing. -/
def Call.IsPeaceful : Call → Prop
  | .interrupt _ | .cancel _ => False
  | _ => True

def Reaction.IsPeaceful : Reaction → Prop
  | .call c => c.IsPeaceful
  | _ => True

def Request.IsPeaceful : Request → Prop
  | .call c => c.IsPeaceful
  | .addHook hook => hook.Brings Reaction.IsPeaceful
  | _ => True

/-- A handler that cancels nothing, and whose hooks cancel nothing. -/
def Handler.IsPeaceful : Handler → Prop
  | .done _ | .fail _ => True
  | .pause _ rest => rest.IsPeaceful
  | .ask r rest => r.IsPeaceful ∧ ∀ answer, (rest answer).IsPeaceful

def Definition.IsPeaceful (d : Definition Program) : Prop := ∀ v, (d.handler v).IsPeaceful

def Registry.IsPeaceful (r : Registry Program) : Prop :=
  ∀ name d, r.definitions.get? name = some d → d.IsPeaceful

theorem Handler.isPeaceful_of_isTame {h : Handler} (ht : h.IsTame) : h.IsPeaceful := by
  induction h with
  | done outcome => trivial
  | fail failure => trivial
  | pause p rest ih => exact ht.elim
  | ask r rest ih =>
      refine ⟨?_, fun answer => ih answer (ht.2 answer)⟩
      cases r with
      | call c => exact ht.1.elim
      | addHook hook => exact ht.1.elim
      | _ => trivial

/-- The handler of a stage is peaceful where it has stopped. -/
def Stop.IsPeaceful : Stop → Prop
  | .paused _ rest => rest.IsPeaceful
  | _ => True

def Stand.IsPeaceful : Stand → Prop
  | .paused _ rest => rest.handler.IsPeaceful
  | _ => True

/-- The hooks of a running chain are peaceful, and so is the handler that waits. -/
structure Run.IsPeaceful (r : Run) : Prop where
  hooks : ∀ hook ∈ r.token.hooks, hook.Brings Reaction.IsPeaceful
  handler : ∀ p, r.phase = .suspended p → p.handler.IsPeaceful

/-- A move that brings nothing else into the running chain. -/
def Move.IsPeaceful : Move → Prop
  | .hook h => h.Brings Reaction.IsPeaceful
  | .phase (.suspended p) => p.handler.IsPeaceful
  | _ => True

/-- A move that leaves alone what is still to be run. -/
def Move.Spares : Move → Prop
  | .call c => c.IsPeaceful
  | .phase _ | .finish _ _ => False
  | _ => True

theorem Token.hooks_cancel {ε : Type} {P : Hook ε → Prop} {t : Token ε}
    (h : ∀ hook ∈ t.hooks, P hook) (reason : Option String) :
    ∀ hook ∈ (t.cancel reason).1.hooks, P hook := by
  unfold Token.cancel
  split
  · exact h
  · rintro _ ⟨⟩

namespace Run

variable {r : Run}

theorem isPeaceful_congr {r' : Run} (h : r.IsPeaceful) (ht : r'.token = r.token)
    (hp : r'.phase = r.phase) : r'.IsPeaceful where
  hooks := by rw [ht]; exact h.hooks
  handler := by rw [hp]; exact h.handler

theorem isPeaceful_apply (h : r.IsPeaceful) {m : Move} (hm : m.IsPeaceful) :
    (r.apply m).IsPeaceful := by
  cases m with
  | call c =>
      cases c with
      | interrupt reason => exact ⟨Token.hooks_cancel h.hooks reason, h.handler⟩
      | cancel reason => exact ⟨Token.hooks_cancel h.hooks reason, h.handler⟩
      | _ => exact h
  | hook hook =>
      refine ⟨?_, h.handler⟩
      show ∀ k ∈ (r.token.addHook hook).1.hooks, _
      unfold Token.addHook
      split
      · exact h.hooks
      · intro k hk
        rcases List.mem_append.mp hk with hk | hk
        · exact h.hooks k hk
        · obtain rfl := List.mem_singleton.mp hk
          exact hm
  | release =>
      show r.release.IsPeaceful
      unfold Run.release
      split
      · rename_i p hp
        refine ⟨h.hooks, ?_⟩
        intro q hq
        have hhandler := h.handler p hp
        obtain rfl := Phase.suspended.inj hq
        split <;> exact hhandler
      · exact isPeaceful_congr h rfl rfl
  | phase phase =>
      refine ⟨h.hooks, ?_⟩
      intro p hp
      obtain rfl : phase = .suspended p := hp
      exact hm
  | _ => exact isPeaceful_congr h rfl rfl

end Run

namespace Engine

variable {e : Engine} {c : Chain}

/-- An engine that moves sparingly still runs what it had to run. -/
theorem owes_of_spares {m : Move} (h : e.Owes c) (hm : m.Spares) : (e.apply m).Owes c := by
  have hrun {change : Run → Run} (hentry : ∀ r, (change r).entry = r.entry)
      (hphase : ∀ r, r.phase = .fresh → (change r).phase = .fresh)
      (htoken : ∀ r, (change r).token.isCancelled = r.token.isCancelled) :
      (e.onRun change).Owes c := by
    rcases h with hqueue | ⟨r, hr, hchain, hfresh, hcancelled⟩
    · exact Or.inl hqueue
    · refine Or.inr ⟨change r, by simp [onRun, hr], ?_, hphase r hfresh, ?_⟩
      · rw [hentry, hchain]
      · rw [htoken, hcancelled]
  cases m with
  | call c' =>
      refine owes_apply ?_
      cases c' with
      | enqueue chain =>
          rcases h with ⟨x, hx, hchain⟩ | hfresh
          · exact Or.inl ⟨x, List.mem_append_left _ hx, hchain⟩
          · exact Or.inr hfresh
      | interrupt reason => exact hm.elim
      | cancel reason => exact hm.elim
      | _ => exact h
  | hook k => exact hrun (fun _ => rfl) (fun _ => id) fun r => Token.isCancelled_addHook _ k
  | release => exact owes_release h
  | phase phase => exact hm.elim
  | finish status result => exact hm.elim
  | invoke program v => exact hrun (fun _ => rfl) (fun _ => id) fun _ => rfl
  | handOn pipe => exact hrun (fun _ => rfl) (fun _ => id) fun _ => rfl

/-- A chain that has begun may be cancelled, or come to another phase. -/
theorem owes_onRun {r : Run} (h : e.Owes c) (hr : e.run = some r) (hphase : r.phase ≠ .fresh)
    (change : Run → Run) : (e.onRun change).Owes c := by
  rcases h with hqueue | ⟨r', hr', -, hfresh, -⟩
  · exact Or.inl hqueue
  · obtain rfl := Option.some.inj (hr.symm.trans hr')
    exact absurd hfresh hphase

/-- At every moment of these moves the engine is enabled. -/
def StaysEnabled (e : Engine) (ms : List Move) : Prop :=
  ∀ before, before <+: ms → (e.play before).life.enabled = true

theorem staysEnabled_of_concat {ms : List Move} {m : Move} (h : e.StaysEnabled (ms ++ [m])) :
    e.StaysEnabled ms :=
  fun before hbefore => h before (hbefore.trans (List.prefix_append ms [m]))

theorem staysEnabled_of_take {ms : List Move}
    (h : ∀ n < ms.length + 1, (e.play (ms.take n)).life.enabled = true) : e.StaysEnabled ms := by
  intro before hbefore
  rw [List.prefix_iff_eq_take.mp hbefore]
  exact h _ (Nat.lt_succ_of_le hbefore.length_le)

end Engine

namespace Session

variable {excuse : Prop} {e₀ : Engine} {s s' s₀ t u : Session} {r : Run}

/-! ## Sessions that promise a prompt -/

/-- As long as no prompt is open, somebody will open one, if the engine was enabled all
the time and there is no excuse. -/
structure Promising (excuse : Prop) (e₀ : Engine) (s : Session) : Prop where
  peaceful : s.registry.IsPeaceful
  command : s.registry.definitions.get? "commandline" = some Builtin.commandline
  surface : s.surface.isSome = true
  attended : s.Attended
  engine : s.engine = e₀.play s.moves
  run : ∀ r, s.engine.run = some r → r.IsPeaceful
  prompts : e₀.StaysEnabled s.moves →
    excuse ∨ s.hasPrompt = true ∨ s.IsPending ∨ s.engine.Owes (Chain.single "commandline")

theorem promising_of_excuse {excuse' : Prop} (h : Promising excuse e₀ s)
    (hp : e₀.StaysEnabled s.moves →
      excuse' ∨ s.hasPrompt = true ∨ s.IsPending ∨
        s.engine.Owes (Chain.single "commandline")) : Promising excuse' e₀ s :=
  ⟨h.peaceful, h.command, h.surface, h.attended, h.engine, h.run, hp⟩

/-- What the promise takes from one session to another. -/
theorem promises_mono {o o' : Prop}
    (h : e₀.StaysEnabled s.moves → excuse ∨ s.hasPrompt = true ∨ s.IsPending ∨ o)
    (hon : e₀.StaysEnabled t.moves → e₀.StaysEnabled s.moves)
    (hprompt : s.hasPrompt = true → t.hasPrompt = true) (hpending : s.IsPending → t.IsPending)
    (howes : o → excuse ∨ o') :
    e₀.StaysEnabled t.moves → excuse ∨ t.hasPrompt = true ∨ t.IsPending ∨ o' := by
  intro henabled
  rcases h (hon henabled) with hx | hp | hp | ho
  · exact Or.inl hx
  · exact Or.inr (Or.inl (hprompt hp))
  · exact Or.inr (Or.inr (Or.inl (hpending hp)))
  · exact (howes ho).imp id fun ho' => Or.inr (Or.inr ho')

theorem promising_of_minds (h : Promising excuse e₀ s) (hm : Minds s t)
    (he : t.engine = s.engine) (hmoves : t.moves = s.moves) : Promising excuse e₀ t where
  peaceful := by
    unfold Registry.IsPeaceful
    rw [hm.definitions]
    exact h.peaceful
  command := by rw [hm.definitions]; exact h.command
  surface := by rw [hm.surface]; exact h.surface
  attended := hm.attended h.attended
  engine := by rw [he, hmoves]; exact h.engine
  run := by rw [he]; exact h.run
  prompts := by
    refine promises_mono h.prompts ?_ hm.prompt hm.pending ?_
    · rw [hmoves]
      exact id
    · rw [he]
      exact Or.inr

/-- Nothing is minded by what leaves all these things alone. -/
theorem promising_of_eq (h : Promising excuse e₀ s) (hr : t.registry = s.registry)
    (hw : t.watchdog = s.watchdog) (hwatched : t.watched = s.watched) (hb : t.broken = s.broken)
    (hs : t.surface = s.surface) (hc : t.callers = s.callers) (hready : t.ready = s.ready)
    (ht : t.timers = s.timers) (he : t.engine = s.engine) (hm : t.moves = s.moves) :
    Promising excuse e₀ t :=
  promising_of_minds h (minds_of_eq hr hw hwatched hb hs hc hready ht) he hm

/-- Commands may be registered and taken out. -/
theorem promising_onRegistry {ρ : Type} (h : Promising excuse e₀ s)
    {step : Registry.Step Program ρ} (hk : s.registry.Keeps step.registry) :
    Promising excuse e₀ (s.onRegistry step).1 where
  peaceful := by
    unfold Registry.IsPeaceful
    rw [show (s.onRegistry step).1.registry = step.registry from rfl, hk.definitions]
    exact h.peaceful
  command := by
    rw [show (s.onRegistry step).1.registry = step.registry from rfl, hk.definitions]
    exact h.command
  surface := h.surface
  attended := ⟨h.attended.1, h.attended.2, h.attended.3⟩
  engine := h.engine
  run := h.run
  prompts := h.prompts

theorem run_isPeaceful_onEngine (h : ∀ r, s.engine.run = some r → r.IsPeaceful) {m : Move}
    (hm : m.IsPeaceful) : ∀ r, (s.onEngine m).engine.run = some r → r.IsPeaceful := by
  intro r hr
  rw [onEngine_engine] at hr
  rcases Engine.run_apply_cases hr with ⟨r₀, hr₀, rfl⟩ | ⟨x, rfl⟩
  · exact Run.isPeaceful_apply (h r₀ hr₀) hm
  · constructor
    · rintro _ ⟨⟩
    · rintro _ ⟨⟩

/-- The engine moves, and still runs what it had to run, unless there is an excuse. -/
theorem promising_move (h : Promising excuse e₀ s) {m : Move} (hm : m.IsPeaceful)
    (howes : s.engine.Owes (Chain.single "commandline") →
      excuse ∨ (s.engine.apply m).Owes (Chain.single "commandline")) :
    Promising excuse e₀ (s.onEngine m) where
  peaceful := by
    unfold Registry.IsPeaceful
    rw [registry_onEngine]
    exact h.peaceful
  command := by rw [registry_onEngine]; exact h.command
  surface := by rw [(minds_onEngine s m).surface]; exact h.surface
  attended := attended_onEngine h.attended m
  engine := by rw [onEngine_engine, onEngine_moves, Engine.play_concat, h.engine]
  run := run_isPeaceful_onEngine h.run hm
  prompts := by
    have hminds := minds_onEngine s m
    refine promises_mono h.prompts ?_ hminds.prompt hminds.pending ?_
    · rw [onEngine_moves]
      exact Engine.staysEnabled_of_concat
    · rw [onEngine_engine]
      exact howes

theorem promising_onEngine (h : Promising excuse e₀ s) {m : Move} (hm : m.IsPeaceful)
    (hs : m.Spares) : Promising excuse e₀ (s.onEngine m) :=
  promising_move h hm fun howes => Or.inr (Engine.owes_of_spares howes hs)

/-- Whoever calls the engine keeps the promise if the engine does. -/
theorem promising_make_of_owes (h : Promising excuse e₀ s) {c : Call}
    (howes : s.engine.Owes (Chain.single "commandline") →
      excuse ∨ (s.engine.call c).Owes (Chain.single "commandline")) :
    Promising excuse e₀ (s.make c) := by
  have hrecorded : Promising excuse e₀ (s.recordAll (s.engine.actions c)) :=
    promising_of_eq h rfl rfl rfl rfl rfl rfl rfl rfl rfl rfl
  exact promising_move hrecorded trivial howes

theorem promising_make (h : Promising excuse e₀ s) {c : Call} (hc : c.IsPeaceful) :
    Promising excuse e₀ (s.make c) :=
  promising_make_of_owes h fun howes => Or.inr (Engine.owes_of_spares (m := .call c) howes hc)

/-! ## Lines -/

/-- **A line renews the promise**: its last chain opens a prompt. -/
theorem promising_enqueueLine {excuse' : Prop} (h : Promising excuse e₀ s) (text : String) :
    Promising excuse' e₀ (s.enqueueLine text).2 := by
  have hclosed : Promising True e₀ s.closePrompt := by
    refine ⟨h.peaceful, h.command, ?_, ⟨h.attended.1, h.attended.2, h.attended.3⟩, h.engine, h.run,
      fun _ => Or.inl trivial⟩
    rw [← h.surface]
    exact Option.isSome_map
  have hchains (chains : List Chain) {t : Session} (ht : Promising True e₀ t) :
      Promising True e₀ (chains.foldl (fun s c => s.make (.enqueue c)) t) := by
    induction chains generalizing t with
    | nil => exact ht
    | cons c chains ih => exact ih (promising_make ht trivial)
  rw [enqueueLine_eq, chainsOf_eq, List.foldl_append]
  have hbefore := hchains ((Chain.read? text).toList ++ [Chain.single "obuffer"]) hclosed
  generalize List.foldl _ _ _ = u at hbefore
  have hlast := promising_make hbefore (c := .enqueue (Chain.single "commandline")) trivial
  show Promising excuse' e₀ (u.make (.enqueue (Chain.single "commandline")))
  refine promising_of_excuse hlast fun henabled => ?_
  -- the engine was enabled when this chain was handed in, so it has taken it
  have heq : (u.make (.enqueue (Chain.single "commandline"))).engine =
      u.engine.apply (.call (.enqueue (Chain.single "commandline"))) := onEngine_engine _ _
  have hon := henabled _ (List.prefix_refl _)
  rw [← hlast.engine] at hon
  rw [heq, Engine.life_apply] at hon
  rw [heq]
  exact Or.inr (Or.inr (Or.inr (Engine.owes_enqueue hon)))

/-! ## What handlers and hooks ask for -/

theorem promising_react (h : Promising excuse e₀ s) (interruption : Refusal) (chain : String)
    {deed : Deed Reaction} (hd : deed.IsOf Reaction.IsPeaceful) :
    Promising excuse e₀ (s.react interruption chain deed) := by
  cases deed with
  | report f => exact promising_of_eq h rfl rfl rfl rfl rfl rfl rfl rfl rfl rfl
  | effect reaction =>
      cases reaction with
      | note id => exact promising_of_eq h rfl rfl rfl rfl rfl rfl rfl rfl rfl rfl
      | release stage =>
          show Promising excuse e₀ (if _ then s.release else s)
          split
          · exact promising_onEngine h trivial trivial
          · exact h
      | submit text => exact promising_enqueueLine h text
      | call c => exact promising_make h hd

theorem promising_reactAll (h : Promising excuse e₀ s) {deeds : List (Deed Reaction)}
    (hd : ∀ deed ∈ deeds, deed.IsOf Reaction.IsPeaceful) :
    Promising excuse e₀ (s.reactAll deeds) := by
  have hall (interruption : Refusal) (chain : String) {t : Session}
      (ht : Promising excuse e₀ t) :
      Promising excuse e₀ (deeds.foldl (fun s deed => s.react interruption chain deed) t) := by
    clear h
    induction deeds generalizing t with
    | nil => exact ht
    | cons deed deeds ih =>
        refine ih (fun deed' hdeed' => hd deed' (List.mem_cons_of_mem _ hdeed')) ?_
        exact promising_react ht interruption chain (hd deed List.mem_cons_self)
  unfold reactAll
  split
  · exact h
  · split
    · exact h
    · exact hall _ _ h

/-- The hooks of the running chain do nothing that is not peaceful. -/
theorem isOf_of_deeds (h : ∀ r, s.engine.run = some r → r.IsPeaceful) {m : Move}
    (hm : m.IsPeaceful) : ∀ deed ∈ s.engine.deeds m, deed.IsOf Reaction.IsPeaceful := by
  have hcancel (reason : Option String) :
      ∀ deed ∈ s.engine.run.elim [] fun r => (r.token.cancel reason).2.deeds,
        deed.IsOf Reaction.IsPeaceful := by
    cases hr : s.engine.run with
    | none => rintro _ ⟨⟩
    | some r =>
        show ∀ deed ∈ (r.token.cancel reason).2.deeds, _
        unfold Token.cancel
        split
        · rintro _ ⟨⟩
        · exact isOf_of_callAll (h r hr).hooks _
  unfold Engine.deeds
  split
  · exact hcancel _
  · exact hcancel _
  · rename_i hook
    cases hr : s.engine.run with
    | none => rintro _ ⟨⟩
    | some r =>
        show ∀ deed ∈ (r.token.addHook hook).2.deeds, _
        unfold Token.addHook
        split
        · refine isOf_of_callAll ?_ _
          intro k hk
          obtain rfl := List.mem_singleton.mp hk
          exact hm
        · rintro _ ⟨⟩
  · rintro _ ⟨⟩

theorem promising_call (h : Promising excuse e₀ s) {c : Call} (hc : c.IsPeaceful) :
    Promising excuse e₀ (s.call c) :=
  promising_reactAll (promising_make h hc) (isOf_of_deeds h.run trivial)

theorem promising_addHook (h : Promising excuse e₀ s) {hook : Hook Reaction}
    (hh : hook.Brings Reaction.IsPeaceful) : Promising excuse e₀ (s.addHook hook) :=
  promising_reactAll (promising_onEngine (m := .hook hook) h hh trivial)
    (isOf_of_deeds h.run (m := .hook hook) hh)

theorem promising_changeLife (h : Promising excuse e₀ s) {v : Service} (hv : v ≠ .engine)
    (step : Lifecycle → Lifecycle) : Promising excuse e₀ (s.changeLife v step) :=
  promising_of_minds h (minds_changeLife s v step) (around_changeLife s hv step).engine
    (around_changeLife s hv step).moves

theorem promising_enable (h : Promising excuse e₀ s) (v : Service) :
    Promising excuse e₀ (s.enable v) := by
  cases v with
  | engine => exact promising_make h trivial
  | _ => exact promising_changeLife h (by decide) _

theorem promising_disable (h : Promising excuse e₀ s) (v : Service) :
    Promising excuse e₀ (s.disable v) := by
  cases v with
  | engine => exact promising_make h trivial
  | _ => exact promising_changeLife h (by decide) _

theorem promising_requestPrompt (h : Promising excuse e₀ s) :
    Promising excuse e₀ s.requestPrompt :=
  promising_of_minds h (minds_requestPrompt s).1 (around_requestPrompt s).engine
    (around_requestPrompt s).moves

/-- Nobody needs an excuse once a prompt is open. -/
theorem promising_of_hasPrompt {excuse' : Prop} (h : Promising excuse e₀ s)
    (hp : s.hasPrompt = true) : Promising excuse' e₀ s :=
  promising_of_excuse h fun _ => Or.inr (Or.inl hp)

/-- **Peaceful requests** keep the promise. -/
theorem promising_reply (h : Promising excuse e₀ s) {r : Request} (hr : r.IsPeaceful) :
    Promising excuse e₀ (s.reply r).1 := by
  cases r with
  | submit text => exact promising_enqueueLine h text
  | call c => exact promising_call h hr
  | enable name =>
      show Promising excuse e₀ (s.enableNamed name).1
      unfold enableNamed
      split
      · exact promising_enable h _
      · exact h
  | disable name =>
      show Promising excuse e₀ (s.disableNamed name).1
      unfold disableNamed
      split
      · exact promising_disable h _
      · exact h
  | register name => exact promising_onRegistry h (Registry.keeps_register _ _)
  | unregister name => exact promising_onRegistry h (Registry.keeps_unregister _ _)
  | render line => exact promising_of_minds h (minds_render s line) rfl rfl
  | addHook hook => exact promising_addHook h hr
  | flush =>
      exact promising_of_minds h (minds_flush s) (around_flush s).engine (around_flush s).moves
  | clearSurface =>
      exact promising_of_minds h (minds_clearSurface s) (around_clearSurface s).engine
        (around_clearSurface s).moves
  | prompt => exact promising_requestPrompt h
  | definition name =>
      refine promising_onRegistry h ⟨?_, ?_⟩
      · rw [Registry.lookup_registry]
      · rw [Registry.lookup_registry]
  | _ => exact promising_of_eq h rfl rfl rfl rfl rfl rfl rfl rfl rfl rfl

/-! ## The stages of a chain -/

theorem promising_runHandler {handler : Handler} (hh : handler.IsPeaceful)
    (h : Promising excuse e₀ s) :
    Promising excuse e₀ (runHandler handler s).1 ∧ (runHandler handler s).2.IsPeaceful := by
  induction handler generalizing s with
  | done outcome => exact ⟨h, trivial⟩
  | fail failure => exact ⟨h, trivial⟩
  | pause p rest ih =>
      cases p with
      | release =>
          unfold runHandler
          split
          · exact ih hh h
          · exact ⟨h, hh⟩
      | turn => exact ⟨h, hh⟩
      | sleep millis => exact ⟨h, hh⟩
  | ask r rest ih =>
      unfold runHandler
      exact ih _ (hh.2 _) (promising_reply h hh.1)

theorem promising_beginStage (h : Promising excuse e₀ s) (f : Fragment) (pipe : Pipe) :
    Promising excuse e₀ (s.beginStage f pipe).1 ∧
      ∀ handler, (s.beginStage f pipe).2 = .ok handler → handler.IsPeaceful := by
  have hstep {s₁ s₂ : Session} {ρ : Type} {step : Registry.Step Program ρ} {result : ρ}
      (h₁ : Promising excuse e₀ s₁) (hk : s₁.registry.Keeps step.registry)
      (heq : s₁.onRegistry step = (s₂, result)) : Promising excuse e₀ s₂ := by
    obtain ⟨rfl, -⟩ := Prod.mk.inj heq
    exact promising_onRegistry h₁ hk
  have hlook : s.registry.Keeps (s.registry.lookup f.name).registry := by
    rw [Registry.lookup_registry]
    exact ⟨rfl, rfl⟩
  unfold beginStage
  split
  · rename_i s₁ hlookup
    exact ⟨hstep h hlook hlookup, by rintro _ ⟨⟩⟩
  · rename_i s₁ d hlookup
    have h₁ := hstep h hlook hlookup
    have hd := h.peaceful _ _ (Registry.definition_of_lookup (onRegistry_eq hlookup).2)
    have hverified {s₂ : Session} {x : Except Numeral.Fault Verification}
        (hverify : s₁.onRegistry (s₁.registry.verify f.name f.args f.flags) = (s₂, x)) :
        Promising excuse e₀ s₂ := hstep h₁ (Registry.keeps_verify _ _ _ _) hverify
    split
    · rename_i hverify
      exact ⟨hverified hverify, by rintro _ ⟨⟩⟩
    · rename_i hverify
      exact ⟨hverified hverify, by rintro _ ⟨⟩⟩
    · rename_i s₂ flags hverify
      have hrecorded (what : String) : Promising excuse e₀ (s₂.record .engine what) :=
        promising_of_eq (hverified hverify) rfl rfl rfl rfl rfl rfl rfl rfl rfl rfl
      dsimp only
      split
      · exact ⟨hrecorded _, by rintro _ ⟨⟩⟩
      · refine ⟨promising_onEngine (hrecorded _) trivial trivial, ?_⟩
        rintro _ ⟨⟩
        exact hd _

theorem promising_carryOn {rest : List Fragment} {next : Pipe → Session → Session × Stand}
    (name : String) (pipe : Pipe) {handler : Handler} (hh : handler.IsPeaceful)
    (h : Promising excuse e₀ s)
    (hnext : ∀ pipe t, Promising excuse e₀ t →
      Promising excuse e₀ (next pipe t).1 ∧ (next pipe t).2.IsPeaceful) :
    Promising excuse e₀ (carryOn rest next name pipe (runHandler handler s)).1 ∧
      (carryOn rest next name pipe (runHandler handler s)).2.IsPeaceful := by
  obtain ⟨hthere, hstop⟩ := promising_runHandler hh h
  generalize runHandler handler s = there at hthere hstop
  obtain ⟨s₁, stop⟩ := there
  cases stop with
  | failed failure => exact ⟨hthere, trivial⟩
  | paused p rest => exact ⟨hthere, hstop⟩
  | done outcome =>
      simp only [carryOn]
      cases outcome.toPipe name with
      | error failure => exact ⟨hthere, trivial⟩
      | ok result => exact hnext result _ (promising_onEngine hthere trivial trivial)

/-- **The stages of a chain keep the promise.** -/
theorem promising_runStages (fs : List Fragment) (pipe : Pipe) (h : Promising excuse e₀ s) :
    Promising excuse e₀ (runStages fs pipe s).1 ∧ (runStages fs pipe s).2.IsPeaceful := by
  induction fs generalizing pipe s with
  | nil =>
      unfold runStages
      split <;> exact ⟨h, trivial⟩
  | cons f rest ih =>
      unfold runStages
      split
      · exact ⟨promising_of_eq h rfl rfl rfl rfl rfl rfl rfl rfl rfl rfl, trivial⟩
      · obtain ⟨hbegun, hhandler⟩ := promising_beginStage h f pipe
        generalize s.beginStage f pipe = there at hbegun hhandler
        obtain ⟨s₁, begun⟩ := there
        cases begun with
        | error failure => exact ⟨hbegun, trivial⟩
        | ok handler =>
            exact promising_carryOn f.name pipe (hhandler handler rfl) hbegun fun pipe t =>
              ih pipe

end Session

end CommandShell
