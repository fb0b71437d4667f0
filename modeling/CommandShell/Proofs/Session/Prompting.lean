import CommandShell.Proofs.Session.Shell

/-!
# One prompt

However lines, interruptions, looks of the watchdog and the work of chains follow each
other, two prompts are never opened without a line in between. And if the engine and the
registry stay enabled and handlers cancel nothing, then a shell that is at rest has
opened one prompt since the last line (`prompts_of_run`). The first half is that prompts
and lines alternate; the second half is that the promise of a prompt is kept by whatever
happens (`promising_happens`), and at rest there is no other way to keep it than a
prompt that is open.
-/

namespace CommandShell

open Presenter (promptCount)

namespace Session

variable {excuse : Prop} {e₀ : Engine} {s s' s₀ t u : Session} {x : Entry} {r : Run}

theorem promising_of_idles (h : Promising excuse e₀ s) (hi : Idles s t) :
    Promising excuse e₀ t :=
  promising_of_minds h hi.toMinds hi.engine hi.moves

/-! ## Chains that end or wait -/

theorem promising_finish (h : Promising excuse e₀ s) (hr : s.engine.run = some r)
    (hphase : r.phase ≠ .fresh) (status : Status) (result : Pipe) :
    Promising excuse e₀ (s.finish status result) := by
  have hended : Promising excuse e₀ (s.onEngine (.finish status result)) :=
    promising_move h trivial fun howes => Or.inr (Engine.owes_finish howes hr hphase _ _)
  -- the callers that are woken are not those who have to recover
  exact ⟨hended.peaceful, hended.command, hended.surface, attended_wake hended.attended rfl,
    hended.engine, hended.run, promises_mono hended.prompts id id
      (fun hp => isPending_wake hp _) Or.inr⟩

/-- A chain that has begun comes to another phase. -/
theorem promising_setPhase (h : Promising excuse e₀ s) (hr : s.engine.run = some r)
    (hphase : r.phase ≠ .fresh) {phase : Phase} (hp : (Move.phase phase).IsPeaceful) :
    Promising excuse e₀ (s.setPhase phase) :=
  promising_move h hp fun howes => Or.inr (Engine.owes_onRun howes hr hphase _)

theorem promising_timer (h : Promising excuse e₀ s) (due : Rat) {job : Job}
    (hjob : job.caller? = none) :
    Promising excuse e₀ { s with timers := s.timers ++ [⟨due, job⟩] } :=
  promising_of_minds h (minds_timer s due hjob) rfl rfl

theorem phase_ne_fresh (h : s.Active x r) : r.phase ≠ .fresh := by
  rw [h.phase]
  rintro ⟨⟩

/-- Whatever ends a chain keeps the promise, also the end of its task. -/
theorem promising_fail (h : Promising excuse e₀ s) (ha : s.Active x r) (pipe : Pipe)
    (failure : Failure) : Promising excuse e₀ (s.fail pipe failure) := by
  by_cases hf : failure = .cancelled
  · subst hf
    have hmade : Promising excuse e₀ (s.make (.cancel (some "task cancelled"))) :=
      promising_make_of_owes h fun howes =>
        Or.inr (Engine.owes_onRun howes ha.run (phase_ne_fresh ha) _)
    have hcancelled : Promising excuse e₀ (s.cancelRun (some "task cancelled")) :=
      promising_reactAll hmade (isOf_of_deeds h.run trivial)
    have hcalls : Calls s (s.cancelRun (some "task cancelled")) := calls_call s _
    obtain ⟨r', ha', -⟩ := active_of_calls ha hcalls
    exact promising_finish hcancelled ha'.run (phase_ne_fresh ha') _ _
  · obtain ⟨u, hwrites, heq⟩ := fail_eq_finish hf s pipe
    have hidles := idles_of_writes hwrites
    rw [heq]
    refine promising_finish (promising_of_idles h hidles) ?_ (phase_ne_fresh ha) _ _
    rw [hidles.engine]
    exact ha.run

theorem promising_suspend (h : Promising excuse e₀ s) (ha : s.Active x r) (pause : Pause)
    {p : Suspended} (hp : p.handler.IsPeaceful) : Promising excuse e₀ (s.suspend pause p) := by
  have hwait (wait : Wait) : Promising excuse e₀ (s.setPhase (.suspended { p with wait })) :=
    promising_setPhase h ha.run (phase_ne_fresh ha) hp
  cases pause with
  | turn => exact hwait .turn
  | release => exact hwait .release
  | sleep millis =>
      unfold suspend
      dsimp only
      split
      · exact hwait .turn
      · exact promising_timer (hwait .sleep) _ rfl

theorem promising_conclude {stand : Stand} (h : Promising excuse e₀ s) (hf : s.Fits x stand)
    (hp : stand.IsPeaceful) : Promising excuse e₀ (s.conclude stand) := by
  cases stand with
  | broken pipe failure =>
      obtain ⟨r, ha, -⟩ := hf
      exact promising_fail h ha pipe failure
  | paused pause rest =>
      obtain ⟨r, ha, -⟩ := hf
      exact promising_suspend h ha pause hp
  | complete pipe =>
      obtain ⟨r, ha, -⟩ := hf
      have hover : (Stand.complete pipe).IsOver := trivial
      obtain ⟨u, hidles, hcases⟩ := conclude_cases hover s
      have hu := promising_of_idles h hidles
      have hr : u.engine.run = some r := by rw [hidles.engine]; exact ha.run
      have hpacing (result : Pipe) : Promising excuse e₀ (u.setPhase (.pacing result)) :=
        promising_setPhase hu hr (phase_ne_fresh ha) trivial
      rcases hcases with ⟨status, result, heq⟩ | ⟨result, heq | ⟨due, heq⟩⟩
      · rw [heq]
        exact promising_finish hu hr (phase_ne_fresh ha) status result
      · rw [heq]
        exact hpacing result
      · rw [heq]
        exact promising_timer (hpacing result) due rfl

/-! ## The running chain -/

theorem promising_started (h : Promising excuse e₀ (s.setPhase .active)) (r : Run) :
    Promising excuse e₀ ((s.setPhase .active).report .engine .info "chain started"
      [("chain", .str r.entry.label)]) :=
  promising_of_eq h rfl rfl rfl rfl rfl rfl rfl rfl rfl rfl

/-- A chain that is there to open the prompt opens it, unless it is cancelled. -/
theorem promising_commandline (h : Promising False e₀ s)
    (hon : s.registry.isRegistered "commandline" = true) (hr : s.engine.run = some r)
    (hchain : r.entry.chain = Chain.single "commandline")
    (hcancelled : r.token.isCancelled = false) {u : Session}
    (hu : (s.setPhase .active).report .engine .info "chain started"
      [("chain", .str r.entry.label)] = u) :
    Promising False e₀ (runStages r.entry.chain.fragments none u).1 ∧
      (runStages r.entry.chain.fragments none u).2.IsPeaceful := by
  have hbegun : Promising True e₀ (s.setPhase .active) :=
    promising_move (promising_of_excuse h fun _ => Or.inl trivial) trivial
      fun _ => Or.inl trivial
  have hthere := promising_started hbegun r
  rw [hu] at hthere
  have hregistry : u.registry = s.registry := by
    subst hu
    exact registry_onEngine s _
  have hi : u.interruption? = none := by
    have hrun : u.engine.run = some { r with phase := .active } := by
      subst hu
      exact run_setPhase hr .active
    unfold interruption?
    rw [hrun]
    simpa [Token.interruption?, Token.isCancelled] using hcancelled
  obtain ⟨hstages, hpeace⟩ := promising_runStages r.entry.chain.fragments none hthere
  -- the promise is excused on the way, and kept at the end because the prompt is open
  refine ⟨promising_of_hasPrompt hstages ?_, hpeace⟩
  rw [hchain]
  exact hasPrompt_runStages hthere.command (by rw [hregistry]; exact hon) hthere.surface hi none

/-- A chain that begins opens the prompt if that is what it is for. Any other chain
leaves it to those that come after it. -/
theorem promising_proceed (h : Promising False e₀ s)
    (hon : s.registry.isRegistered "commandline" = true) (hr : s.engine.run = some r) :
    Promising False e₀ (s.proceed r).1 ∧ (s.proceed r).2.IsPeaceful := by
  unfold proceed
  split
  · rename_i p hp
    have hfresh : r.phase ≠ .fresh := by
      rw [hp]
      rintro ⟨⟩
    have hbegun : Promising False e₀ (s.setPhase .active) :=
      promising_setPhase h hr hfresh trivial
    exact promising_carryOn p.name p.pipe ((h.run r hr).handler p hp) hbegun fun pipe t =>
      promising_runStages p.rest pipe
  · by_cases hmine : r.entry.chain = Chain.single "commandline" ∧ r.token.isCancelled = false
    · exact promising_commandline h hon hr hmine.1 hmine.2 rfl
    · have hbegun : Promising False e₀ (s.setPhase .active) := by
        -- the debt is not this chain's, so it is with those that wait
        refine promising_move h trivial fun howes => Or.inr ?_
        rcases howes with hqueue | ⟨r', hr', hchain, -, hcancelled⟩
        · exact Or.inl hqueue
        · obtain rfl := Option.some.inj (hr.symm.trans hr')
          exact absurd ⟨hchain, hcancelled⟩ hmine
      exact promising_runStages r.entry.chain.fragments none (promising_started hbegun r)

/-- **The running chain keeps the promise.** -/
theorem promising_runChain (h : Promising False e₀ s)
    (hon : s.registry.isRegistered "commandline" = true)
    (hfits : ∀ r, s.engine.run = some r → (∀ result, r.phase ≠ .pacing result) →
      (s.proceed r).1.Fits r.entry (s.proceed r).2) : Promising False e₀ s.runChain := by
  unfold runChain
  cases hr : s.engine.run with
  | none => exact h
  | some r =>
      dsimp only
      split
      · rename_i result hp
        refine promising_finish h hr ?_ .completed result
        rw [hp]
        rintro ⟨⟩
      · exact h
      · rename_i hpacing _
        obtain ⟨hthere, hpeace⟩ := promising_proceed h hon hr
        exact promising_conclude hthere (hfits r hr hpacing) hpeace

/-! ## Callers -/

theorem promising_await (h : Promising excuse e₀ s) {label : Nat} (hnew : s.IsUnused label)
    {awaits : Until} (hawaits : awaits ≠ .woken) (errand : Errand) :
    Promising excuse e₀ (s.await label awaits errand) :=
  ⟨h.peaceful, h.command, h.surface, attended_await h.attended hnew hawaits errand, h.engine,
    h.run, promises_mono h.prompts id id (fun hp => isPending_await hp label _ _) Or.inr⟩

theorem promising_answerCaller (h : Promising excuse e₀ s) (label : Nat) (result : Pipe) :
    Promising excuse e₀ (s.answerCaller label result) :=
  promising_of_eq h rfl rfl rfl rfl rfl rfl rfl rfl rfl rfl

/-- Whoever recovers opens a prompt. -/
theorem promising_recover {excuse' : Prop} (h : Promising excuse e₀ s) :
    Promising excuse' e₀ s.recover := by
  have hflush : Promising excuse e₀ s.flush :=
    promising_of_minds h (minds_flush s) (around_flush s).engine (around_flush s).moves
  have hadvance : Promising excuse e₀ s.flush.advance := promising_make hflush trivial
  exact promising_of_hasPrompt (promising_requestPrompt hadvance)
    ((minds_requestPrompt _).2 hadvance.surface)

theorem promising_attend (h : Promising excuse e₀ s) {label : Nat} (hnew : s.IsUnused label)
    (errand : Errand) : Promising excuse e₀ (s.attend label errand) := by
  have hjoin (result : Pipe) : Promising excuse e₀ (s.join label result) := by
    unfold join
    split
    · exact promising_await h hnew (by rintro ⟨⟩) _
    · exact promising_answerCaller h label result
  cases errand with
  | collect id =>
      unfold attend
      dsimp only
      split
      · exact promising_answerCaller h label _
      · exact promising_await h hnew (by rintro ⟨⟩) _
  | execute id =>
      unfold attend
      dsimp only
      split
      · exact hjoin _
      · exact promising_await h hnew (by rintro ⟨⟩) _
  | join result => exact hjoin result
  | recover => exact promising_answerCaller (promising_recover h) label none

theorem promising_handsIn (h : Promising excuse e₀ s) {text : String} (hs : HandsIn s text s') :
    Promising excuse e₀ s' := by
  have hline : Promising excuse e₀ (s.enqueueLine text).2 := promising_enqueueLine h text
  cases hs with
  | submit => exact hline
  | execute hnew =>
      have hfree := isUnused_of_labels hnew (labels_enqueueLine s text)
      unfold execute
      split
      · rename_i heq
        rw [heq] at hline hfree
        exact promising_attend hline hfree _
      · rename_i heq
        rw [heq] at hline hfree
        exact promising_attend hline hfree _

/-- What the hooks of a chain do brings no caller and lets none go. -/
theorem labels_reactAll (s : Session) (deeds : List (Deed Reaction)) :
    ((s.reactAll deeds).callers.map fun c => c.label) = s.callers.map fun c => c.label := by
  have hdeed (t : Session) (interruption : Refusal) (chain : String) (deed : Deed Reaction) :
      ((t.react interruption chain deed).callers.map fun c => c.label) =
        t.callers.map fun c => c.label := by
    cases deed with
    | report f => rfl
    | effect reaction =>
        cases reaction with
        | note id => rfl
        | release stage =>
            show ((if _ then t.release else t).callers.map fun c : Caller => c.label) = _
            split
            · exact labels_onEngine t _
            · rfl
        | submit text => exact labels_enqueueLine t text
        | call c => exact (minds_make t c).labels
  have hall (interruption : Refusal) (chain : String) (t : Session) :
      ((deeds.foldl (fun s deed => s.react interruption chain deed) t).callers.map
        fun c => c.label) = t.callers.map fun c => c.label := by
    induction deeds generalizing t with
    | nil => rfl
    | cons deed deeds ih => exact (ih _).trans (hdeed t _ _ deed)
  unfold reactAll
  split
  · rfl
  · split
    · rfl
    · exact hall _ _ s

/-- **An interruption makes another promise**: whoever has interrupted opens a prompt
once the running chain is over. -/
theorem promising_interrupts (h : Promising excuse e₀ s) (hs : Interrupts s s') :
    Promising excuse e₀ s' := by
  obtain ⟨hnew, reason⟩ := hs
  rename_i label
  have hmade : Promising True e₀ (s.make (.interrupt reason)) :=
    promising_make_of_owes (promising_of_excuse h fun _ => Or.inl trivial) fun _ =>
      Or.inl trivial
  have hinterrupted : Promising True e₀ (s.interrupt reason) :=
    promising_reactAll hmade (isOf_of_deeds h.run trivial)
  have hfree : (s.interrupt reason).IsUnused label := by
    refine isUnused_of_labels hnew ?_
    exact (labels_reactAll _ _).trans (minds_make s _).labels
  unfold interruptAndRecover
  dsimp only
  split
  · have hwaits := promising_await hinterrupted hfree
      (show Until.ending ≠ .woken by rintro ⟨⟩) .recover
    -- until the running chain is over, the one who waits for it is the promise
    refine promising_of_excuse hwaits fun _ => Or.inr (Or.inr (Or.inl ?_))
    exact ⟨_, List.mem_append_right _ List.mem_cons_self, rfl⟩
  · exact promising_answerCaller (promising_recover hinterrupted) label none

theorem moves_of_takes {job : Job} (h : Takes s job t) : t.moves = s.moves := by
  cases h <;> rfl

theorem promising_takes (h : Promising excuse e₀ s) {job : Job} (hjob : job.caller? = none)
    (ht : Takes s job t) : Promising excuse e₀ t := by
  obtain ⟨he, -⟩ := takes_eq ht
  have hmoves := moves_of_takes ht
  exact promising_of_minds h (minds_takes hjob ht) he hmoves

/-- **A caller that goes on keeps the promise**, and makes it true if it is the one that
was waited for. -/
theorem promising_resumeCaller (h : Promising excuse e₀ s) {label : Nat}
    (ht : Takes s (.caller label) t) : Promising excuse e₀ (t.resumeCaller label) := by
  obtain ⟨he, hr, -, -, -, hs⟩ := takes_eq ht
  have hmoves := moves_of_takes ht
  obtain ⟨hattended, hfree, c, hfind, hpending, -⟩ := resumed_of_takes h.attended ht
  have hleft {excuse' : Prop} (hstays : excuse' ∨ (s.IsPending → (t.without label).IsPending))
      (hx : excuse → excuse') : Promising excuse' e₀ (t.without label) := by
    have hengine : (t.without label).engine = s.engine := he
    have hregistry : (t.without label).registry = s.registry := hr
    have hsurface : (t.without label).surface = s.surface := hs
    refine ⟨?_, ?_, ?_, hattended, ?_, ?_, ?_⟩
    · rw [hregistry]
      exact h.peaceful
    · rw [hregistry]
      exact h.command
    · rw [hsurface]
      exact h.surface
    · rw [hengine]
      exact h.engine.trans (congrArg _ hmoves.symm)
    · rw [hengine]
      exact h.run
    · intro henabled
      rcases hstays with hx' | hstays
      · exact Or.inl hx'
      · have hbefore : e₀.StaysEnabled s.moves := hmoves ▸ henabled
        rcases h.prompts hbefore with hexcuse | hprompt | hp | howes
        · exact Or.inl (hx hexcuse)
        · exact Or.inr (Or.inl ((hasPrompt_congr hsurface).trans hprompt))
        · exact Or.inr (Or.inr (Or.inl (hstays hp)))
        · exact Or.inr (Or.inr (Or.inr (by rw [hengine]; exact howes)))
  have hresume : t.resumeCaller label = (t.without label).attend label c.errand := by
    unfold resumeCaller
    rw [hfind]
    rfl
  rw [hresume]
  by_cases hc : c.errand = .recover
  · rw [hc]
    have hany : Promising True e₀ (t.without label) := hleft (Or.inl trivial) fun _ => trivial
    exact promising_answerCaller (promising_recover hany) label none
  · exact promising_attend (hleft (Or.inr fun hp => (hpending hp).resolve_left hc) id) hfree _

/-! ## The watchdog -/

theorem promising_checkServices (h : Promising excuse e₀ s) (vs : List Value) :
    Promising excuse e₀ (s.checkServices vs).1 := by
  induction vs generalizing s with
  | nil => exact h
  | cons v vs ih =>
      unfold checkServices
      rcases checkService_cases s v with ⟨f, hone, -⟩ | ⟨hone, -, -⟩ | ⟨w, -, -, -, hone⟩
      · rw [hone]
        exact h
      · rw [hone]
        exact ih h
      · rw [hone]
        have hrecovered : Promising excuse e₀ ((s.enable w).recovered w.name) :=
          promising_of_idles (promising_enable h w) (idles_recovered _ _)
        dsimp only
        split <;> exact ih hrecovered

theorem promising_watch (h : Promising excuse e₀ s) : Promising excuse e₀ s.watch := by
  have harm {t : Session} (ht : Promising excuse e₀ t) : Promising excuse e₀ t.arm :=
    promising_of_minds ht (minds_arm t) (around_arm t).engine (around_arm t).moves
  have hcheck : Promising excuse e₀ s.check.1 := by
    have hall := promising_checkServices h s.watchdog.critical
    unfold check
    split
    · exact h
    · generalize s.checkServices s.watchdog.critical = there at hall
      obtain ⟨t, result⟩ := there
      cases result with
      | error f => exact hall
      | ok names =>
          dsimp only
          split
          · exact hall
          · exact promising_requestPrompt hall
  unfold watch
  generalize s.check = there at hcheck
  obtain ⟨t, result⟩ := there
  cases result with
  | ok names => exact harm hcheck
  | error f => exact harm (promising_of_eq hcheck rfl rfl rfl rfl rfl rfl rfl rfl rfl rfl)

/-! ## Whatever happens -/

/-- **Whatever happens keeps the promise**, if the chain that opens a prompt can be
run. -/
theorem promising_happens (h₀ : s₀.IsStart) (hreached : Reaches s₀ s)
    (h : Promising False e₀ s) (hon : s.registry.isRegistered "commandline" = true)
    (hs : Happens s s') : Promising False e₀ s' := by
  cases hs with
  | line hline => exact promising_handsIn h hline
  | interruption hinterrupts => exact promising_interrupts h hinterrupts
  | work hworks =>
      cases hworks with
      | clock now => exact promising_of_eq h rfl rfl rfl rfl rfl rfl rfl rfl rfl rfl
      | release => exact promising_onEngine h trivial trivial
      | job htakes =>
          rename_i job t
          cases job with
          | caller label => exact promising_resumeCaller h htakes
          | watch => exact promising_watch (promising_takes h rfl htakes)
          | arm =>
              exact promising_of_minds (promising_takes h rfl htakes) (minds_arm t)
                (around_arm t).engine (around_arm t).moves
          | chain =>
              obtain ⟨hleads, htasked⟩ := reached h₀ hreached
              obtain ⟨he, -, hturns, hsleeps, r, hr, hphase⟩ :=
                run_of_wakes htasked (wakes_of_takes htakes)
              obtain ⟨hfits, hstep⟩ := run_of_leads h₀ hleads hr
              have hregistry : t.registry = s.registry := (takes_eq htakes).2.1
              refine promising_runChain (promising_takes h rfl htakes)
                (by rw [hregistry]; exact hon) ?_
              · intro r' hr' hpacing
                rw [he] at hr'
                obtain rfl := Option.some.inj (hr.symm.trans hr')
                exact (arrives_proceed (by rw [he]; exact hr) hfits hstep hpacing hphase hturns
                  hsleeps).fits

/-- Something happens while the chain that opens a prompt can be run. -/
def Served (s t : Session) : Prop :=
  s.registry.isRegistered "commandline" = true ∧ Happens s t

theorem alternates_of_run (h : s.Alternates) (hrun : Relation.ReflTransGen Happens s t) :
    t.Alternates := by
  induction hrun with
  | refl => exact h
  | tail _ hstep ih => exact alternates_of_tells ih (tells_happens (C := True) (P := fun _ => True)
      (fun _ => trivial) trivial hstep)

theorem promising_of_run (h₀ : s₀.IsStart) (h : Promising False e₀ s₀)
    (hrun : Relation.ReflTransGen Served s₀ s) : Reaches s₀ s ∧ Promising False e₀ s := by
  induction hrun with
  | refl => exact ⟨Relation.ReflTransGen.refl, h⟩
  | tail _ hstep ih =>
      obtain ⟨hreached, hthere⟩ := ih
      obtain ⟨hon, hhappens⟩ := hstep
      exact ⟨hreached.trans (reaches_happens hhappens),
        promising_happens h₀ hreached hthere hon hhappens⟩

/-- **Exactly one prompt.** Whatever happens to a shell that has been started, a line was
handed in between any two prompts. And if the engine was enabled all the time and the
chain that opens a prompt could always be run, then one prompt was opened since the last
line, whenever nothing runs or waits in the queue and nobody who interrupted is about to
recover. -/
theorem prompts_of_run {settings : Settings} (h₀ : IsShell settings Definition.IsPeaceful s₀) :
    (∀ s, Relation.ReflTransGen Happens s₀.start s → s.PromptsApart) ∧
      ∀ s, .str "commandline" ∈ settings.registered →
        Relation.ReflTransGen Served s₀.start s → s₀.engine.StaysEnabled s.moves →
          s.engine.run = none → s.engine.queue = [] → ¬ s.IsPending →
            promptCount s.sinceLine = 1 := by
  have halternates : s₀.start.Alternates :=
    alternates_of_tells (alternates_of_isShell h₀) (tells_start s₀ (C := True) (Q := fun _ => True))
  constructor
  · intro s hrun
    exact (alternates_of_run halternates hrun).apart
  · intro s hcommandline hrun henabled hidle hqueue hpending
    obtain ⟨-, hthere⟩ :=
      promising_of_run (isStart_start h₀) (promising_start h₀ hcommandline) hrun
    have hafter : Relation.ReflTransGen Happens s₀.start s :=
      Relation.ReflTransGen.mono (fun _ _ (hstep : Served _ _) => hstep.2) _ _ hrun
    have hprompt : s.hasPrompt = true := by
      rcases hthere.prompts henabled with hfalse | hprompt | hp | howes
      · exact hfalse.elim
      · exact hprompt
      · exact absurd hp hpending
      · rcases howes with ⟨x, hx, -⟩ | ⟨r, hr, -⟩
        · rw [hqueue] at hx
          cases hx
        · rw [hidle] at hr
          cases hr
    rw [(alternates_of_run halternates hafter).since, hprompt]
    rfl

/-! ## A prompt that an interruption takes away -/

namespace Startled

/-- Nobody disables anything, and chains follow each other at once. -/
def settings : Settings := { Lost.settings with registered := [.str "obuffer", .str "commandline"] }

def built : Session := (build settings "s" {} true true).toOption.getD {}

/-- A line was handed in. Its output has been shown, and the prompt is next. -/
def before : Session := Lost.onward (built.start.submit "")

/-- The chain that would open it is cancelled, and so it is over. -/
def after : Session := Lost.onward (before.interruptAndRecover 0 none)

/-- Who has interrupted recovers. -/
def recovered : Session :=
  ({ after with ready := after.ready.erase (.caller 0) } : Session).doJob (.caller 0)

theorem build_eq_built : build settings "s" {} true true = .ok built :=
  build_of_isOk (by decide +kernel)

theorem isShell_built : IsShell settings Definition.IsPeaceful built := .built build_eq_built

theorem served_onward {s : Session} (hon : s.registry.isRegistered "commandline" = true)
    (hready : Job.chain ∈ s.ready) : Served s (Lost.onward s) :=
  ⟨hon, .work (.job (.ready hready))⟩

theorem served_recovered : Relation.ReflTransGen Served built.start recovered := by
  have hunused : before.IsUnused 0 := by
    have hnone : before.callers = [] := List.isEmpty_iff.mp (by decide +kernel)
    intro c hc
    rw [hnone] at hc
    cases hc
  have hline : Served built.start (built.start.submit "") := ⟨by decide +kernel, .line .submit⟩
  have hshown : Served (built.start.submit "") before :=
    served_onward (by decide +kernel) (by decide +kernel)
  have hinterrupted : Served before (before.interruptAndRecover 0 none) :=
    ⟨by decide +kernel, .interruption (.interrupt hunused none)⟩
  have hover : Served (before.interruptAndRecover 0 none) after :=
    served_onward (by decide +kernel) (by decide +kernel)
  have hrecovered : Served after recovered := by
    have hready : Job.caller 0 ∈ after.ready := by decide +kernel
    have hon : after.registry.isRegistered "commandline" = true := by decide +kernel
    unfold recovered
    generalize after = t at hready hon
    exact ⟨hon, .work (.job (.ready hready))⟩
  exact ((((Relation.ReflTransGen.single hline).tail hshown).tail hinterrupted).tail hover).tail
    hrecovered

end Startled

theorem prompts_startled : Startled.after.hasPrompt = false ∧
    promptCount Startled.recovered.sinceLine = 1 := by
  have henabled : Startled.built.engine.StaysEnabled Startled.recovered.moves := by
    refine Engine.staysEnabled_of_take ?_
    decide +kernel
  have hidle : Startled.recovered.engine.run = none :=
    Option.isNone_iff_eq_none.mp (by decide +kernel)
  have hqueue : Startled.recovered.engine.queue = [] := List.isEmpty_iff.mp (by decide +kernel)
  have hpending : ¬ Startled.recovered.IsPending := by
    have hnone : Startled.recovered.callers = [] := List.isEmpty_iff.mp (by decide +kernel)
    unfold IsPending
    rw [hnone]
    rintro ⟨_, ⟨⟩, -⟩
  exact ⟨by decide +kernel, (prompts_of_run Startled.isShell_built).2 Startled.recovered
    (by simp [Startled.settings]) Startled.served_recovered henabled hidle hqueue hpending⟩

end Session

end CommandShell
