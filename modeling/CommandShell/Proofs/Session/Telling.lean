import CommandShell.Proofs.Session.Healing

/-!
# What a session tells

Whatever happens to a session, it tells of it by a handful of steps: it asks the
presenter for something, adds lines to the buffer, logs an event or reports a fault
(`Tells`). So what is kept by each of these steps is kept by everything that a handler
does (`tells_runStages`), by callers and the watchdog (`tells_attend`, `tells_watch`),
and by whatever happens (`tells_happens`). The surface is cleared only where somebody asks
for that, which is what `C` stands for.
-/

namespace CommandShell

/-- What is not said about how a chain gets on: the events of other services, and the
reports of hooks that fail. -/
def Remark.isAside : Remark → Bool
  | .line _ => false
  | .event service _ _ more => service != .engine || Event.isText more "phase" "interrupt_hook"
  | .fault phase _ _ => phase == "interrupt_hook"

namespace Session

variable {C : Prop} {P Q : Remark → Prop} {s s' t u : Session}

/-! ## Steps -/

/-- Nothing is told. -/
structure Untold (s t : Session) : Prop where
  surface : t.surface = s.surface
  calls : t.calls = s.calls
  handed : t.handed = s.handed
  lines : t.output.lines = s.output.lines
  context : t.context = s.context
  faults : t.faults = s.faults
  said : t.said = s.said

/-- What a session tells on its way: all that it says is as `P` has it, and it clears the
surface only if `C` holds. -/
inductive Tells (C : Prop) (P : Remark → Prop) : Session → Session → Prop
  | untold {s t : Session} (h : Untold s t) : Tells C P s t
  | render (s : Session) (line : Line) : Tells C P s (s.render line)
  | clear (s : Session) (h : C) : Tells C P s s.clearSurface
  | prompt (s : Session) : Tells C P s s.requestPrompt
  | close (s : Session) : Tells C P s s.closePrompt
  | drain (s : Session) : Tells C P s { s with output.lines := [] }
  | warn (s : Session) (source message : String) :
      Tells C P s { s with context := s.context.map (Context.warn · source message) }
  | output (s : Session) {lines : List Line} (h : ∀ line ∈ lines, P (.line line)) :
      Tells C P s (s.addOutput lines)
  | event (s : Session) {service : Service} {level : Level} {message : String}
      {more : Table Value} (h : P (.event service level message more)) :
      Tells C P s (s.report service level message more)
  | fault (s : Session) {phase : String} {problem : Problem} {kind : String}
      (h : P (.fault phase problem kind)) : Tells C P s (s.reportFault phase problem kind)
  | trans {s t u : Session} (h : Tells C P s t) (h' : Tells C P t u) : Tells C P s u

theorem tells_refl (s : Session) : Tells C P s s := .untold ⟨rfl, rfl, rfl, rfl, rfl, rfl, rfl⟩

theorem tells_mono {D : Prop} (h : Tells C P s t) (hcd : C → D)
    (hpq : ∀ remark, P remark → Q remark) : Tells D Q s t := by
  induction h with
  | untold h => exact .untold h
  | render s line => exact .render s line
  | clear s h => exact .clear s (hcd h)
  | prompt s => exact .prompt s
  | close s => exact .close s
  | drain s => exact .drain s
  | warn s source message => exact .warn s source message
  | output s h => exact .output s fun line hline => hpq _ (h line hline)
  | event s h => exact .event s (hpq _ h)
  | fault s h => exact .fault s (hpq _ h)
  | trans _ _ ih ih' => exact ih.trans ih'

/-! ## What tells nothing -/

theorem untold_onEngine (s : Session) (m : Move) : Untold s (s.onEngine m) := by
  unfold onEngine
  dsimp only
  split <;> exact ⟨rfl, rfl, rfl, rfl, rfl, rfl, rfl⟩

theorem untold_make (s : Session) (c : Call) : Untold s (s.make c) := by
  obtain ⟨hsurface, hcalls, hhanded, hlines, hcontext, hfaults, hsaid⟩ :=
    untold_onEngine (s.recordAll (s.engine.actions c)) (.call c)
  exact ⟨hsurface, hcalls, hhanded, hlines, hcontext, hfaults, hsaid⟩

theorem untold_changeLife (s : Session) (v : Service) (step : Lifecycle → Lifecycle) :
    Untold s (s.changeLife v step) := by
  cases v <;> exact ⟨rfl, rfl, rfl, rfl, rfl, rfl, rfl⟩

theorem untold_enable (s : Session) (v : Service) : Untold s (s.enable v) := by
  cases v with
  | engine => exact untold_make s .enable
  | _ => exact untold_changeLife s _ _

theorem untold_disable (s : Session) (v : Service) : Untold s (s.disable v) := by
  cases v with
  | engine => exact untold_make s .disable
  | _ => exact untold_changeLife s _ _

theorem untold_onRegistry {ρ : Type} {step : Registry.Step Program ρ} {result : ρ}
    (h : s.onRegistry step = (t, result)) : Untold s t := by
  obtain ⟨rfl, -⟩ := Prod.mk.inj h
  exact ⟨rfl, rfl, rfl, rfl, rfl, rfl, rfl⟩

theorem untold_attend (s : Session) (label : Nat) {errand : Errand} (h : errand ≠ .recover) :
    Untold s (s.attend label errand) := by
  have hjoin (result : Pipe) : Untold s (s.join label result) := by
    unfold join
    split <;> exact ⟨rfl, rfl, rfl, rfl, rfl, rfl, rfl⟩
  cases errand with
  | collect id =>
      unfold attend
      dsimp only
      split <;> exact ⟨rfl, rfl, rfl, rfl, rfl, rfl, rfl⟩
  | execute id =>
      unfold attend
      dsimp only
      split
      · exact hjoin _
      · exact ⟨rfl, rfl, rfl, rfl, rfl, rfl, rfl⟩
  | join result => exact hjoin result
  | recover => exact absurd rfl h

theorem untold_takes {job : Job} (h : Takes s job t) : Untold s t := by
  cases h <;> exact ⟨rfl, rfl, rfl, rfl, rfl, rfl, rfl⟩

theorem untold_wakes (h : Wakes s t) : Untold s t := by
  cases h <;> exact ⟨rfl, rfl, rfl, rfl, rfl, rfl, rfl⟩

theorem untold_startWatch (s : Session) : Untold s s.startWatch := by
  unfold startWatch
  split <;> exact ⟨rfl, rfl, rfl, rfl, rfl, rfl, rfl⟩

theorem untold_arm (s : Session) : Untold s s.arm := by
  unfold arm
  split
  · exact ⟨rfl, rfl, rfl, rfl, rfl, rfl, rfl⟩
  · split <;> exact ⟨rfl, rfl, rfl, rfl, rfl, rfl, rfl⟩

/-! ## What handlers ask for -/

theorem tells_flush (s : Session) : Tells C P s s.flush := by
  have hlines (lines : List Line) (t : Session) : Tells C P t (lines.foldl render t) := by
    induction lines generalizing t with
    | nil => exact tells_refl t
    | cons line lines ih => exact (Tells.render t line).trans (ih _)
  have hbuffer : Tells C P s { s with output := s.output.flush.output } := by
    unfold Output.flush
    split
    · exact .drain s
    · exact tells_refl s
  rw [flush_eq]
  exact (hbuffer.trans (hlines _ _)).trans (.untold ⟨rfl, rfl, rfl, rfl, rfl, rfl, rfl⟩)

theorem tells_clearOutput (s : Session) : Tells C P s s.clearOutput := by
  have hbuffer : Tells C P s { s with output := s.output.clear.output } := by
    unfold Output.clear
    split
    · exact .drain s
    · exact tells_refl s
  exact hbuffer.trans (.untold ⟨rfl, rfl, rfl, rfl, rfl, rfl, rfl⟩)

theorem tells_enqueueLine (s : Session) (text : String) : Tells C P s (s.enqueueLine text).2 := by
  have hchains (chains : List Chain) (t : Session) :
      Tells C P t (chains.foldl (fun s c => s.make (.enqueue c)) t) := by
    induction chains generalizing t with
    | nil => exact tells_refl t
    | cons c chains ih => exact (Tells.untold (untold_make t _)).trans (ih _)
  rw [enqueueLine_eq]
  exact (Tells.close s).trans (hchains _ _)

/-- A failure that is reported is a fault and an event, as far as it can be read. -/
theorem tells_reportFailure (s : Session) (chain : String) {phase : String} {f : Failure}
    (hfault : P (.fault phase (f.toProblem chain) f.kindName))
    (hevent : P (.event .engine .error (f.toProblem chain).message [("chain", .str chain),
      ("phase", .str phase), ("error", (f.toProblem chain).toValue)])) :
    Tells C P s (s.reportFailure chain phase f) := by
  unfold reportFailure
  dsimp only
  split
  · exact tells_refl s
  · split
    · exact .fault s hfault
    · exact (Tells.fault s hfault).trans (.event _ hevent)

section Asides

variable (hP : ∀ remark : Remark, remark.isAside = true → P remark)

include hP

theorem tells_react (s : Session) (interruption : Refusal) (chain : String)
    (deed : Deed Reaction) : Tells C P s (s.react interruption chain deed) := by
  cases deed with
  | report fault =>
      show Tells C P s (s.reportFailure chain "interrupt_hook" (.fault fault))
      exact tells_reportFailure s chain (hP _ rfl) (hP _ rfl)
  | effect reaction =>
      cases reaction with
      | note id => exact .untold ⟨rfl, rfl, rfl, rfl, rfl, rfl, rfl⟩
      | release stage =>
          show Tells C P s (if _ then s.release else s)
          split
          · exact .untold (untold_onEngine s _)
          · exact tells_refl s
      | submit text => exact tells_enqueueLine s text
      | call c => exact .untold (untold_make s c)

theorem tells_reactAll (s : Session) (deeds : List (Deed Reaction)) :
    Tells C P s (s.reactAll deeds) := by
  have hdeeds (interruption : Refusal) (chain : String) (t : Session) :
      Tells C P t (deeds.foldl (fun s deed => s.react interruption chain deed) t) := by
    induction deeds generalizing t with
    | nil => exact tells_refl t
    | cons deed deeds ih => exact (tells_react hP t _ _ deed).trans (ih _)
  unfold reactAll
  split
  · exact tells_refl s
  · split
    · exact tells_refl s
    · exact hdeeds _ _ s

theorem tells_call (s : Session) (c : Call) : Tells C P s (s.call c) :=
  (Tells.untold (untold_make s c)).trans (tells_reactAll hP _ _)

theorem tells_reply (s : Session) (r : Request) (hC : r = .clearSurface → C) :
    Tells C P s (s.reply r).1 := by
  cases r with
  | submit text => exact tells_enqueueLine s text
  | call c => exact tells_call hP s c
  | enable name =>
      show Tells C P s (s.enableNamed name).1
      unfold enableNamed
      split
      · exact .untold (untold_enable s _)
      · exact tells_refl s
  | disable name =>
      show Tells C P s (s.disableNamed name).1
      unfold disableNamed
      split
      · exact .untold (untold_disable s _)
      · exact tells_refl s
  | render line => exact .render s line
  | addHook hook =>
      exact (Tells.untold (untold_onEngine s (.hook hook))).trans (tells_reactAll hP _ _)
  | flush => exact tells_flush s
  | clearOutput => exact tells_clearOutput s
  | clearSurface => exact .clear s (hC rfl)
  | prompt => exact .prompt s
  | _ => exact .untold ⟨rfl, rfl, rfl, rfl, rfl, rfl, rfl⟩

/-! ## The stages of a chain -/

/-- A handler clears the surface only where it comes to ask for that. -/
theorem tells_runHandler (h : Handler) (s : Session)
    (hC : ∀ rest t, ComesTo (.ask .clearSurface rest) t h s → C) :
    Tells C P s (runHandler h s).1 := by
  induction h generalizing s with
  | done outcome => exact tells_refl s
  | fail failure => exact tells_refl s
  | pause p rest ih =>
      cases p with
      | release =>
          unfold runHandler
          split
          · rename_i hreleased
            exact ih s fun rest t h => hC rest t (.released hreleased h)
          · exact tells_refl s
      | _ => exact tells_refl s
  | ask r rest ih =>
      unfold runHandler
      refine (tells_reply hP s r ?_).trans (ih _ _ fun rest t h => hC rest t (.asked h))
      rintro rfl
      exact hC rest s .here

omit hP in
theorem tells_beginStage (s : Session) (f : Fragment) (pipe : Pipe) :
    Tells C P s (s.beginStage f pipe).1 := by
  unfold beginStage
  split
  · rename_i hlookup
    exact .untold (untold_onRegistry hlookup)
  · rename_i hlookup
    have h₁ : Tells C P s _ := .untold (untold_onRegistry hlookup)
    split
    · rename_i hverify
      exact h₁.trans (.untold (untold_onRegistry hverify))
    · rename_i hverify
      exact h₁.trans (.untold (untold_onRegistry hverify))
    · rename_i hverify
      have h₂ := h₁.trans (.untold (untold_onRegistry hverify))
      dsimp only
      split
      · exact h₂.trans (.untold ⟨rfl, rfl, rfl, rfl, rfl, rfl, rfl⟩)
      · dsimp only
        refine (h₂.trans ?_).trans (.untold (untold_onEngine _ _))
        exact .untold ⟨rfl, rfl, rfl, rfl, rfl, rfl, rfl⟩

theorem tells_carryOn {rest : List Fragment} {next : Pipe → Session → Session × Stand}
    (name : String) (pipe : Pipe) (handler : Handler) (s : Session)
    (hC : ∀ rest t, ComesTo (.ask .clearSurface rest) t handler s → C)
    (hnext : ∀ s₁ outcome result, runHandler handler s = (s₁, .done outcome) →
      outcome.toPipe name = .ok result →
      Tells C P (s₁.onEngine (.handOn result)) (next result (s₁.onEngine (.handOn result))).1) :
    Tells C P s (carryOn rest next name pipe (runHandler handler s)).1 := by
  have hhandler := tells_runHandler hP handler s hC
  generalize hstop : runHandler handler s = there at hhandler
  obtain ⟨s₁, stop⟩ := there
  cases stop with
  | failed failure => exact hhandler
  | paused p rest => exact hhandler
  | done outcome =>
      simp only [carryOn]
      cases hpipe : outcome.toPipe name with
      | error failure => exact hhandler
      | ok result =>
          exact (hhandler.trans (.untold (untold_onEngine _ _))).trans
            (hnext s₁ outcome result hstop hpipe)

/-- The stages of a chain tell nothing of how the chain gets on. -/
theorem tells_runStages (fs : List Fragment) (pipe : Pipe) (s : Session)
    (hC : ∀ u f handler, Enters fs pipe s u f handler →
      ∀ rest t, ComesTo (.ask .clearSurface rest) t handler u → C) :
    Tells C P s (runStages fs pipe s).1 := by
  induction fs generalizing pipe s with
  | nil =>
      unfold runStages
      split <;> exact tells_refl s
  | cons f rest ih =>
      unfold runStages
      split
      · exact .untold ⟨rfl, rfl, rfl, rfl, rfl, rfl, rfl⟩
      · rename_i hgoes
        have hbegun : Tells C P s (s.beginStage f pipe).1 := tells_beginStage s f pipe
        generalize hbegins : s.beginStage f pipe = there at hbegun
        obtain ⟨s₁, begun⟩ := there
        cases begun with
        | error failure => exact hbegun
        | ok handler =>
            refine hbegun.trans (tells_carryOn hP f.name pipe handler s₁ ?_ ?_)
            · exact hC s₁ f handler (.first hgoes hbegins)
            · intro s₂ outcome result hends hresult
              exact ih result _ fun u g handler hlater =>
                hC u g handler (.later hgoes hbegins hends hresult hlater)

/-! ## Callers and the watchdog -/

omit hP in
theorem tells_recover (s : Session) : Tells C P s s.recover :=
  ((tells_flush s).trans (.untold (untold_make _ _))).trans (.prompt _)

omit hP in
theorem tells_attend (s : Session) (label : Nat) (errand : Errand) :
    Tells C P s (s.attend label errand) := by
  cases errand with
  | recover => exact (tells_recover s).trans (.untold ⟨rfl, rfl, rfl, rfl, rfl, rfl, rfl⟩)
  | _ => exact .untold (untold_attend s label (by rintro ⟨⟩))

omit hP in
theorem tells_resumeCaller (s : Session) (label : Nat) : Tells C P s (s.resumeCaller label) := by
  unfold resumeCaller
  split
  · refine Tells.trans ?_ (tells_attend _ _ _)
    exact .untold ⟨rfl, rfl, rfl, rfl, rfl, rfl, rfl⟩
  · exact tells_refl s

omit hP in
theorem tells_execute (s : Session) (label : Nat) (text : String) :
    Tells C P s (s.execute label text) := by
  have hline : Tells C P s (s.enqueueLine text).2 := tells_enqueueLine s text
  unfold execute
  split
  · rename_i id s₁ heq
    rw [heq] at hline
    exact hline.trans (tells_attend _ _ _)
  · rename_i s₁ heq
    rw [heq] at hline
    exact hline.trans (tells_attend _ _ _)

theorem tells_interruptAndRecover (s : Session) (label : Nat) (reason : Option String) :
    Tells C P s (s.interruptAndRecover label reason) := by
  have hinterrupt : Tells C P s (s.interrupt reason) := tells_call hP s _
  unfold interruptAndRecover
  dsimp only
  split
  · exact hinterrupt.trans (.untold ⟨rfl, rfl, rfl, rfl, rfl, rfl, rfl⟩)
  · exact hinterrupt.trans (tells_attend _ _ _)

theorem tells_recovered (s : Session) (name : String) : Tells C P s (s.recovered name) := by
  have hafter {t : Session} (h : Tells C P s t) : Tells C P s
      ((t.record .watchdog s!"recover {name}").report .watchdog .warning
        "critical service re-enabled" [("service", .str name)]) := by
    have hrecorded : Tells C P t (t.record .watchdog s!"recover {name}") :=
      .untold ⟨rfl, rfl, rfl, rfl, rfl, rfl, rfl⟩
    refine (h.trans hrecorded).trans (.event _ ?_)
    exact hP _ rfl
  unfold recovered
  dsimp only
  split
  · exact hafter ((tells_clearOutput s).trans (.render _ _))
  · exact hafter (tells_clearOutput s)

theorem tells_checkService (s : Session) (critical : Value) :
    Tells C P s (s.checkService critical).1 := by
  unfold checkService
  split
  · split
    · split
      · exact tells_refl s
      · exact (Tells.untold (untold_enable s _)).trans (tells_recovered hP _ _)
    · exact tells_refl s
  · exact tells_refl s
  · exact tells_refl s
  · exact tells_refl s

theorem tells_checkServices (s : Session) (critical : List Value) :
    Tells C P s (s.checkServices critical).1 := by
  induction critical generalizing s with
  | nil => exact tells_refl s
  | cons v vs ih =>
      have hone : Tells C P s (s.checkService v).1 := tells_checkService hP s v
      unfold checkServices
      generalize s.checkService v = there at hone
      obtain ⟨s₁, result⟩ := there
      cases result with
      | error f => exact hone
      | ok enabled =>
          have hmore := hone.trans (ih s₁)
          dsimp only
          split <;> exact hmore

theorem tells_check (s : Session) : Tells C P s s.check.1 := by
  have hall : Tells C P s (s.checkServices s.watchdog.critical).1 := tells_checkServices hP s _
  unfold check
  split
  · exact tells_refl s
  · generalize s.checkServices s.watchdog.critical = there at hall
    obtain ⟨s₁, result⟩ := there
    cases result with
    | error f => exact hall
    | ok names =>
        dsimp only
        split
        · exact hall
        · exact hall.trans (.prompt s₁)

theorem tells_watch (s : Session) : Tells C P s s.watch := by
  have harm (t : Session) : Tells C P t t.arm := .untold (untold_arm t)
  have hcheck : Tells C P s s.check.1 := tells_check hP s
  unfold watch
  generalize s.check = there at hcheck
  obtain ⟨s₁, result⟩ := there
  cases result with
  | ok names => exact hcheck.trans (harm s₁)
  | error f =>
      refine (hcheck.trans (.event s₁ ?_)).trans (harm _)
      exact hP _ rfl

/-- A command that is defined is checked, and its defects are told. -/
theorem tells_validate (s : Session) (name : String) : Tells C P s (s.validate name) := by
  unfold validate
  split
  · rename_i heq
    have hdefect (t : Session) (message : String) : Tells C P t
        { t.render (.error message) with
          context := (t.render (.error message)).context.map
            (Context.warn · Service.registry.name message) } :=
      (Tells.render t _).trans (.warn _ _ _)
    refine ((Tells.untold (untold_onRegistry heq)).trans (hdefect _ _)).trans (.event _ ?_)
    exact hP _ rfl
  · rename_i heq
    exact .untold (untold_onRegistry heq)

theorem tells_define (s : Session) (d : Definition Program) (register : Bool) :
    Tells C P s (s.define d register).1 := by
  unfold define
  split
  · exact tells_refl s
  · dsimp only
    split
    · refine Tells.trans ?_ (tells_validate hP _ d.name)
      exact .untold ⟨rfl, rfl, rfl, rfl, rfl, rfl, rfl⟩
    · exact .untold ⟨rfl, rfl, rfl, rfl, rfl, rfl, rfl⟩

end Asides

/-! ## Whatever happens -/

section All

variable (hP : ∀ remark : Remark, P remark)

include hP

omit hP in
theorem tells_finish (s : Session) (status : Status) (result : Pipe) :
    Tells C P s (s.finish status result) :=
  (Tells.untold (untold_onEngine s _)).trans (.untold ⟨rfl, rfl, rfl, rfl, rfl, rfl, rfl⟩)

theorem tells_of_writes {rs : List Remark} (h : Writes rs s t) : Tells C P s t := by
  induction h with
  | record s what => exact .untold ⟨rfl, rfl, rfl, rfl, rfl, rfl, rfl⟩
  | output s lines => exact .output s fun _ _ => hP _
  | event s level message more => exact .event s (hP _)
  | fault s phase problem kind => exact .fault s (hP _)
  | trans _ _ ih ih' => exact ih.trans ih'

theorem tells_fail (s : Session) (pipe : Pipe) (failure : Failure) :
    Tells C P s (s.fail pipe failure) := by
  by_cases hf : failure = .cancelled
  · subst hf
    exact (tells_call (fun remark _ => hP remark) s _).trans (tells_finish _ _ _)
  · obtain ⟨t, hwrites, heq⟩ := fail_eq_finish hf s pipe
    rw [heq]
    exact (tells_of_writes hP hwrites).trans (tells_finish _ _ _)

theorem tells_conclude (s : Session) (stand : Stand) : Tells C P s (s.conclude stand) := by
  have hphase (t : Session) (phase : Phase) : Tells C P t (t.setPhase phase) :=
    .untold (untold_onEngine t _)
  have htimer (t : Session) (timers : List Timer) : Tells C P t { t with timers } :=
    .untold ⟨rfl, rfl, rfl, rfl, rfl, rfl, rfl⟩
  cases stand with
  | broken pipe failure => exact tells_fail hP s pipe failure
  | complete pipe =>
      have hthrough : Tells C P s ((s.addOutput (pipe.getD [])).report .engine .info
          "chain completed" [("chain", .str s.label)]) :=
        (Tells.output s fun _ _ => hP _).trans (.event _ (hP _))
      show Tells C P s (s.complete pipe)
      unfold complete
      dsimp only
      split
      · exact hthrough.trans (tells_fail hP _ _ _)
      · exact hthrough.trans (tells_finish _ _ _)
      · exact hthrough.trans (hphase _ _)
      · exact (hthrough.trans (hphase _ _)).trans (htimer _ _)
  | paused p rest =>
      show Tells C P s (s.suspend p rest)
      unfold suspend
      split
      · exact hphase _ _
      · exact hphase _ _
      · dsimp only
        split
        · exact hphase _ _
        · exact (hphase _ _).trans (htimer _ _)

/-- In its turn a chain clears the surface only where one of its handlers comes to ask for that. -/
theorem tells_runChain (s : Session)
    (hC : ∀ rest t, s.Handles (.ask .clearSurface rest) t → C) : Tells C P s s.runChain := by
  have hasides : ∀ remark : Remark, remark.isAside = true → P remark := fun remark _ => hP remark
  have hbegun : Tells C P s (s.setPhase .active) := .untold (untold_onEngine s _)
  have hproceed {r : Run} (hr : s.engine.run = some r) (hphase : r.phase ≠ .active)
      (hpacing : ∀ result, r.phase ≠ .pacing result) : Tells C P s (s.proceed r).1 := by
    rcases proceed_cases s hphase hpacing with ⟨p, hp, heq⟩ | ⟨hp, heq⟩
    · rw [heq]
      refine hbegun.trans (tells_carryOn hasides _ _ _ _ ?_ ?_)
      · exact fun rest t h => hC rest t (.resumed hr hp h)
      · intro s₁ outcome result hends hresult
        exact tells_runStages hasides _ _ _ fun u f handler henters rest t h =>
          hC rest t (.called (.takenUp hr hp hends hresult henters) h)
    · rw [heq]
      refine (hbegun.trans (.event _ (hP _))).trans (tells_runStages hasides _ _ _ ?_)
      exact fun u f handler henters rest t h => hC rest t (.called (.begun hr hp henters) h)
  cases hr : s.engine.run with
  | none =>
      unfold runChain
      rw [hr]
      exact tells_refl s
  | some r =>
      by_cases hphase : r.phase = .active
      · unfold runChain
        rw [hr]
        dsimp only
        rw [hphase]
        exact tells_refl s
      · rcases runChain_cases hr hphase with ⟨result, -, heq⟩ | ⟨hpacing, heq⟩
        · rw [heq]
          exact tells_finish s _ _
        · rw [heq]
          exact (hproceed hr hphase hpacing).trans (tells_conclude hP _ _)

/-- **Whatever happens is told** by these steps. -/
theorem tells_happens (hC : C) (h : Happens s t) : Tells C P s t := by
  have hasides : ∀ remark : Remark, remark.isAside = true → P remark := fun remark _ => hP remark
  cases h with
  | line hline =>
      cases hline with
      | submit => exact tells_enqueueLine s _
      | execute => exact tells_execute s _ _
  | interruption hinterrupts =>
      cases hinterrupts with
      | interrupt => exact tells_interruptAndRecover hasides s _ _
  | work hworks =>
      cases hworks with
      | clock now => exact .untold ⟨rfl, rfl, rfl, rfl, rfl, rfl, rfl⟩
      | release => exact .untold (untold_onEngine s _)
      | job htakes =>
          rename_i job u
          have htaken : Tells C P s u := .untold (untold_takes htakes)
          cases job with
          | chain => exact htaken.trans (tells_runChain hP u fun _ _ _ => hC)
          | caller label => exact htaken.trans (tells_resumeCaller u label)
          | watch => exact htaken.trans (tells_watch hasides u)
          | arm => exact htaken.trans (.untold (untold_arm u))

end All

end Session

end CommandShell
