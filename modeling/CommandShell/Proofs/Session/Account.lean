import CommandShell.Proofs.Session.Outcome

/-!
# Sessions that account for their chains

Between two pieces of work a session accounts for its chains (`Accounted`): nothing was
said of those that wait, of the running one as much as its phase tells, and of every
other one what goes with its end. What comes from outside adds asides only
(`accounted_of_calls`), and a turn of the running chain adds what it has come to
(`accounted_runChain`).
-/

namespace CommandShell.Session

variable {C : Prop} {s₀ s t u : Session} {x : Entry} {r : Run} {delay : Value}

/-- What was said of every chain is what goes with where it is, where `delay` comes after
a chain. -/
structure Accounted (s : Session) (delay : Value) : Prop where
  context : s.context.isSome = true
  faults : s.faults.isSome = true
  silent : ∀ id, id ∉ Engine.ids s.engine.started → s.remarksOn id = []
  running : ∀ r, s.engine.run = some r → s.remarksOn r.entry.id = r.remarks
  ended : ∀ f ∈ s.engine.finished, f.Ends delay (s.remarksOn f.run.entry.id)
  pacing : ∀ r result, s.engine.run = some r → r.phase = .pacing result →
    ∃ d, Delay.afterChain delay = .ok d ∧ d ≠ .none

/-- The same of all chains but one, which is not over. -/
structure Beside (x : Entry) (delay : Value) (s : Session) : Prop where
  context : s.context.isSome = true
  faults : s.faults.isSome = true
  unended : x.id ∉ Engine.ids s.engine.ended
  silent : ∀ id, id ≠ x.id → id ∉ Engine.ids s.engine.ended → s.remarksOn id = []
  ended : ∀ f ∈ s.engine.finished, f.Ends delay (s.remarksOn f.run.entry.id)

/-- No chain has been started twice. -/
theorem started_nodup (h₀ : s₀.IsStart) (h : Leads s₀ s) :
    (Engine.ids s.engine.started).Nodup := by
  obtain ⟨ms, -, hengine, -⟩ := h
  have hnodup := Engine.row_ids_nodup h₀.engine ms
  rw [← hengine, Engine.row_eq_started, Engine.ids_append] at hnodup
  exact (List.nodup_append.mp hnodup).1

/-- While a chain is carried out, no chain ends. -/
theorem finished_of_leads {r' : Run} (h₀ : s₀.IsStart) (h : Leads s₀ s) (h' : Leads s t)
    (hr : s.engine.run = some r) (hr' : t.engine.run = some r') (hentry : r'.entry = r.entry) :
    t.engine.finished = s.engine.finished := by
  obtain ⟨before, -, hs, -⟩ := h
  obtain ⟨after, -, ht, -⟩ := h'
  rw [hs, ← Engine.play_append] at ht
  rw [hs] at hr ⊢
  rw [ht] at hr' ⊢
  exact Engine.finished_of_same_run h₀.engine hr hr' hentry

theorem stepDelay_of_leads (h : Leads s t) : t.engine.stepDelay = s.engine.stepDelay := by
  obtain ⟨ms, -, ht, -⟩ := h
  rw [ht]
  clear ht
  induction ms using List.reverseRecOn with
  | nil => rfl
  | append_singleton ms m ih => rw [Engine.play_concat, Engine.stepDelay_apply, ih]

/-- Wherever a chain stands, it runs. -/
theorem active_of_arrives {there : Session × Stand} (h : s.Arrives x there) :
    ∃ r, there.1.Active x r := by
  have hfits := h.fits
  obtain ⟨t, stand⟩ := there
  cases stand with
  | complete result => exact hfits.imp fun _ hr => hr.1
  | broken pipe failure => exact hfits.imp fun _ hr => hr.1
  | paused p rest => exact hfits.imp fun _ hr => hr.1

theorem beside_of_accounted (h : s.Accounted delay) (hids : (Engine.ids s.engine.started).Nodup)
    (hr : s.engine.run = some r) : Beside r.entry delay s := by
  refine ⟨h.context, h.faults, Engine.unended_of_run hids hr, ?_, h.ended⟩
  intro id hne hover
  refine h.silent id ?_
  rw [Engine.ids_started hr]
  simp [hover, hne]

theorem beside_of_tells (h : Beside x delay s) (ht : Tells C (·.isAside = true) s t)
    (hf : t.engine.finished = s.engine.finished) : Beside x delay t := by
  obtain ⟨hcontext, hfaults⟩ := heard_of_tells ht
  refine ⟨hcontext.trans h.context, hfaults.trans h.faults, ?_, ?_, ?_⟩
  · rw [Engine.ended_congr hf]
    exact h.unended
  · intro id hne hover
    rw [Engine.ended_congr hf] at hover
    rw [remarksOn_of_tells ht]
    exact h.silent id hne hover
  · intro f hmem
    rw [hf] at hmem
    rw [remarksOn_of_tells ht]
    exact h.ended f hmem

theorem beside_of_saying {rs : List Remark} (h : Beside r.entry delay s) (ht : Says rs s t)
    (hs : s.IsHeard) (hr : s.engine.run = some r) (haside : ∀ remark ∈ rs, remark.isAside = false) :
    Beside r.entry delay t ∧ t.remarksOn r.entry.id = s.remarksOn r.entry.id ++ rs := by
  have hadds := remarksOn_of_saying ht hs hr haside
  have hother {id : Nat} (hne : id ≠ r.entry.id) : t.remarksOn id = s.remarksOn id := by
    rw [hadds, if_neg hne, List.append_nil]
  refine ⟨⟨ht.context.trans h.context, ht.faults.trans h.faults, ?_, ?_, ?_⟩, ?_⟩
  · rw [ht.engine]
    exact h.unended
  · intro id hne hover
    rw [ht.engine] at hover
    rw [hother hne]
    exact h.silent id hne hover
  · intro f hmem
    rw [ht.engine] at hmem
    -- what `r` says is not said of a chain that is over
    have hne : f.run.entry.id ≠ r.entry.id := by
      intro heq
      exact h.unended (heq ▸ Engine.id_mem_ids (List.mem_map_of_mem hmem))
    rw [hother hne]
    exact h.ended f hmem
  · rw [hadds, if_pos rfl]

/-- **Calls from outside** say nothing of how chains get on. -/
theorem accounted_of_calls (h : s.Accounted delay) (hc : Calls s t)
    (ht : Tells C (·.isAside = true) s t) (hids : (Engine.ids t.engine.started).Nodup) :
    t.Accounted delay := by
  obtain ⟨hcontext, hfaults⟩ := heard_of_tells ht
  have hgoes := goesOn_of_calls hc
  refine ⟨hcontext.trans h.context, hfaults.trans h.faults, ?_, ?_, ?_, ?_⟩
  · intro id hid
    rw [remarksOn_of_tells ht]
    exact h.silent id fun hbefore => hid (Engine.started_of_goesOn hgoes hbefore)
  · intro r' hr'
    rw [remarksOn_of_tells ht]
    rcases Engine.run_of_goesOn hgoes hids hr' with ⟨r, hr, hsame⟩ | ⟨hfresh, hnew⟩
    · rw [hsame.entry, Run.remarks_congr hsame]
      exact h.running r hr
    · unfold Run.remarks
      rw [hfresh]
      exact h.silent _ hnew
  · intro f hmem
    rw [hgoes.finished] at hmem
    rw [remarksOn_of_tells ht]
    exact h.ended f hmem
  · intro r' result hr' hp'
    rcases Engine.run_of_goesOn hgoes hids hr' with ⟨r, hr, hsame⟩ | ⟨hfresh, -⟩
    · have hphase := hsame.phase
      refine h.pacing r result hr ?_
      rw [hp'] at hphase
      cases hp : r.phase <;> simp_all [Phase.course]
    · rw [hfresh] at hp'
      cases hp'

/-! ## Turns of the running chain -/

/-- A chain is over. The next one may be started, of which nothing was said. -/
theorem accounted_finish (h : Beside r.entry delay s) (hr : s.engine.run = some r)
    {status : Status} {result : Pipe}
    (hids : (Engine.ids (s.finish status result).engine.started).Nodup)
    (hends : (Finished.mk r status).Ends delay (s.remarksOn r.entry.id)) :
    (s.finish status result).Accounted delay := by
  have hengine : (s.finish status result).engine = s.engine.apply (.finish status result) :=
    onEngine_engine s _
  have hended : Engine.ids (s.finish status result).engine.ended =
      Engine.ids s.engine.ended ++ [r.entry.id] := by
    rw [hengine, Engine.ended_apply]
    show Engine.ids (s.engine.ended ++ s.engine.running) = _
    unfold Engine.running
    rw [hr, Engine.ids_append]
    rfl
  have hsaid : (s.finish status result).said = s.said :=
    (untold_onEngine s (.finish status result)).said
  -- the chain that ends is the only one that was spoken of and is not over
  have hsilent {id : Nat} (hid : id ∉ Engine.ids (s.finish status result).engine.ended) :
      (s.finish status result).remarksOn id = [] := by
    rw [hended] at hid
    rw [remarksOn_of_eq hsaid]
    refine h.silent id ?_ fun hover => hid (List.mem_append_left _ hover)
    rintro rfl
    exact hid (List.mem_append_right _ (List.mem_singleton_self _))
  have hfresh {r' : Run} (hr' : (s.finish status result).engine.run = some r') :
      ∃ x, r' = Run.start x := by
    rw [hengine] at hr'
    exact Engine.run_finish hr'
  obtain ⟨hcontext, hfaults⟩ := heard_of_tells
    (C := True) (P := fun _ => True) (Tells.untold (untold_onEngine s (.finish status result)))
  refine ⟨hcontext.trans h.context, hfaults.trans h.faults, ?_, ?_, ?_, ?_⟩
  · intro id hid
    refine hsilent fun hover => hid ?_
    unfold Engine.started
    rw [Engine.ids_append]
    exact List.mem_append_left _ hover
  · intro r' hr'
    obtain ⟨x, rfl⟩ := hfresh hr'
    exact hsilent (Engine.unended_of_run hids hr')
  · intro f hmem
    rw [hengine, Engine.finished_apply, hr] at hmem
    rw [remarksOn_of_eq hsaid]
    rcases List.mem_append.mp hmem with hmem | hmem
    · exact h.ended f hmem
    · obtain rfl := List.mem_singleton.mp hmem
      exact hends
  · intro r' _ hr' hp
    obtain ⟨x, rfl⟩ := hfresh hr'
    cases hp

/-- A chain comes to another phase. -/
theorem accounted_setPhase (h : Beside r.entry delay s) (hr : s.engine.run = some r)
    {phase : Phase} (hremarks : s.remarksOn r.entry.id = { r with phase }.remarks)
    (hpacing : ∀ result, phase = .pacing result →
      ∃ d, Delay.afterChain delay = .ok d ∧ d ≠ .none) :
    (s.setPhase phase).Accounted delay := by
  have hrun := run_setPhase hr phase
  have hsame := remarksOn_of_eq (untold_onEngine s (.phase phase)).said
  have hbeside : Beside r.entry delay (s.setPhase phase) :=
    beside_of_tells (C := True) h (.untold (untold_onEngine s _)) (finished_setPhase s phase)
  refine ⟨hbeside.context, hbeside.faults, ?_, ?_, hbeside.ended, ?_⟩
  · intro id hid
    rw [Engine.ids_started hrun] at hid
    refine hbeside.silent id ?_ fun hover => hid (List.mem_append_left _ hover)
    rintro rfl
    exact hid (List.mem_append_right _ (List.mem_singleton_self _))
  · intro r' hr'
    obtain rfl := Option.some.inj (hrun.symm.trans hr')
    exact (hsame _).trans hremarks
  · intro r' result hr' hp
    obtain rfl := Option.some.inj (hrun.symm.trans hr')
    exact hpacing result hp

theorem accounted_timer (h : s.Accounted delay) (timers : List Timer) :
    { s with timers := timers }.Accounted delay :=
  ⟨h.context, h.faults, h.silent, h.running, h.ended, h.pacing⟩

/-- What was said of a chain whose handlers wait, or that has just begun. -/
theorem accounted_suspend (h : Beside r.entry delay s) (hr : s.engine.run = some r)
    (hremarks : s.remarksOn r.entry.id = [.started r.entry.label]) (pause : Pause)
    (p : Suspended) : (s.suspend pause p).Accounted delay := by
  have hwait (wait : Wait) : (s.setPhase (.suspended { p with wait })).Accounted delay :=
    accounted_setPhase h hr hremarks (by rintro _ ⟨⟩)
  cases pause with
  | turn => exact hwait .turn
  | release => exact hwait .release
  | sleep millis =>
      unfold suspend
      dsimp only
      split
      · exact hwait .turn
      · exact accounted_timer (hwait .sleep) _

theorem label_of_active (ha : s.Active x r) : s.label = r.entry.label := by
  unfold label
  rw [ha.run]
  rfl

/-- What a chain says that is carried out comes after that it has begun. -/
theorem beside_of_active {remarks : List Remark} (h : Beside r.entry delay s)
    (ha : s.Active r.entry r) (hremarks : s.remarksOn r.entry.id = [.started r.entry.label])
    (hsaying : Says remarks s t) (haside : ∀ remark ∈ remarks, remark.isAside = false)
    (hon : t.output.life.enabled = true) :
    Beside r.entry delay t ∧ t.engine.run = some r ∧
      t.remarksOn r.entry.id = .started r.entry.label :: remarks := by
  rw [hsaying.life] at hon
  obtain ⟨hbeside, hadds⟩ :=
    beside_of_saying h hsaying ⟨hon, h.context, h.faults⟩ ha.run haside
  refine ⟨hbeside, by rw [hsaying.engine, ha.run], ?_⟩
  rw [hadds, hremarks]
  rfl

/-- A handler may end the task of its chain. Then the hooks are called, and nothing is told
of the end. -/
theorem active_cancelRun (ha : s.Active x r) (reason : Option String) :
    ∃ r', (s.cancelRun reason).Active x r' ∧ r.SameStage r' ∧ r'.token.isCancelled = true := by
  have haround : Around s (s.recordAll (s.engine.actions (.cancel reason))) :=
    around_recordAll s _
  have hmade : (s.make (.cancel reason)).Active x (r.apply (.call (.cancel reason))) :=
    active_onEngine (active_of_around ha haround) (by rintro _ _ ⟨⟩) ha.phase
  have hc : (r.apply (.call (.cancel reason))).token.isCancelled = true :=
    Token.isCancelled_cancel _ reason
  -- for the chain, what its hooks do comes from outside
  obtain ⟨r', ha', hsame⟩ :=
    active_of_calls hmade (calls_reactAll _ (s.engine.deeds (.call (.cancel reason))))
  exact ⟨r', ha', ⟨hsame.entry, hsame.phase, hsame.invoked, hsame.handlers, hsame.produced,
    fun _ => hsame.cancelled hc⟩, hsame.cancelled hc⟩

/-- Every failure ends the chain, with the status that goes with it. -/
theorem fail_finishes (ha : s.Active x r) (pipe : Pipe) (failure : Failure) :
    ∃ (t : Session) (r' : Run), t.engine.run = some r' ∧ t.engine.finished = s.engine.finished ∧
      r.SameStage r' ∧ s.fail pipe failure = t.finish failure.status none := by
  by_cases hf : failure = .cancelled
  · subst hf
    obtain ⟨r', ha', hsame, -⟩ := active_cancelRun ha (some "task cancelled")
    have hcalls : Calls s (s.cancelRun (some "task cancelled")) := calls_call s _
    exact ⟨_, r', ha'.run, (goesOn_of_calls hcalls).finished, hsame, rfl⟩
  · obtain ⟨t, hwrites, heq⟩ := fail_eq_finish hf s pipe
    have hengine := (around_of_writes hwrites).engine
    refine ⟨t, r, ?_, ?_, ⟨rfl, rfl, rfl, rfl, rfl, id⟩, heq⟩
    · rw [hengine, ha.run]
    · rw [hengine]

theorem accounted_fail (h : Beside r.entry delay s) (ha : s.Active r.entry r)
    (hremarks : s.remarksOn r.entry.id = [.started r.entry.label]) {failure : Failure}
    (hraises : r.Raises failure)
    (hids : (Engine.ids (s.fail r.lastPipe failure).engine.started).Nodup)
    (hon : (s.fail r.lastPipe failure).output.life.enabled = true) :
    (s.fail r.lastPipe failure).Accounted delay := by
  by_cases hf : failure = .cancelled
  · subst hf
    have hcalls : Calls s (s.cancelRun (some "task cancelled")) := calls_call s _
    obtain ⟨r', ha', hsame, hc⟩ := active_cancelRun ha (some "task cancelled")
    have hbeside : Beside r.entry delay (s.cancelRun (some "task cancelled")) :=
      beside_of_tells (C := True) h (tells_call (fun _ => id) s _) (goesOn_of_calls hcalls).finished
    rw [← hsame.entry] at hbeside
    -- nothing is claimed of what was said: it is enough that a handler is to blame
    refine accounted_finish hbeside ha'.run hids (.released (fun hspares => ?_) hc rfl)
    unfold Run.SparesTask at hspares
    rw [hsame.handlers] at hspares
    exact Run.not_sparesTask_of_raises hraises hspares
  · obtain ⟨t, hwrites, heq⟩ := fail_eq_finish hf s r.lastPipe
    have hsaying := says_of_writes hwrites
    rw [heq] at hids hon ⊢
    rw [output_finish] at hon
    rw [label_of_active ha] at hsaying
    obtain ⟨hbeside, hrun, htold⟩ :=
      beside_of_active h ha hremarks hsaying (Remark.isAside_remarks failure) hon
    refine accounted_finish hbeside hrun hids ?_
    rw [htold]
    exact .told (Run.isTold_of_raises hraises hf) fun hs => absurd hs failure.status_ne_completed

/-- A delay that cannot be computed makes one more line and a report, although the chain
is through. -/
theorem accounted_undelayed (h : Beside r.entry delay s) (ha : s.Active r.entry r)
    (hremarks : s.remarksOn r.entry.id = [.started r.entry.label]) (hall : r.IsThrough)
    (hc : r.token.isCancelled = false)
    (hsaying : Says (Remark.completed r.entry.label r.lastPipe) s t) {fault : Fault}
    (hd : Delay.afterChain delay = .error fault)
    (hids : (Engine.ids (t.fail r.lastPipe (.fault fault)).engine.started).Nodup)
    (hon : (t.fail r.lastPipe (.fault fault)).output.life.enabled = true) :
    (t.fail r.lastPipe (.fault fault)).Accounted delay := by
  have hf : Failure.fault fault ≠ .cancelled := by rintro ⟨⟩
  obtain ⟨u, hwrites, hend⟩ := fail_eq_finish hf t r.lastPipe
  have hsaying' := says_of_writes hwrites
  rw [hend] at hids hon ⊢
  rw [output_finish] at hon
  have hlabel : t.label = r.entry.label := by
    unfold label
    rw [hsaying.engine]
    exact label_of_active ha
  rw [hlabel] at hsaying'
  -- what was said of the completion stays, and the fault comes after it
  have haside : ∀ remark ∈ Remark.completed r.entry.label r.lastPipe ++
      (Failure.fault fault).remarks r.entry.label r.lastPipe, remark.isAside = false := by
    intro remark hmem
    exact (List.mem_append.mp hmem).elim (Remark.isAside_completed remark)
      (Remark.isAside_remarks _ remark)
  obtain ⟨hbeside, hrun, hadds⟩ :=
    beside_of_active h ha hremarks (hsaying.trans hsaying') haside hon
  refine accounted_finish hbeside hrun hids ?_
  rw [hadds]
  exact .undelayed hd hall hc rfl

theorem accounted_complete (h : Beside r.entry s.engine.stepDelay s) (ha : s.Active r.entry r)
    (hremarks : s.remarksOn r.entry.id = [.started r.entry.label]) (hall : r.IsThrough)
    (hc : r.token.isCancelled = false)
    (hids : (Engine.ids (s.complete r.lastPipe).engine.started).Nodup)
    (hon : (s.complete r.lastPipe).output.life.enabled = true) :
    (s.complete r.lastPipe).Accounted s.engine.stepDelay := by
  obtain ⟨t, hwrites, heq⟩ := complete_eq s r.lastPipe
  have hsaying := says_of_writes hwrites
  rw [label_of_active ha] at hsaying
  have htold := beside_of_active h ha hremarks hsaying Remark.isAside_completed
  have hpaces {d : Delay} (hd : Delay.afterChain s.engine.stepDelay = .ok d) (hne : d ≠ .none)
      (hlife : (t.setPhase (.pacing r.lastPipe)).output.life.enabled = true) :
      (t.setPhase (.pacing r.lastPipe)).Accounted s.engine.stepDelay := by
    have houtput := onEngine_output t (.phase (.pacing r.lastPipe))
    obtain ⟨hbeside, hrun, hadds⟩ := htold (houtput ▸ hlife)
    exact accounted_setPhase hbeside hrun hadds fun _ _ => ⟨d, hd, hne⟩
  rw [heq] at hids hon ⊢
  cases hd : Delay.afterChain s.engine.stepDelay with
  | error fault =>
      rw [hd] at hids hon
      exact accounted_undelayed h ha hremarks hall hc hsaying hd hids hon
  | ok d =>
      rw [hd] at hids hon
      cases d with
      | none =>
          dsimp only at hids hon ⊢
          rw [output_finish] at hon
          obtain ⟨hbeside, hrun, hadds⟩ := htold hon
          refine accounted_finish hbeside hrun hids ?_
          rw [hadds]
          exact .told (.completed rfl hall) fun _ => ⟨.none, hd⟩
      | forever => exact hpaces hd (by rintro ⟨⟩) hon
      | millis q => exact accounted_timer (hpaces hd (by rintro ⟨⟩) hon) _

/-- While the running chain is carried out, it has begun, and no more than that is said
of it. -/
theorem beside_proceed (h : s.Accounted delay) (hon : s.output.life.enabled = true)
    (hids : (Engine.ids s.engine.started).Nodup) (hr : s.engine.run = some r)
    (hphase : r.phase ≠ .active) (hpacing : ∀ result, r.phase ≠ .pacing result)
    (hfinished : (s.proceed r).1.engine.finished = s.engine.finished) :
    Beside r.entry delay (s.proceed r).1 ∧
      (s.proceed r).1.remarksOn r.entry.id = [.started r.entry.label] := by
  have hasides : ∀ remark : Remark, remark.isAside = true → remark.isAside = true := fun _ => id
  have hbegun : Tells True (·.isAside = true) s (s.setPhase .active) := .untold (untold_onEngine s _)
  have hbeside := beside_of_accounted h hids hr
  have hrunning := h.running r hr
  unfold Run.remarks at hrunning
  rcases proceed_cases s hphase hpacing with ⟨p, hp, heq⟩ | ⟨hp, heq⟩
  · rw [heq] at hfinished ⊢
    rw [hp] at hrunning
    -- a chain that has waited said before that it has begun
    have htold : Tells True (·.isAside = true) s (carryOn p.rest (runStages p.rest) p.name p.pipe
        (runHandler p.handler (s.setPhase .active))).1 :=
      hbegun.trans (tells_carryOn hasides _ _ _ _ (fun _ _ _ => trivial) fun _ _ _ _ _ =>
        tells_runStages hasides _ _ _ fun _ _ _ _ _ _ _ => trivial)
    exact ⟨beside_of_tells hbeside htold hfinished, (remarksOn_of_tells htold _).trans hrunning⟩
  · rw [heq] at hfinished ⊢
    rw [hp] at hrunning
    -- a fresh one says so now, before its first stage
    have hrun := run_setPhase hr .active
    have hsame := finished_setPhase s .active
    have hactive : Beside r.entry delay (s.setPhase .active) := beside_of_tells hbeside hbegun hsame
    have hheard : (s.setPhase .active).IsHeard := by
      refine ⟨?_, hactive.context, hactive.faults⟩
      unfold setPhase
      rw [onEngine_output]
      exact hon
    obtain ⟨hstarted, hadds⟩ := beside_of_saying (r := { r with phase := .active }) hactive
      (says_report _ .info "chain started" [("chain", .str r.entry.label)]) hheard hrun
      (by simp [Remark.isAside, Event.isText, Table.get?])
    have htold := tells_runStages (C := True) hasides r.entry.chain.fragments none
      ((s.setPhase .active).report .engine .info "chain started"
        [("chain", .str r.entry.label)]) fun _ _ _ _ _ _ _ => trivial
    refine ⟨beside_of_tells hstarted htold (hfinished.trans hsame.symm), ?_⟩
    rw [remarksOn_of_tells htold, hadds, remarksOn_of_tells hbegun, hrunning]
    rfl

/-- **A turn of the running chain** adds what it has come to. -/
theorem accounted_runChain (h₀ : s₀.IsStart) (hreached : Reaches s₀ s)
    (h : s.Accounted s₀.engine.stepDelay) (hon : s.output.life.enabled = true) (hw : Wakes s u)
    (hafter : u.runChain.output.life.enabled = true) :
    u.runChain.Accounted s₀.engine.stepDelay := by
  obtain ⟨hleads, htasked⟩ := reached h₀ hreached
  obtain ⟨hengine, hmoves, hturns, hsleeps, r, hrun, hphase⟩ := run_of_wakes htasked hw
  obtain ⟨hfits, hstep⟩ := run_of_leads h₀ hleads hrun
  have hleads_u : Leads s₀ u := leads_trans hleads (leads_of_eq hengine hmoves)
  have hids_u := started_nodup h₀ hleads_u
  have hids : (Engine.ids u.runChain.engine.started).Nodup :=
    started_nodup h₀ (reached h₀ (hreached.tail (.chain hw))).1
  have hr : u.engine.run = some r := hengine ▸ hrun
  have hu : u.Accounted s₀.engine.stepDelay ∧ u.output.life.enabled = true := by
    cases hw <;>
      exact ⟨⟨h.context, h.faults, h.silent, h.running, h.ended, h.pacing⟩, hon⟩
  rcases runChain_cases hr hphase with ⟨result, hp, heq⟩ | ⟨hpacing, heq⟩
  · rw [heq] at hids ⊢
    unfold Run.PhaseFits at hfits
    rw [hp] at hfits
    obtain ⟨hall, rfl⟩ := hfits
    refine accounted_finish (beside_of_accounted hu.1 hids_u hr) hr hids ?_
    rw [hu.1.running r hr]
    unfold Run.remarks
    rw [hp]
    obtain ⟨d, hd, -⟩ := hu.1.pacing r _ hr hp
    exact .told (.completed rfl hall) fun _ => ⟨d, hd⟩
  · rw [heq] at hids hafter ⊢
    have hthere := arrives_proceed hr hfits hstep hpacing hphase hturns hsleeps
    obtain ⟨r', ha⟩ := active_of_arrives hthere
    have hfinished := finished_of_leads h₀ hleads_u hthere.leads hr ha.run ha.entry
    obtain ⟨hbeside, hremarks⟩ :=
      beside_proceed hu.1 hu.2 hids_u hr hphase hpacing hfinished
    have hdelay := stepDelay_of_leads (leads_trans hleads_u hthere.leads)
    obtain ⟨hleads', hfits', hraises⟩ := hthere
    rw [← ha.entry] at hbeside hremarks
    -- from here on it does not matter how the chain has come to where it stands
    generalize u.proceed r = there at hids hafter ha hbeside hremarks hdelay hfits' hraises ⊢
    obtain ⟨v, stand⟩ := there
    cases stand with
    | paused p rest => exact accounted_suspend hbeside ha.run hremarks p rest
    | broken pipe failure =>
        obtain ⟨r₁, ha₁, rfl⟩ := hfits'
        obtain ⟨r₂, hr₂, hfailure⟩ := hraises _ _ rfl
        obtain rfl := Option.some.inj (ha.run.symm.trans ha₁.run)
        obtain rfl := Option.some.inj (ha.run.symm.trans hr₂)
        exact accounted_fail hbeside (ha.entry ▸ ha) hremarks hfailure hids hafter
    | complete result =>
        obtain ⟨r₁, ha₁, hat, hc⟩ := hfits'
        obtain rfl := Option.some.inj (ha.run.symm.trans ha₁.run)
        obtain rfl := hat.pipe
        rw [← hdelay] at hbeside ⊢
        exact accounted_complete hbeside (ha.entry ▸ ha) hremarks
          (Run.produced_length_of_atStage hat) hc hids hafter

end CommandShell.Session
